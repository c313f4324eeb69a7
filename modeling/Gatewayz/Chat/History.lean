import Gatewayz.Exec.Tally

/-!
# `Chat.History` — the messages of a session

`routes/chat_context.py` puts the stored messages of a session before those of a request, and stores a turn when it is served; the messages
are stored by `save_chat_message` of `db/chat_history.py`. That looks for a duplicate first and is retried as a whole, and the insert in it
is retried after a lost connection, of which it cannot know whether the row was stored.

The session is there, and its other statements are answered. Moments are microseconds since the epoch.
-/

namespace Gatewayz.History

open Exec.Dictionary

structure ChatMessage where
  role : String
  content : String
  deriving DecidableEq

/-- A row of `chat_messages`. -/
structure Row where
  message : ChatMessage
  createdAt : Nat

/-- What becomes of one insert. -/
inductive Insert where
  | done
  | refused
  /-- The row is stored, and the answer lost. -/
  | lost
  deriving DecidableEq

/-- One attempt of `save_chat_message`: when it begins, and what becomes of its inserts, one after the other. -/
structure SaveAttempt where
  now : Nat
  inserts : List Insert := []

/-- `insert_message` in `_execute_with_connection_retry`, and whether it is answered. -/
def insertMessage (row : Row) : Nat → List Insert → List Row → Bool × List Row
  | 0, _, rows => (false, rows)
  | _ + 1, [], rows => (true, rows ++ [row])
  | _ + 1, .done :: _, rows => (true, rows ++ [row])
  | n + 1, .refused :: inserts, rows => insertMessage row n inserts rows
  | n + 1, .lost :: inserts, rows => insertMessage row n inserts (rows ++ [row])

/-- The duplicate check: the same message within the last five minutes. An empty one is not looked for. -/
def isDuplicate (m : ChatMessage) (now : Nat) (rows : List Row) : Bool :=
  m.content ≠ "" && rows.any fun row => row.message = m && now - 300000000 ≤ row.createdAt

/-- `save_chat_message`, attempt by attempt, and whether it returns. -/
def saveChatMessage (m : ChatMessage) : List SaveAttempt → List Row → Bool × List Row
  | [], rows => (false, rows)
  | attempt :: attempts, rows =>
    if isDuplicate m attempt.now rows then (true, rows)
    else
      match insertMessage ⟨m, attempt.now⟩ 4 attempt.inserts rows with
      | (true, rows) => (true, rows)
      | (false, rows) => saveChatMessage m attempts rows

/-- `get_chat_session(...)["messages"]`, as `inject_conversation_history` prepends them. -/
def history (rows : List Row) : List ChatMessage := (sortOn Row.createdAt rows).map Row.message

/-- A turn that is served: the messages of the request, the text of the answer, empty if it has none, and how both are stored. -/
structure Turn where
  messages : List ChatMessage
  answer : String
  userSave : List SaveAttempt
  answerSave : List SaveAttempt

/-- The last message of the user. -/
def lastUser (messages : List ChatMessage) : Option ChatMessage := messages.reverse.find? fun m => m.role = "user"

/-- The second half of `persist_conversation_turn`. -/
def saveAnswer (t : Turn) (rows : List Row) : List Row :=
  if t.answer = "" then rows else (saveChatMessage ⟨"assistant", t.answer⟩ (t.answerSave.take 3) rows).2

/-- A turn, with the history before its messages, and then `persist_conversation_turn` with all of them. -/
def serveTurn (rows : List Row) (t : Turn) : List Row :=
  match lastUser (history rows ++ t.messages) with
  | none => saveAnswer t rows
  | some m =>
    match saveChatMessage m (t.userSave.take 3) rows with
    | (true, rows) => saveAnswer t rows
    | (false, rows) => rows

end Gatewayz.History
