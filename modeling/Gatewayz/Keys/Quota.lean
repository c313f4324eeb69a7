import Gatewayz.Chat.Route
import Gatewayz.Exec.Machine
import Gatewayz.Keys.Acceptance

/-!
# `Keys.Quota` — chat requests that come with one key

Any number of requests come with a key, and any number of them are under way at a time. Each is let in by `getOptionalApiKey` on
the key table, then runs as `serve` does, and where that comes to the step `incrementApiKeyUsage`, it counts itself on the key
table, with a read and a write.
-/

namespace Gatewayz.Keys

open Exec

/-- What a request brings, and the times at which it is looked at. -/
structure QuotaRequest where
  body : ChatRequest
  caller : Caller := {}
  /-- What the process remembers of the key. -/
  cached : Option KeyUser := none
  acceptedAt : Int := 0
  countedAt : Int := 0

/-- How far a request is. -/
inductive Stage where
  | new
  | accepting (p : KeyProg (Option String))
  /-- Refused: it goes on without the key. -/
  | anonymous
  /-- In the route, after so many counts; with the events that the client has been sent. -/
  | chatting (counts : Nat) (sent : List SseEvent) (p : ChatProg ClientAnswer)
  | counting (counts : Nat) (sent : List SseEvent) (p : KeyProg Unit) (rest : Except ChatErr Unit → ChatProg ClientAnswer)
  | ended (sent : List SseEvent) (result : Except ChatErr ClientAnswer)

/-- It has begun and not ended. -/
def Stage.InProgress : Stage → Prop
  | .accepting _ => True
  | .chatting _ _ _ => True
  | .counting _ _ _ _ => True
  | _ => False

instance (stage : Stage) : Decidable stage.InProgress := by
  apply stage.casesOn (motive := fun stage => Decidable stage.InProgress)
  · exact .isFalse id
  · exact fun _ => .isTrue trivial
  · exact .isFalse id
  · exact fun _ _ _ => .isTrue trivial
  · exact fun _ _ _ _ => .isTrue trivial
  · exact fun _ _ => .isFalse id

/-- The client was served a completion: a response in one piece, or a stream to its end without an error event. -/
def isCompletion (sent : List SseEvent) : ClientAnswer → Bool
  | .response _ _ => true
  | .streamed => sent.contains .done && sent.all fun
      | .error _ => false
      | _ => true

def sentBy : ChatStmt → List SseEvent
  | .send e => [e]
  | _ => []

/-- The requests on a key, the key table, what the chat code works on, and who has been served. -/
structure QuotaState (ι : Type) where
  stage : ι → Stage := fun _ => .new
  keys : KeyWorld
  chat : ChatWorld
  served : List ι := []

structure QuotaEvent (ι : Type) where
  who : ι
  keyLink : Outcome PyErr := .served
  chatLink : Outcome ChatErr := .served

section Machine

variable {ι : Type} [DecidableEq ι] (env : ChatEnv) (crypto : Crypto) (net : Net) (apiKey : String) (requests : ι → QuotaRequest)

def QuotaState.put (s : QuotaState ι) (i : ι) (stage : Stage) : QuotaState ι :=
  { s with stage := Function.update s.stage i stage }

/-- The next move of a request in the route. -/
def chatMove (s : QuotaState ι) (i : ι) (link : Outcome ChatErr) (counts : Nat) (sent : List SseEvent) :
    ChatProg ClientAnswer → QuotaState ι
  | .ret a => { s.put i (.ended sent (.ok a)) with served := if isCompletion sent a then s.served ++ [i] else s.served }
  | .fail e => s.put i (.ended sent (.error e))
  | .ask (.task .incrementApiKeyUsage) k =>
    { s.put i (.counting counts sent (incrementApiKeyUsage (requests i).countedAt apiKey) k) with chat := s.chat.tick }
  | .ask q k =>
    { s.put i (.chatting counts (sent ++ sentBy q) (k (answer (chatExec env) q link s.chat).1)) with
      chat := (answer (chatExec env) q link s.chat).2 }

/-- The next move of a request. -/
def quotaMove (s : QuotaState ι) (e : QuotaEvent ι) : Option (QuotaState ι) :=
  match s.stage e.who with
  | .new =>
    let r := requests e.who
    some (s.put e.who (.accepting (getOptionalApiKey crypto net r.acceptedAt r.cached (some apiKey) r.caller)))
  | .accepting (.ret none) => some (s.put e.who .anonymous)
  | .accepting (.ret (some _)) => some (s.put e.who (.chatting 0 [] (serve env.config (requests e.who).body apiKey)))
  | .accepting (.fail x) => some (s.put e.who (.ended [] (.error (.exception (.py x)))))
  | .accepting (.ask q k) =>
    let (r, keys) := answer KeyWorld.exec q e.keyLink s.keys
    some { s.put e.who (.accepting (k r)) with keys := keys }
  | .chatting counts sent p => some (chatMove env apiKey requests s e.who e.chatLink counts sent p)
  | .counting counts sent (.ret ()) k => some (s.put e.who (.chatting (counts + 1) sent (k (.ok ()))))
  | .counting counts sent (.fail x) k => some (s.put e.who (.chatting counts sent (k (.error (.exception (.py x))))))
  | .counting counts sent (.ask q k') k =>
    let (r, keys) := answer KeyWorld.exec q e.keyLink s.keys
    some { s.put e.who (.counting counts sent (k' r) k) with keys := keys }
  | .anonymous => none
  | .ended _ _ => none

/-- The requests on a key. -/
def quotaMachine (keys : KeyWorld) (chat : ChatWorld) : Machine (QuotaState ι) (QuotaEvent ι) Unit where
  init := { keys := keys, chat := chat }
  step := fun s e => (quotaMove env crypto net apiKey requests s e).map fun s' => (s', ())

end Machine

end Gatewayz.Keys
