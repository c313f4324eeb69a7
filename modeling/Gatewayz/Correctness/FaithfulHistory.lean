import Gatewayz.Chat.History

/-!
# `Correctness.FaithfulHistory` — the history of a session is what was said in it

In turn order and each once: the last message of the user in each request, and the answer if there is one. The turns for which this is so are
`Clean`: the request itself has a message of the user, or no earlier one had; nothing that is stored has been said within five minutes
before; no insert is stored without being answered; and the clock goes on.
-/

namespace Gatewayz.History

open Exec.Dictionary

/-! ## The claim -/

/-- What a turn adds to the conversation. -/
def Turn.said (t : Turn) : List ChatMessage :=
  (lastUser t.messages).toList ++ if t.answer = "" then [] else [⟨"assistant", t.answer⟩]

def served (turns : List Turn) : List Row := turns.foldl serveTurn []

/-- A message is stored: some attempt is not refused throughout, none loses an answer, and before none of them it is a duplicate. -/
structure Saves (m : ChatMessage) (rows : List Row) (attempts : List SaveAttempt) : Prop where
  answered : ∃ a ∈ attempts, a.inserts.take 4 ≠ List.replicate 4 .refused
  kept : ∀ a ∈ attempts, .lost ∉ a.inserts
  fresh : ∀ a ∈ attempts, isDuplicate m a.now rows = false
  later : ∀ a ∈ attempts, ∀ row ∈ rows, row.createdAt < a.now

/-- A clean turn, where these rows are stored. -/
structure Clean (rows : List Row) (t : Turn) : Prop where
  own : lastUser t.messages = none → lastUser (history rows) = none
  user : ∀ m ∈ lastUser t.messages, Saves m rows (t.userSave.take 3)
  answer : t.answer ≠ "" → Saves ⟨"assistant", t.answer⟩ rows (t.answerSave.take 3)
  order : ∀ a ∈ t.userSave, ∀ b ∈ t.answerSave, a.now < b.now

/-- Every turn is clean where it is served. -/
def CleanRun : List Row → List Turn → Prop
  | _, [] => True
  | rows, t :: turns => Clean rows t ∧ CleanRun (serveTurn rows t) turns

/-! ## One save -/

section Save

variable {m : ChatMessage} {rows : List Row}

theorem insertMessage_cases {row : Row} {inserts : List Insert} (h : .lost ∉ inserts) (n : Nat) :
    insertMessage row n inserts rows = (true, rows ++ [row]) ∨
      insertMessage row n inserts rows = (false, rows) ∧ inserts.take n = List.replicate n .refused := by
  induction n generalizing inserts with
  | zero => exact .inr ⟨rfl, rfl⟩
  | succ n ih =>
    cases inserts with
    | nil => exact .inl rfl
    | cons insert inserts =>
      cases insert with
      | done => exact .inl rfl
      | lost => exact absurd List.mem_cons_self h
      | refused =>
        refine (ih fun hmem => h (List.mem_cons_of_mem _ hmem)).imp id fun ⟨hrun, htake⟩ => ⟨hrun, ?_⟩
        rw [List.take_succ_cons, htake, List.replicate_succ]

theorem Saves.run {attempts : List SaveAttempt} (h : Saves m rows attempts) :
    ∃ a ∈ attempts, saveChatMessage m attempts rows = (true, rows ++ [⟨m, a.now⟩]) := by
  induction attempts with
  | nil =>
    obtain ⟨a, ha, -⟩ := h.answered
    cases ha
  | cons a attempts ih =>
    have hmem : a ∈ a :: attempts := List.mem_cons_self
    rw [saveChatMessage, if_neg (by rw [h.fresh a hmem]; exact Bool.false_ne_true)]
    rcases @insertMessage_cases rows ⟨m, a.now⟩ _ (h.kept a hmem) 4 with hrun | ⟨hrun, hrefused⟩
    · exact ⟨a, hmem, by rw [hrun]⟩
    · -- nothing is stored yet, so an attempt after this one stores it
      rw [hrun]
      obtain ⟨b, hb, hanswered⟩ := h.answered
      have hlater : b ∈ attempts := (List.mem_cons.mp hb).resolve_left fun heq => hanswered (heq ▸ hrefused)
      obtain ⟨c, hc, hsaved⟩ := ih
        { answered := ⟨b, hlater, hanswered⟩
          kept := fun x hx => h.kept x (List.mem_cons_of_mem a hx)
          fresh := fun x hx => h.fresh x (List.mem_cons_of_mem a hx)
          later := fun x hx => h.later x (List.mem_cons_of_mem a hx) }
      exact ⟨c, List.mem_cons_of_mem a hc, hsaved⟩

theorem isDuplicate_append {row : Row} {now : Nat} (h : row.message ≠ m) :
    isDuplicate m now (rows ++ [row]) = isDuplicate m now rows := by
  simp [isDuplicate, h]

end Save

/-! ## One turn -/

/-- The rows hold these messages, in the order of their moments. -/
structure Kept (rows : List Row) (said : List ChatMessage) : Prop where
  messages : rows.map Row.message = said
  sorted : rows.Pairwise fun a b => a.createdAt < b.createdAt

section Turn

variable {rows : List Row} {said : List ChatMessage} {t : Turn}

theorem Kept.history (h : Kept rows said) : history rows = said := by
  have hsorted : rows.Pairwise fun a b => a.createdAt ≤ b.createdAt := h.sorted.imp Nat.le_of_lt
  rw [History.history, sortOn, hsorted.insertionSort_eq, h.messages]

theorem Kept.append {row : Row} (h : Kept rows said) (hlater : ∀ r ∈ rows, r.createdAt < row.createdAt) :
    Kept (rows ++ [row]) (said ++ [row.message]) := by
  refine ⟨by rw [List.map_append, h.messages]; rfl, List.pairwise_append.mpr ⟨h.sorted, List.pairwise_singleton _ _, ?_⟩⟩
  intro r hr r' hr'
  rw [List.mem_singleton.mp hr']
  exact hlater r hr

theorem Kept.saveAnswer (h : Kept rows said)
    (hsaves : t.answer ≠ "" → Saves ⟨"assistant", t.answer⟩ rows (t.answerSave.take 3)) :
    Kept (saveAnswer t rows) (said ++ if t.answer = "" then [] else [⟨"assistant", t.answer⟩]) := by
  unfold History.saveAnswer
  by_cases hempty : t.answer = ""
  · rw [if_pos hempty, if_pos hempty, List.append_nil]
    exact h
  · rw [if_neg hempty, if_neg hempty]
    obtain ⟨a, ha, hrun⟩ := (hsaves hempty).run
    rw [hrun]
    exact h.append ((hsaves hempty).later a ha)

theorem lastUser_append {before messages : List ChatMessage} :
    lastUser (before ++ messages) = (lastUser messages).or (lastUser before) := by
  rw [lastUser, List.reverse_append, List.find?_append]
  rfl

/-- One turn, if it is clean, adds its own messages. -/
theorem Kept.serveTurn (h : Kept rows said) (hclean : Clean rows t) : Kept (serveTurn rows t) (said ++ t.said) := by
  unfold History.serveTurn Turn.said
  rw [lastUser_append]
  cases hlast : lastUser t.messages with
  | none =>
    rw [hclean.own hlast]
    exact h.saveAnswer hclean.answer
  | some m =>
    have hsaves := hclean.user m hlast
    obtain ⟨a, ha, hrun⟩ := hsaves.run
    have huser : m.role = "user" := of_decide_eq_true (List.find?_some (p := fun m : ChatMessage => m.role = "user") hlast)
    rw [Option.some_or]
    dsimp only
    rw [hrun, Option.toList_some, ← List.append_assoc]
    refine (h.append (hsaves.later a ha)).saveAnswer fun hanswer => ?_
    have hother : m ≠ ⟨"assistant", t.answer⟩ := fun heq =>
      absurd (show "user" = "assistant" from huser.symm.trans (congrArg ChatMessage.role heq)) (by decide)
    have hsecond := hclean.answer hanswer
    refine ⟨hsecond.answered, hsecond.kept, fun b hb => ?_, fun b hb row hrow => ?_⟩
    · rw [isDuplicate_append hother]
      exact hsecond.fresh b hb
    · rcases List.mem_append.mp hrow with hold | hnew
      · exact hsecond.later b hb row hold
      · rw [List.mem_singleton.mp hnew]
        exact hclean.order a (List.mem_of_mem_take ha) b (List.mem_of_mem_take hb)

end Turn

/-! ## All turns -/

theorem Kept.run {rows : List Row} {said : List ChatMessage} {turns : List Turn} (h : Kept rows said) (hclean : CleanRun rows turns) :
    Kept (turns.foldl History.serveTurn rows) (said ++ turns.flatMap Turn.said) := by
  induction turns generalizing rows said with
  | nil =>
    rw [List.flatMap_nil, List.append_nil]
    exact h
  | cons t turns ih =>
    rw [List.foldl_cons, List.flatMap_cons, ← List.append_assoc]
    exact ih (h.serveTurn hclean.1) hclean.2

/-- A turn whose saves need no retry. -/
def plainTurn (question answer : String) (now : Nat) : Turn where
  messages := [⟨"user", question⟩]
  answer := answer
  userSave := [{ now }]
  answerSave := [{ now := now + 1 }]

/-- The first insert of the question is refused. -/
def retriedTurn : Turn := { plainTurn "Hi" "Hello" 1 with userSave := [{ now := 1, inserts := [.refused, .done] }] }

end Gatewayz.History
