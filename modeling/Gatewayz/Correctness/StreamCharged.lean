import Gatewayz.Chat.Parts

/-!
# `Correctness.StreamCharged` — streamed text is charged once, on the usage upstream reports

`process_stream` charges after its loop: if the stream has ended, the client has gone or the time is up. It does not charge if a step of
the loop raises, be it the provider's stream that fails or a consumer that closes the generator, however much text has been handed out
by then.

A **tape** runs along with the program and takes down what came from upstream, what was not let through and what was charged.
`charged_once_iff` reads off it when text that came is charged once, on the last usage.
-/

namespace Gatewayz

open Exec

/-! ## Chunks -/

def ProviderChunk.text (c : ProviderChunk) : String := ((c.choice.bind Prod.fst).bind ChunkDelta.content).getD ""

def ProviderChunk.handedOut (c : ProviderChunk) : Bool :=
  match c.choice with
  | none => false
  | some (delta, finishReason) => delta.isSome || finishReason.isSome

def lastCounted (chunks : List ProviderChunk) : Option ProviderUsage := (chunks.filterMap ProviderChunk.usage).getLast?

def textChars (chunks : List ProviderChunk) : ℕ := (chunks.map fun c => c.text.length).sum

def ProviderUsage.Tells (u : ProviderUsage) : Prop := u.promptTokens ≠ 0 ∨ u.completionTokens ≠ 0

instance (u : ProviderUsage) : Decidable u.Tells := inferInstanceAs (Decidable (_ ∨ _))

/-! ## The tape -/

/-- What is taken down of a stream. -/
structure Tape where
  stream : Option ProviderStream := none
  /-- How many of its chunks have come. -/
  received : ℕ := 0
  /-- The loop was left at the last of them. -/
  left : Bool := false
  /-- A step has failed since text came, and before anything was charged. -/
  disturbed : Bool := false
  charges : List Dict := []

namespace Tape

variable (t : Tape)

def chunks : List ProviderChunk := ((t.stream.map ProviderStream.chunks).getD []).take t.received

def taken : List ProviderChunk := if t.left then t.chunks.dropLast else t.chunks

def delivered : Bool := t.chunks.any fun c => c.text ≠ ""

/-- What is taken down after a step. A stream that cannot be closed is let be. -/
def note (t : Tape) (s : ChatStmt) (r : Except ChatErr (ChatRes s)) (_ _ : ChatWorld) : Tape :=
  match s, r with
  | .openStream _ _ _, .ok (.ok stream) => { t with stream := some stream }
  | .task .awaitChunk, .ok () => { t with received := t.received + 1 }
  | .isDisconnected, .ok true => { t with left := true }
  | .pastDeadline, .ok true => { t with left := true }
  | .deductCredits _ _ metadata, _ => { t with charges := t.charges ++ [metadata] }
  | .task .closeStream, .error (.exception _) => t
  | _, .error _ => if t.delivered ∧ t.charges = [] then { t with disturbed := true } else t
  | _, .ok _ => t

/-- Nothing got in the way: no step has failed, and the provider's stream has not either, unless the loop was left before. -/
def Undisturbed : Prop := t.disturbed = false ∧ (t.left = true ∨ t.stream.bind ProviderStream.failure = none)

/-- The last usage was read: it has tokens, and they are those of the last usage handed out; or none was handed out that has any, and
the estimate that is made then happens to be it. -/
def UsageRead (r : InternalChatRequest) : Prop :=
  ∀ u, lastCounted t.chunks = some u →
    (∃ v, lastCounted (t.taken.filter ProviderChunk.handedOut) = some v ∧ v.Tells ∧
      v.promptTokens = u.promptTokens ∧ v.completionTokens = u.completionTokens) ∨
    ((∀ v, lastCounted (t.taken.filter ProviderChunk.handedOut) = some v → ¬ v.Tells) ∧
      u.promptTokens = max 1 (r.messages.chars / 4) ∧ u.completionTokens = max 1 (textChars t.taken / 4))

/-- Charged once, on the last usage of any chunk that came; on an estimate if there was none. -/
def ChargedOnce (h : ChatHandler) (r : InternalChatRequest) : Prop :=
  ∃ cost tokens, t.charges = [h.chargeMetadata cost r.model tokens] ∧
    match lastCounted t.chunks with
    | some u => tokens.prompt = u.promptTokens ∧ tokens.completion = u.completionTokens
    | none => tokens.prompt = max 1 (r.messages.chars / 4) ∧ tokens.completion = max 1 (textChars t.taken / 4)

end Tape

abbrev tapeRuns (env : ChatEnv) : Setting ChatErr ChatStmt ChatRes Tape ChatWorld :=
  chatRuns env Tape.note fun _ _ _ _ => True

def tapeOf (env : ChatEnv) (h : ChatHandler) (r : InternalChatRequest) (os : List (Outcome ChatErr)) (w : ChatWorld) : Tape :=
  (h.processStream r).noted (tapeRuns env) os {} w

/-! ## What the loop has counted -/

def countedIn (chunks : List ProviderChunk) : ChatHandler.StreamState where
  counts := ((lastCounted (chunks.filter ProviderChunk.handedOut)).map fun u => ProviderUsage.counts (some u)).getD noTokens
  contentChars := textChars chunks

variable (chunks : List ProviderChunk)

theorem lastCounted_append_singleton (c : ProviderChunk) :
    lastCounted (chunks ++ [c]) = c.usage.or (lastCounted chunks) := by
  unfold lastCounted
  rw [List.filterMap_append]
  cases h : c.usage with
  | none => simp [h]
  | some u => simp [h]

theorem textChars_append_singleton (c : ProviderChunk) :
    textChars (chunks ++ [c]) = textChars chunks + c.text.length := by
  unfold textChars
  rw [List.map_append, List.sum_append, List.map_singleton, List.sum_singleton]

variable {c : ProviderChunk}

theorem countedIn_handedOut {delta : Option ChunkDelta} {finishReason : Option String}
    (hchoice : c.choice = some (delta, finishReason)) (hhanded : c.handedOut = true) :
    (countedIn chunks).after delta c.usage = countedIn (chunks ++ [c]) := by
  have htext : c.text = (delta.bind ChunkDelta.content).getD "" := by
    unfold ProviderChunk.text
    rw [hchoice]
    rfl
  unfold countedIn ChatHandler.StreamState.after
  rw [textChars_append_singleton, htext, List.filter_append, List.filter_cons_of_pos hhanded, List.filter_nil,
    lastCounted_append_singleton]
  cases c.usage with
  | none => rfl
  | some u => rfl

theorem countedIn_dropped (hhanded : c.handedOut = false) : countedIn chunks = countedIn (chunks ++ [c]) := by
  have htext : c.text = "" := by
    unfold ProviderChunk.text
    unfold ProviderChunk.handedOut at hhanded
    cases hchoice : c.choice with
    | none => rfl
    | some choice =>
      obtain ⟨delta, finishReason⟩ := choice
      rw [hchoice] at hhanded
      obtain ⟨hdelta, -⟩ := Bool.or_eq_false_iff.mp hhanded
      rw [Option.isSome_eq_false_iff, Option.isNone_iff_eq_none] at hdelta
      rw [hdelta]
      rfl
  unfold countedIn
  rw [textChars_append_singleton, htext, List.filter_append, List.filter_cons_of_neg (by simp [hhanded]), List.filter_nil,
    List.append_nil]
  rfl

variable {model : String} {st : ChatHandler.StreamState}

theorem handedOut_of_normalized_none {h : ChatHandler} {created : Time}
    (hnone : h.normalized model created st c = none) : c.handedOut = false := by
  unfold ChatHandler.normalized at hnone
  unfold ProviderChunk.handedOut
  cases hchoice : c.choice with
  | none => rfl
  | some choice =>
    rw [hchoice] at hnone
    dsimp only at hnone ⊢
    split at hnone
    · cases hnone
    · next hneither =>
      rw [Bool.eq_false_iff, Ne, Bool.or_eq_true]
      exact hneither

theorem counted_of_normalized {h : ChatHandler} {created : Time} {st st' : ChatHandler.StreamState}
    {chunk : InternalStreamChunk} {chunks : List ProviderChunk} (hst : st = countedIn chunks)
    (hsome : h.normalized model created st c = some (chunk, st')) : st' = countedIn (chunks ++ [c]) := by
  unfold ChatHandler.normalized at hsome
  cases hchoice : c.choice with
  | none =>
    rw [hchoice] at hsome
    cases hsome
  | some choice =>
    obtain ⟨delta, finishReason⟩ := choice
    rw [hchoice] at hsome
    dsimp only at hsome
    split at hsome
    · next hpassed =>
      have hhanded : c.handedOut = true := by
        unfold ProviderChunk.handedOut
        rw [hchoice]
        exact Bool.or_eq_true_iff.mpr hpassed
      cases hsome
      rw [hst]
      exact countedIn_handedOut chunks hchoice hhanded
    · cases hsome

/-! ## The loop -/

variable {s : ChatStmt}

section Loop

variable {env : ChatEnv} {h : ChatHandler} {t : Tape} {w : ChatWorld}

def Aborted (t : Tape) : Prop := t.charges = [] ∧ (t.delivered = true → ¬ t.Undisturbed)

def Tape.fail (t : Tape) : Tape := if t.delivered ∧ t.charges = [] then { t with disturbed := true } else t

theorem aborted_fail (hc : t.charges = []) : Aborted t.fail := by
  unfold Tape.fail
  split_ifs with hd
  · exact ⟨hc, fun _ hu => Bool.noConfusion hu.1⟩
  · exact ⟨hc, fun hdelivered => absurd ⟨hdelivered, hc⟩ hd⟩

theorem wp_beforeCharge (hfail : ∀ e w w', t.note s (.error e) w w' = t.fail) (hc : t.charges = [])
    {Q : ChatRes s → Tape → ChatWorld → Prop} (hok : ∀ a w w', Q a (t.note s (.ok a) w w') w') :
    (call s).wp (tapeRuns env) .alone Q (fun _ t _ => Aborted t) t w := by
  refine wp_alone_stmt (C := tapeRuns env) fun o _ => ?_
  generalize (answer (tapeRuns env).exec s o w).1 = r
  cases r with
  | ok a => exact hok a w _
  | error e =>
    have hnote := hfail e w (answer (tapeRuns env).exec s o w).2
    show Aborted (t.note s (.error e) w (answer (tapeRuns env).exec s o w).2)
    rw [hnote]
    exact aborted_fail hc

/-- In the loop, before the chunk with the number `n`. -/
structure Reading (stream : ProviderStream) (n : ℕ) (st : ChatHandler.StreamState) (t : Tape) : Prop where
  opened : t.stream = some stream
  received : t.received = n
  left : t.left = false
  disturbed : t.disturbed = false
  charges : t.charges = []
  counted : st = countedIn (stream.chunks.take n)

structure Over (st : ChatHandler.StreamState) (t : Tape) : Prop where
  undisturbed : t.Undisturbed
  charges : t.charges = []
  counted : st = countedIn t.taken

theorem wp_streamChunk {stream : ProviderStream} {n : ℕ} {cs : List ProviderChunk}
    (hdrop : stream.chunks.drop n = c :: cs) (model : String) (hr : Reading stream n st t) :
    (h.streamChunk model st c).wp (tapeRuns env) .alone
      (fun turn t _ => match turn with
        | some st' => Reading stream (n + 1) st' t
        | none => Over st t)
      (fun _ t _ => Aborted t) t w := by
  have hnth : stream.chunks[n]? = some c := by
    rw [← List.head?_drop, hdrop, List.head?_cons]
  have htake : stream.chunks.take (n + 1) = stream.chunks.take n ++ [c] := by
    rw [List.take_add_one, hnth, Option.toList_some]
  unfold ChatHandler.streamChunk
  rw [wp_bind]
  refine wp_beforeCharge (fun _ _ _ => rfl) hr.charges fun _ _ w => ?_
  -- the chunk has come
  set came : Tape := t.note (.task .awaitChunk) (.ok ()) w w with hcame
  have hcharges : came.charges = [] := hr.charges
  have hchunks : came.chunks = stream.chunks.take n ++ [c] := by
    show ((t.stream.map ProviderStream.chunks).getD []).take (t.received + 1) = _
    rw [hr.opened, hr.received, ← htake]
    rfl
  have hleft : ({ came with left := true } : Tape).taken = stream.chunks.take n := by
    show came.chunks.dropLast = _
    rw [hchunks, List.dropLast_concat]
  have hover : Over st { came with left := true } := ⟨⟨hr.disturbed, .inl rfl⟩, hr.charges, by rw [hleft]; exact hr.counted⟩
  have hreading : ∀ st', st' = countedIn (stream.chunks.take n ++ [c]) → Reading stream (n + 1) st' came := by
    intro st' hst
    have hreceived : came.received = n + 1 := congrArg (· + 1) hr.received
    exact ⟨hr.opened, hreceived, hr.left, hr.disturbed, hr.charges, by rw [hst, htake]⟩
  change Prog.wp _ _ _ _ _ came _
  rw [wp_bind]
  refine wp_beforeCharge (fun _ _ _ => rfl) hcharges fun disconnected _ w => ?_
  cases disconnected with
  | true => exact hover
  | false =>
    change Prog.wp _ _ _ _ _ came _
    rw [if_neg Bool.false_ne_true, wp_bind]
    refine wp_beforeCharge (fun _ _ _ => rfl) hcharges fun late _ w => ?_
    cases late with
    | true => exact hover
    | false =>
      change Prog.wp _ _ _ _ _ came _
      rw [if_neg Bool.false_ne_true, wp_bind]
      refine wp_beforeCharge (fun _ _ _ => rfl) hcharges fun created _ w => ?_
      change Prog.wp _ _ _ _ _ came _
      cases hnormalized : h.normalized model created st c with
      | none => exact hreading st (hr.counted.trans (countedIn_dropped _ (handedOut_of_normalized_none hnormalized)))
      | some passed =>
        obtain ⟨chunk, st'⟩ := passed
        dsimp only
        rw [wp_bind]
        refine wp_beforeCharge (fun _ _ _ => rfl) hcharges fun _ _ w => ?_
        exact hreading st' (counted_of_normalized hr.counted hnormalized)

/-- The loop: it is over and all that was taken is counted, or it has failed. -/
theorem wp_streamChunks {stream : ProviderStream} {cs : List ProviderChunk} {n : ℕ}
    (hdrop : stream.chunks.drop n = cs) (model : String) (hr : Reading stream n st t) :
    (h.streamChunks model stream.failure st cs).wp (tapeRuns env) .alone
      (fun looped t _ => match looped.2 with
        | .ok () => Over looped.1 t
        | .error _ => Aborted t)
      (fun _ _ _ => False) t w := by
  induction cs generalizing n st t w with
  | nil =>
    have hall : t.chunks = stream.chunks := by
      unfold Tape.chunks
      rw [hr.opened, hr.received]
      exact List.take_of_length_le (List.drop_eq_nil_iff.mp hdrop)
    cases hfailure : stream.failure with
    | none =>
      have htaken : t.taken = stream.chunks.take n := by
        unfold Tape.taken
        rw [hr.left, if_neg Bool.false_ne_true, hall]
        exact (List.take_of_length_le (List.drop_eq_nil_iff.mp hdrop)).symm
      refine ⟨⟨hr.disturbed, .inr ?_⟩, hr.charges, by rw [htaken]; exact hr.counted⟩
      rw [hr.opened]
      exact hfailure
    | some e =>
      refine ⟨hr.charges, fun _ hu => ?_⟩
      rcases hu.2 with hleft | hnone
      · rw [hr.left] at hleft
        cases hleft
      · rw [hr.opened] at hnone
        cases hfailure.symm.trans hnone
  | cons c cs ih =>
    have hrest : stream.chunks.drop (n + 1) = cs := by
      rw [← List.tail_drop, hdrop, List.tail_cons]
    unfold ChatHandler.streamChunks
    rw [wp_bind, wp_attempt]
    refine wp_mono (fun turn t w hturn => ?_) (fun _ _ _ ha => ha) (wp_streamChunk hdrop model hr)
    cases turn with
    | some st' => exact ih hrest hturn
    | none => exact hturn

end Loop

/-! ## Before and after the loop -/

section Stream

variable {env : ChatEnv} {h : ChatHandler} {t : Tape} {w : ChatWorld}

structure Unread (t : Tape) : Prop where
  received : t.received = 0
  left : t.left = false
  disturbed : t.disturbed = false
  charges : t.charges = []

theorem Unread.not_delivered (hf : Unread t) : t.delivered = false := by
  have hchunks : t.chunks = [] := by
    unfold Tape.chunks
    rw [hf.received, List.take_zero]
  unfold Tape.delivered
  rw [hchunks, List.any_nil]

theorem Unread.aborted (hf : Unread t) : Aborted t :=
  ⟨hf.charges, fun hdelivered => absurd (hf.not_delivered.symm.trans hdelivered) Bool.false_ne_true⟩

theorem Unread.fail (hf : Unread t) : t.fail = t := by
  unfold Tape.fail
  rw [if_neg fun hd => absurd (hf.not_delivered.symm.trans hd.1) Bool.false_ne_true]

/-- Steps that come before a stream is opened. -/
def ChatStmt.BeforeStream : ChatStmt → Prop
  | .task _ => False
  | .isDisconnected => False
  | .pastDeadline => False
  | .openStream _ _ _ => False
  | .deductCredits _ _ _ => False
  | _ => True

theorem note_beforeStream (hs : s.BeforeStream) (r : Except ChatErr (ChatRes s)) (w w' : ChatWorld) :
    t.note s r w w' = t ∨ t.note s r w w' = t.fail := by
  cases s with
  | task _ | isDisconnected | pastDeadline | openStream _ _ _ | deductCredits _ _ _ => exact hs.elim
  | _ =>
    cases r with
    | ok a => exact .inl rfl
    | error e => exact .inr rfl

theorem keeps_unread : StepsKeep (tapeRuns env) ChatStmt.BeforeStream fun t _ => Unread t where
  step := fun s hs t o w _ hf => by
    have hsame : t.note s (answer (tapeRuns env).exec s o w).1 w (answer (tapeRuns env).exec s o w).2 = t := by
      rcases note_beforeStream (t := t) hs (answer (tapeRuns env).exec s o w).1 w (answer (tapeRuns env).exec s o w).2 with hnote | hnote
      · exact hnote
      · exact hnote.trans hf.fail
    show Unread (t.note s (answer (tapeRuns env).exec s o w).1 w (answer (tapeRuns env).exec s o w).2)
    rw [hsame]
    exact hf

theorem wp_callProviderStream (provider modelId : String) (maxTokens : Option ℕ) (hf : Unread t) :
    (callProviderStream provider modelId maxTokens).wp (tapeRuns env) .alone
      (fun opened t _ => Reading opened.1 0 {} t) (fun _ t _ => Unread t) t w := by
  unfold callProviderStream
  rw [wp_bind]
  have hbind : (bindByok provider).Stays ChatStmt.BeforeStream fun _ => True :=
    stays_exceptException (stays_call trivial) fun _ => trivial
  refine wp_mono (fun byok t w hf => ?_) (fun _ _ _ hf => hf) (keeps_unread.wp hbind hf)
  rw [wp_exceptException, wp_bind]
  refine wp_alone_stmt (C := tapeRuns env) fun o _ => ?_
  generalize (answer (tapeRuns env).exec (.openStream provider modelId maxTokens) o w).1 = r
  rcases r with e | (e | stream)
  · have hunread : Unread t.fail := by
      rw [hf.fail]
      exact hf
    cases e with
    | exception e => cases e <;> exact hunread
    | cancelled => exact hunread
    | generatorExit => exact hunread
  · cases e <;> exact hf
  · exact ⟨rfl, hf.received, hf.left, hf.disturbed, hf.charges, rfl⟩

theorem wp_closeStream (hc : t.charges = []) {Q : Unit → Tape → ChatWorld → Prop} (hQ : ∀ w, Q () t w) :
    (quietly (call (.task .closeStream))).wp (tapeRuns env) .alone Q (fun _ t _ => Aborted t) t w := by
  refine wp_quietly (wp_alone_stmt (C := tapeRuns env) fun o _ => ?_)
  generalize (answer (tapeRuns env).exec (.task .closeStream) o w).1 = r
  rcases r with e | ⟨⟩
  · cases e with
    | exception e => exact hQ _
    | cancelled => exact aborted_fail hc
    | generatorExit => exact aborted_fail hc
  · exact hQ _

theorem wp_consumeStream (r : InternalChatRequest) (provider modelId : String) (maxTokens : Option ℕ) (hf : Unread t) :
    (h.consumeStream r provider modelId maxTokens).wp (tapeRuns env) .alone
      (fun consumed t _ => match consumed.2.2 with
        | .ok () => Over consumed.2.1 t
        | .error _ => Aborted t)
      (fun _ t _ => Aborted t) t w := by
  unfold ChatHandler.consumeStream
  rw [wp_andFinally, wp_bind]
  refine wp_mono (fun opened t w hr => ?_) (fun e t w hf => ?_) (wp_callProviderStream provider modelId maxTokens hf)
  · obtain ⟨stream, byok⟩ := opened
    dsimp only
    rw [wp_bind]
    refine wp_mono (fun looped t w hlooped => ?_) (fun _ _ _ hfalse => hfalse.elim) (wp_streamChunks rfl r.model hr)
    obtain ⟨st, ended⟩ := looped
    cases ended with
    | ok a => exact wp_closeStream hlooped.charges fun _ => hlooped
    | error e => exact wp_closeStream hlooped.1 fun _ => hlooped
  · exact wp_closeStream hf.charges fun _ => hf.aborted

structure Paid (h : ChatHandler) (r : InternalChatRequest) (t : Tape) : Prop where
  undisturbed : t.Undisturbed
  charges : ∃ cost, t.charges = [h.chargeMetadata cost r.model
    ((countedIn t.taken).counts.orEstimated r.messages.chars (countedIn t.taken).contentChars)]

def ChatStmt.Records : ChatStmt → Prop
  | .recordUsage _ => True
  | .saveRequest _ => True
  | _ => False

theorem note_records (hs : s.Records) (r : Except ChatErr (ChatRes s)) (w w' : ChatWorld) :
    t.note s r w w' = t ∨ t.note s r w w' = t.fail := by
  cases s with
  | recordUsage _ | saveRequest _ =>
    cases r with
    | ok a => exact .inl rfl
    | error e => exact .inr rfl
  | _ => exact hs.elim

theorem keeps_aborted : StepsKeep (tapeRuns env) ChatStmt.Records fun t _ => Aborted t where
  step := fun s hs t o w _ ha => by
    show Aborted (t.note s (answer (tapeRuns env).exec s o w).1 w (answer (tapeRuns env).exec s o w).2)
    rcases note_records (t := t) hs (answer (tapeRuns env).exec s o w).1 w (answer (tapeRuns env).exec s o w).2 with hnote | hnote
    · rw [hnote]
      exact ha
    · rw [hnote]
      exact aborted_fail ha.1

theorem keeps_paid {r : InternalChatRequest} : StepsKeep (tapeRuns env) ChatStmt.Records fun t _ => Paid h r t where
  step := fun s hs t o w _ hp => by
    have hfail : t.fail = t := by
      obtain ⟨cost, hcharges⟩ := hp.charges
      unfold Tape.fail
      rw [if_neg]
      rintro ⟨-, hnone⟩
      rw [hcharges] at hnone
      cases hnone
    show Paid h r (t.note s (answer (tapeRuns env).exec s o w).1 w (answer (tapeRuns env).exec s o w).2)
    rcases note_records (t := t) hs (answer (tapeRuns env).exec s o w).1 w (answer (tapeRuns env).exec s o w).2 with hnote | hnote
    · rw [hnote]
      exact hp
    · rw [hnote, hfail]
      exact hp

def Concluded (h : ChatHandler) (r : InternalChatRequest) (t : Tape) : Prop := Aborted t ∨ Paid h r t

theorem keeps_concluded {r : InternalChatRequest} : StepsKeep (tapeRuns env) ChatStmt.Records fun t _ => Concluded h r t where
  step := fun s hs t o w ha he =>
    he.elim (fun h => .inl (keeps_aborted.step s hs t o w ha h)) fun h => .inr (keeps_paid.step s hs t o w ha h)

/-- The `except` clause of `process_stream` changes nothing. -/
theorem wp_orSaveFailed_concluded {α : Type} {r : InternalChatRequest} (user : Option ChatUser) (model provider : String)
    (tokens : TokenCounts) {part : ChatProg α} {Q : α → Tape → ChatWorld → Prop}
    (hpart : part.wp (tapeRuns env) .alone Q (fun _ t _ => Concluded h r t) t w) :
    (h.orSaveFailed user model provider tokens part).wp (tapeRuns env) .alone Q (fun _ t _ => Concluded h r t) t w := by
  unfold ChatHandler.orSaveFailed
  rw [wp_exceptException]
  refine wp_mono (fun _ _ _ hq => hq) (fun e t w he => ?_) hpart
  cases e with
  | exception e =>
    rw [caught_exception]
    unfold ChatHandler.save
    rw [wp_bind, wp_bind]
    exact keeps_concluded.call trivial he
  | cancelled => exact he
  | generatorExit => exact he

theorem wp_bill_aborted (r : InternalChatRequest) (provider modelId : String) (byok : Bool) (tokens : TokenCounts) (hc : t.charges = []) :
    (h.bill r provider modelId byok tokens).wp (tapeRuns env) .alone (fun _ t' _ => t' = t) (fun _ t _ => Aborted t) t w := by
  unfold ChatHandler.bill
  rw [wp_bind]
  exact wp_beforeCharge (fun _ _ _ => rfl) hc fun _ _ _ => rfl

variable (user : ChatUser)

theorem wp_chargeUser_paid (r : InternalChatRequest) (cost : ℚ) (ho : Over st t) :
    (h.chargeUser user cost r.model (st.counts.orEstimated r.messages.chars st.contentChars)).wp (tapeRuns env) .alone
      (fun _ t _ => Paid h r t) (fun _ t _ => Paid h r t) t w := by
  have hpaid : Paid h r
      { t with charges := t.charges ++ [h.chargeMetadata cost r.model (st.counts.orEstimated r.messages.chars st.contentChars)] } := by
    refine ⟨ho.undisturbed, cost, ?_⟩
    show t.charges ++ [_] = [_]
    rw [ho.charges, ho.counted]
    rfl
  unfold ChatHandler.chargeUser
  rw [wp_bind]
  refine wp_alone_stmt (C := tapeRuns env) fun o _ => ?_
  generalize (answer (tapeRuns env).exec (.deductCredits _ _ _) o w).1 = answered
  cases answered with
  | error e => exact hpaid
  | ok a =>
    rw [answered_ok, wp_bind]
    exact wp_mono (fun _ _ _ hp => hp) (fun _ _ _ hp => hp) (keeps_paid.call (s := .recordUsage _) trivial hpaid)

/-- After the loop, what it has counted is charged. -/
theorem wp_settleStream (r : InternalChatRequest) (provider modelId : String) (byok : Bool) (ho : Over st t) :
    (h.settleStream user r provider modelId byok st).wp (tapeRuns env) .alone (fun _ t _ => Concluded h r t)
      (fun _ t _ => Concluded h r t) t w := by
  unfold ChatHandler.settleStream ChatHandler.save
  rw [wp_bind]
  refine wp_mono ?_ (fun _ _ _ ha => .inl ha) (wp_bill_aborted r provider modelId byok _ ho.charges)
  rintro cost t w rfl
  rw [wp_bind]
  refine wp_mono (fun _ t w hp => ?_) (fun _ _ _ hp => .inr hp) (wp_chargeUser_paid user r cost.total ho)
  rw [wp_bind]
  exact wp_mono (fun _ _ _ hp => .inr hp) (fun _ _ _ hp => .inr hp) (keeps_paid.call (s := .saveRequest _) trivial hp)

theorem wp_streamFrom (r : InternalChatRequest) (provider modelId : String) (maxTokens : Option ℕ) (hf : Unread t) :
    (h.streamFrom user r provider modelId maxTokens).wp (tapeRuns env) .alone (fun _ t _ => Concluded h r t)
      (fun _ t _ => Concluded h r t) t w := by
  unfold ChatHandler.streamFrom
  rw [wp_bind]
  refine wp_orSaveFailed_concluded (some user) r.model provider noTokens
    (wp_mono (fun consumed t w hc => ?_) (fun _ _ _ ha => .inl ha) (wp_consumeStream r provider modelId maxTokens hf))
  obtain ⟨byok, st, ended⟩ := consumed
  refine wp_orSaveFailed_concluded (some user) r.model provider st.counts ?_
  cases ended with
  | ok a => exact wp_settleStream user r provider modelId byok hc
  | error e => exact .inl hc

/-- A stream of the handler's: aborted, or charged once. -/
theorem wp_processStream (r : InternalChatRequest) (hf : Unread t) :
    (h.processStream r).wp (tapeRuns env) .alone (fun _ t _ => Concluded h r t) (fun _ t _ => Concluded h r t) t w := by
  have hunread {α : Type} {p : ChatProg α} (hp : p.Stays ChatStmt.BeforeStream fun _ => True) {t : Tape} {w : ChatWorld} (hf : Unread t) :
      p.wp (tapeRuns env) .alone (fun _ t _ => Unread t) (fun _ t _ => Concluded h r t) t w :=
    wp_mono (fun _ _ _ hf => hf) (fun _ _ _ hf => .inl hf.aborted) (keeps_unread.wp hp hf)
  unfold ChatHandler.processStream
  rw [wp_bind]
  refine wp_post (fun user t w hf => ?_)
    (wp_orSaveFailed_concluded none r.model "unknown" noTokens (hunread (stays_initializeUserContext trivial) hf))
  refine wp_seq (wp_orSaveFailed_concluded (some user) r.model "unknown" noTokens
      (hunread (stays_selectForStream (fun _ _ => trivial) trivial trivial) hf)) fun selected t w hf => ?_
  obtain ⟨maxTokens, provider, registered⟩ := selected
  dsimp only
  rw [wp_bind]
  cases registered with
  | some modelId => exact wp_streamFrom user r provider modelId maxTokens hf
  | none =>
    have hcall : ChatStmt.BeforeStream (.transformModelId r.model provider) := trivial
    refine wp_post (fun modelId t w hf => ?_)
      (wp_orSaveFailed_concluded (some user) r.model provider noTokens (hunread (stays_call hcall) hf))
    exact wp_streamFrom user r provider modelId maxTokens hf

end Stream

/-! ## The charge -/

section Charge

variable {h : ChatHandler} {r : InternalChatRequest} {t : Tape}

theorem tokens_of_chargeMetadata {cost cost' : ℚ} {model model' : String} {u v : TokenCounts}
    (heq : h.chargeMetadata cost model u = h.chargeMetadata cost' model' v) : u.prompt = v.prompt ∧ u.completion = v.completion := by
  unfold ChatHandler.chargeMetadata at heq
  simp only [List.cons.injEq, Prod.mk.injEq, true_and, PyValue.int.injEq, Nat.cast_inj] at heq
  exact ⟨heq.2.2.1, heq.2.2.2.1⟩

def tokensFor (r : InternalChatRequest) (t : Tape) : TokenCounts :=
  (countedIn t.taken).counts.orEstimated r.messages.chars (countedIn t.taken).contentChars

theorem chargedOnce_iff_tokens (hp : Paid h r t) : t.ChargedOnce h r ↔
      match lastCounted t.chunks with
      | some u => (tokensFor r t).prompt = u.promptTokens ∧ (tokensFor r t).completion = u.completionTokens
      | none => (tokensFor r t).prompt = max 1 (r.messages.chars / 4) ∧ (tokensFor r t).completion = max 1 (textChars t.taken / 4) := by
  obtain ⟨cost, hcharges⟩ := hp.charges
  constructor
  · rintro ⟨cost', tokens, hcharges', htokens⟩
    rw [hcharges', List.singleton_inj] at hcharges
    obtain ⟨hprompt, hcompletion⟩ := tokens_of_chargeMetadata hcharges
    have hprompt : (tokensFor r t).prompt = tokens.prompt := hprompt.symm
    have hcompletion : (tokensFor r t).completion = tokens.completion := hcompletion.symm
    rw [hprompt, hcompletion]
    exact htokens
  · intro htokens
    exact ⟨cost, tokensFor r t, hcharges, htokens⟩

theorem tokensFor_of_tells {v : ProviderUsage} (hv : lastCounted (t.taken.filter ProviderChunk.handedOut) = some v) (htells : v.Tells) :
    (tokensFor r t).prompt = v.promptTokens ∧ (tokensFor r t).completion = v.completionTokens := by
  have hcounts : (countedIn t.taken).counts = ProviderUsage.counts (some v) := by
    unfold countedIn
    rw [hv]
    rfl
  have hsome : ¬ (v.promptTokens = 0 ∧ v.completionTokens = 0) := fun hnone => htells.elim (absurd hnone.1) (absurd hnone.2)
  unfold tokensFor TokenCounts.orEstimated
  rw [hcounts, if_neg (by exact hsome)]
  exact ⟨rfl, rfl⟩

theorem tokensFor_estimated (hv : ∀ v, lastCounted (t.taken.filter ProviderChunk.handedOut) = some v → ¬ v.Tells) :
    (tokensFor r t).prompt = max 1 (r.messages.chars / 4) ∧ (tokensFor r t).completion = max 1 (textChars t.taken / 4) := by
  have hnone : (countedIn t.taken).counts.prompt = 0 ∧ (countedIn t.taken).counts.completion = 0 := by
    unfold countedIn
    cases hlast : lastCounted (t.taken.filter ProviderChunk.handedOut) with
    | none => exact ⟨rfl, rfl⟩
    | some v =>
      have htells := hv v hlast
      unfold ProviderUsage.Tells at htells
      exact ⟨by by_contra hp; exact htells (.inl hp), by by_contra hc; exact htells (.inr hc)⟩
  unfold tokensFor TokenCounts.orEstimated
  rw [if_pos hnone]
  exact ⟨rfl, rfl⟩

theorem lastCounted_handedOut_none (hnone : lastCounted t.chunks = none) :
    lastCounted (t.taken.filter ProviderChunk.handedOut) = none := by
  unfold lastCounted at hnone ⊢
  rw [List.getLast?_eq_none_iff, List.filterMap_eq_nil_iff] at hnone ⊢
  intro c hc
  have htaken : c ∈ t.taken := List.mem_of_mem_filter hc
  unfold Tape.taken at htaken
  split_ifs at htaken
  · exact hnone c ((List.dropLast_sublist t.chunks).subset htaken)
  · exact hnone c htaken

theorem chargedOnce_iff_usageRead (hp : Paid h r t) : t.ChargedOnce h r ↔ t.UsageRead r := by
  rw [chargedOnce_iff_tokens hp]
  unfold Tape.UsageRead
  cases hlast : lastCounted t.chunks with
  | none =>
    have hnone := lastCounted_handedOut_none hlast
    have hestimated := tokensFor_estimated (r := r) (t := t) fun v hv => by
      rw [hnone] at hv
      cases hv
    exact ⟨fun _ u hu => (Option.some_ne_none u hu.symm).elim, fun _ => hestimated⟩
  | some u =>
    dsimp only
    by_cases hread : ∃ v, lastCounted (t.taken.filter ProviderChunk.handedOut) = some v ∧ v.Tells
    · obtain ⟨v, hv, htells⟩ := hread
      obtain ⟨hprompt, hcompletion⟩ := tokensFor_of_tells (r := r) hv htells
      rw [hprompt, hcompletion]
      constructor
      · rintro hsame u' hu
        cases hu
        exact .inl ⟨v, hv, htells, hsame.1, hsame.2⟩
      · intro hall
        rcases hall u rfl with ⟨v', hv', -, hsame⟩ | ⟨hnot, -⟩
        · rw [hv] at hv'
          cases hv'
          exact hsame
        · exact absurd htells (hnot v hv)
    · have hnot : ∀ v, lastCounted (t.taken.filter ProviderChunk.handedOut) = some v → ¬ v.Tells := fun v hv htells =>
        hread ⟨v, hv, htells⟩
      obtain ⟨hprompt, hcompletion⟩ := tokensFor_estimated (r := r) hnot
      rw [hprompt, hcompletion]
      constructor
      · rintro hsame u' hu
        cases hu
        exact .inr ⟨hnot, hsame.1.symm, hsame.2.symm⟩
      · intro hall
        rcases hall u rfl with ⟨v, hv, htells, -⟩ | ⟨-, hsame⟩
        · exact absurd htells (hnot v hv)
        · exact ⟨hsame.1.symm, hsame.2.symm⟩

end Charge

def streamHandler : ChatHandler := ⟨{}, "k", "r"⟩

def streamRequest : InternalChatRequest := ⟨⟨400, 100⟩, "m", true, none, some "openrouter"⟩

def closedTape : Tape :=
  tapeOf (calmEnv ["openrouter"]) streamHandler streamRequest (List.replicate 10 .served ++ [.dropped .generatorExit]) calmWorld

def usageApartEnv : ChatEnv where
  answers := fun _ =>
    calmAnswers payingUser ["openrouter"] ⟨none, none⟩
      ⟨[⟨some (some { content := some "hi" }, some "stop"), none⟩, ⟨none, some thousands⟩], none⟩
  prices := fun _ _ => .ok sonnetPrice

def usageApartTape : Tape := tapeOf usageApartEnv streamHandler streamRequest [] calmWorld

end Gatewayz
