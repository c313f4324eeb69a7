import Gatewayz.Chat.Parts

/-!
# `Correctness.SlotReleased` — every slot taken is given back once

The first rate-limit check takes a slot of the key's concurrency limit, and `a.checked` is all the route remembers of that.
Whatever gives it back goes by the flag, not by what the limiter did; the `except` clauses do not see a cancellation, and the `finally`
belongs to a generator that has to be started first.

`slot_released_once` is the law for the runs in which none of this happens: the limiter admits nobody without a slot, and
between the slot and the body nothing is cancelled.
-/

namespace Gatewayz

open Exec

/-! ## The runs -/

/-- Slots taken, calls of `release_concurrency`, and whether the body of a streamed response has begun. -/
structure SlotTrace where
  taken : Nat := 0
  released : Nat := 0
  streaming : Bool := false
  deriving DecidableEq

def SlotTrace.note (g : SlotTrace) (s : ChatStmt) (r : Except ChatErr (ChatRes s)) (w w' : ChatWorld) : SlotTrace :=
  match s with
  | .incrementConcurrentRequests _ => { g with taken := if w'.moment = w.moment then g.taken else g.taken + 1 }
  | .releaseConcurrency _ => { g with released := g.released + 1 }
  | .task .startResponse => { g with streaming := r.isOk }
  | _ => g

/-- The slot is released exactly once if one was taken, and not at all otherwise. -/
structure ReleasedOnce (g : SlotTrace) : Prop where
  taken : g.taken ≤ 1
  released : g.released = g.taken

/-- An answer by which the limiter admits a request that has no slot: a cached result, an admin's key, and its own failures,
    for which it fails open. -/
def admitsWithoutSlot : (s : ChatStmt) → Outcome ChatErr → Except ChatErr (ChatRes s) → Bool
  | .cachedRateLimit _ _, _, .ok (some result) => result.allowed
  | .isAdminKey _, _, .ok admin => admin
  | .concurrencyAvailable _, _, .error (.exception _) => true
  | .burstAvailable _ _, _, .error (.exception _) => true
  | .windowRefusal _ _ _, _, .error (.exception _) => true
  | .incrementConcurrentRequests _, .dropped (.exception _), _ => true
  | _, _, _ => false

def abandons {α : Type} : Except ChatErr α → Bool
  | .error .cancelled => true
  | .error .generatorExit => true
  | _ => false

/-- No admission without a slot, and nothing is cancelled while the slot is held and no body has begun; the body of a
    streamed response begins. -/
def keepsSlot (env : ChatEnv) (g : SlotTrace) (s : ChatStmt) (o : Outcome ChatErr) (w : ChatWorld) : Prop :=
  let r := (answer (chatExec env) s o w).1
  let g' := g.note s r w (answer (chatExec env) s o w).2
  (g.taken = 0 → admitsWithoutSlot s o r = false) ∧
    (g'.released < g'.taken → g.streaming = false → abandons r = false ∧ (s = .task .startResponse → r.isOk = true))

instance decidableKeepsSlot (env : ChatEnv) (g : SlotTrace) (s : ChatStmt) (o : Outcome ChatErr) (w : ChatWorld) :
    Decidable (keepsSlot env g s o w) := by
  unfold keepsSlot
  infer_instance

abbrev slotRuns (env : ChatEnv) : Setting ChatErr ChatStmt ChatRes SlotTrace ChatWorld :=
  chatRuns env SlotTrace.note (keepsSlot env)

/-! ## The states -/

structure NoSlot (g : SlotTrace) (_ : ChatWorld) : Prop where
  taken : g.taken = 0
  released : g.released = 0

structure Waiting (g : SlotTrace) (w : ChatWorld) : Prop extends NoSlot g w where
  waiting : g.streaming = false

structure Held (g : SlotTrace) (_ : ChatWorld) : Prop where
  taken : g.taken = 1
  released : g.released = 0
  waiting : g.streaming = false

structure HeldByBody (g : SlotTrace) (_ : ChatWorld) : Prop where
  taken : g.taken = 1
  released : g.released = 0
  streaming : g.streaming = true

structure GivenBack (g : SlotTrace) (_ : ChatWorld) : Prop where
  taken : g.taken = 1
  released : g.released = 1

/-- What the flag says, before anything is given back … -/
def Flagged (checked : Bool) (g : SlotTrace) (w : ChatWorld) : Prop := if checked then Held g w else NoSlot g w
/-- … and after that. -/
def Settled (checked : Bool) (g : SlotTrace) (w : ChatWorld) : Prop := if checked then GivenBack g w else NoSlot g w

theorem NoSlot.releasedOnce {g : SlotTrace} {w : ChatWorld} (h : NoSlot g w) : ReleasedOnce g :=
  ⟨by rw [h.taken]; exact Nat.zero_le 1, by rw [h.released, h.taken]⟩

theorem GivenBack.releasedOnce {g : SlotTrace} {w : ChatWorld} (h : GivenBack g w) : ReleasedOnce g :=
  ⟨h.taken.le, by rw [h.released, h.taken]⟩

theorem Settled.releasedOnce {checked : Bool} {g : SlotTrace} {w : ChatWorld} (h : Settled checked g w) :
    ReleasedOnce g := by
  cases checked with
  | false => exact NoSlot.releasedOnce h
  | true => exact GivenBack.releasedOnce h

def ChatStmt.Slotless : ChatStmt → Prop
  | .incrementConcurrentRequests _ => False
  | .releaseConcurrency _ => False
  | .task .startResponse => False
  | _ => True

theorem slotless_ofAttempt (s : ChatStmt) (hs : s.ofAttempt) : s.Slotless := by
  unfold ChatStmt.Slotless
  split
  · cases hs
  · cases hs
  · cases hs
  · trivial

theorem slotless_ofGates (s : ChatStmt) (hs : s.ofGates) : s.Slotless := by
  unfold ChatStmt.Slotless
  split
  · cases hs
  · cases hs
  · cases hs
  · trivial

theorem slotless_ofLimiter (s : ChatStmt) (hs : s.ofLimiter) : s.Slotless := by
  unfold ChatStmt.Slotless
  split
  · cases hs
  · cases hs
  · cases hs
  · trivial

theorem slotless_ofFinish (s : ChatStmt) (hs : s.ofFinish) : s.Slotless := by
  unfold ChatStmt.Slotless
  split
  · cases hs
  · cases hs
  · cases hs
  · trivial

variable {s : ChatStmt} {α : Type} {p : ChatProg α}

section Steps

variable {env : ChatEnv} {g : SlotTrace} {w : ChatWorld}

theorem note_slotless (hs : s.Slotless) (g : SlotTrace) (r : Except ChatErr (ChatRes s))
    (w w' : ChatWorld) : g.note s r w w' = g := by
  unfold SlotTrace.note
  split
  · exact hs.elim
  · exact hs.elim
  · exact hs.elim
  · rfl

theorem keeps_slotless {J : SlotTrace → ChatWorld → Prop} (hJ : ∀ g w w', J g w → J g w') :
    StepsKeep (slotRuns env) ChatStmt.Slotless J where
  step := fun s hs g o w _ h => by
    show J (g.note s _ _ _) _
    rw [note_slotless hs]
    exact hJ g _ _ h

theorem keeps_noSlot : StepsKeep (slotRuns env) ChatStmt.Slotless NoSlot :=
  keeps_slotless fun _ _ _ h => ⟨h.taken, h.released⟩

theorem keeps_heldByBody : StepsKeep (slotRuns env) ChatStmt.Slotless HeldByBody :=
  keeps_slotless fun _ _ _ h => ⟨h.taken, h.released, h.streaming⟩

theorem keeps_settled {checked : Bool} : StepsKeep (slotRuns env) ChatStmt.Slotless (Settled checked) :=
  keeps_slotless fun _ _ _ h => by
    cases checked with
    | false => exact ⟨h.taken, h.released⟩
    | true => exact ⟨h.taken, h.released⟩

/-- While the slot is held only an `Exception` ends a program of slotless steps. -/
theorem wp_held (hp : p.Stays ChatStmt.Slotless ChatErr.IsException) (h : Held g w) :
    p.wp (slotRuns env) .alone (fun _ => Held) (fun e g w => Held g w ∧ e.IsException) g w := by
  refine wp_of_stays (fun _ _ _ hr h => hr ▸ h) (fun s hs g o w _ ha h => ⟨trivial, trivial, ?_, ?_⟩) hp h
  · show Held (g.note s _ _ _) _
    rw [note_slotless hs]
    exact ⟨h.taken, h.released, h.waiting⟩
  · intro e he
    have hholds := ha.2
    rw [note_slotless hs] at hholds
    have hno := (hholds (by rw [h.taken, h.released]; exact Nat.one_pos) h.waiting).1
    change (answer (chatExec env) s o w).1 = .error e at he
    rw [he] at hno
    cases e with
    | exception e => trivial
    | cancelled => cases hno
    | generatorExit => cases hno

theorem wp_noSlot (hp : p.Stays ChatStmt.Slotless fun _ => True) (h : NoSlot g w) :
    p.wp (slotRuns env) .alone (fun _ => NoSlot) (fun _ => NoSlot) g w :=
  keeps_noSlot.wp hp h

/-- What a program does under the flag: with a slot held only an `Exception` ends it. -/
def Broken (checked : Bool) (e : ChatErr) (g : SlotTrace) (w : ChatWorld) : Prop :=
  Flagged checked g w ∧ (checked = true → e.IsException)

theorem wp_flagged {checked : Bool} (hheld : p.Stays ChatStmt.Slotless ChatErr.IsException)
    (hany : p.Stays ChatStmt.Slotless fun _ => True) (h : Flagged checked g w) :
    p.wp (slotRuns env) .alone (fun _ => Flagged checked) (Broken checked) g w := by
  cases checked with
  | false => exact wp_mono (fun _ _ _ h => h) (fun _ _ _ h => ⟨h, nofun⟩) (wp_noSlot hany h)
  | true => exact wp_mono (fun _ _ _ h => h) (fun _ _ _ h => ⟨h.1, fun _ => h.2⟩) (wp_held hheld h)

end Steps

/-! ## The admission -/

variable (apiKey : String) (config : ChatConfig)

section Admission

variable {env : ChatEnv} {g : SlotTrace} {w : ChatWorld}

def Admitted (limit : RateLimitResult) : SlotTrace → ChatWorld → Prop := Flagged limit.allowed

theorem wp_waitingStep (hs : s.Slotless) (h : Waiting g w) : (call s).wp (slotRuns env) .alone
      (fun a g w => Waiting g w ∧ ∃ o, admitsWithoutSlot s o (.ok a) = false)
      (fun e g w => Waiting g w ∧ ∃ o, admitsWithoutSlot s o (.error e) = false) g w := by
  refine wp_alone_stmt (C := slotRuns env) fun o ho => ?_
  have hadmissions : admitsWithoutSlot s o (answer (chatExec env) s o w).1 = false := ho.1 h.taken
  have hstays : ∀ r w', Waiting (g.note s r w w') w' := fun r w' => by
    rw [note_slotless hs]
    exact ⟨⟨h.taken, h.released⟩, h.waiting⟩
  cases hr : (answer (chatExec env) s o w).1 with
  | ok a => rw [hr] at hadmissions; exact ⟨hstays _ _, o, hadmissions⟩
  | error e => rw [hr] at hadmissions; exact ⟨hstays _ _, o, hadmissions⟩

theorem wp_limit (hs : s.Slotless)
    (hopen : ∀ o e, admitsWithoutSlot s o (.error (.exception e)) = true) (h : Waiting g w) :
    (call s).wp (slotRuns env) .alone (fun _ => Waiting) (fun e g w => Waiting g w ∧ ¬ e.IsException) g w := by
  refine wp_mono (fun _ _ _ h => h.1) (fun e g w he => ⟨he.1, ?_⟩) (wp_waitingStep hs h)
  obtain ⟨o, ho⟩ := he.2
  cases e with
  | exception e => rw [hopen o e] at ho; cases ho
  | cancelled => exact id
  | generatorExit => exact id

theorem wp_takeSlot {apiKey : String} (h : Waiting g w) :
    (call (.incrementConcurrentRequests apiKey)).wp (slotRuns env) .alone (fun _ => Held)
      (fun e g w => Held g w ∧ e.IsException ∨ NoSlot g w ∧ ¬ e.IsException) g w := by
  refine wp_alone_stmt (C := slotRuns env) fun o ho => ?_
  have hmoment : (chatExec env (.incrementConcurrentRequests apiKey) w).2.moment ≠ w.moment := Nat.succ_ne_self _
  have htaken : ∀ r, Held (g.note (.incrementConcurrentRequests apiKey) r w
      (chatExec env (.incrementConcurrentRequests apiKey) w).2)
      (chatExec env (.incrementConcurrentRequests apiKey) w).2 := by
    intro r
    refine ⟨?_, h.released, h.waiting⟩
    show (if _ then g.taken else g.taken + 1) = 1
    rw [if_neg hmoment, h.taken]
  cases o with
  | served => exact htaken (.ok ())
  | dropped e =>
    have hadmissions : admitsWithoutSlot (.incrementConcurrentRequests apiKey) (.dropped e) (.error e) = false :=
      ho.1 h.taken
    refine .inr ⟨⟨?_, h.released⟩, ?_⟩
    · show (if w.moment = w.moment then g.taken else g.taken + 1) = 0
      rw [if_pos rfl, h.taken]
    · cases e with
      | exception e => cases hadmissions
      | cancelled => exact id
      | generatorExit => exact id
  | lost e =>
    have hslot := htaken (.error e)
    refine .inl ⟨hslot, ?_⟩
    have hno : abandons (.error e : Except ChatErr Unit) = false := by
      refine (ho.2 ?_ h.waiting).1
      have hless := Nat.one_pos
      rwa [← hslot.taken, ← hslot.released] at hless
    cases e with
    | exception e => trivial
    | cancelled => cases hno
    | generatorExit => cases hno

theorem wp_slidingWindow (tokensUsed : Nat) (countRequest : Bool) (h : Waiting g w) :
    (slidingWindowCheck apiKey tokensUsed true countRequest).wp (slotRuns env) .alone Admitted (fun _ => NoSlot) g w := by
  have hcaught : ∀ (e : ChatErr) g w, Waiting g w ∧ ¬ e.IsException →
      Caught (fun _ => Prog.wp (slotRuns env) .alone Admitted (fun _ => NoSlot)
        (pure ⟨true, some "Rate limit check failed, allowing request"⟩)) (fun _ => NoSlot) e g w := by
    rintro (e | - | -) g w ⟨h, hno⟩
    · exact absurd trivial hno
    · exact h.toNoSlot
    · exact h.toNoSlot
  unfold slidingWindowCheck
  rw [wp_exceptException, wp_bind]
  refine wp_mono (fun free g w h => ?_) hcaught (wp_limit trivial (fun _ _ => rfl) h)
  cases free with
  | false => exact h.toNoSlot
  | true =>
    rw [Bool.not_true, if_neg Bool.false_ne_true, wp_bind]
    refine wp_mono (fun burst g w h => ?_) hcaught (wp_limit trivial (fun _ _ => rfl) h)
    cases burst with
    | false => exact h.toNoSlot
    | true =>
      rw [Bool.not_true, if_neg Bool.false_ne_true, wp_bind]
      refine wp_mono (fun refusal g w h => ?_) hcaught (wp_limit trivial (fun _ _ => rfl) h)
      cases refusal with
      | some reason => exact h.toNoSlot
      | none =>
        dsimp only
        rw [wp_bind]
        refine wp_mono (fun _ _ _ h => h) (fun e g w he => ?_) (wp_takeSlot h)
        rcases he with ⟨hheld, he⟩ | ⟨hno, he⟩
        · cases e with
          | exception e => exact hheld
          | cancelled => exact he.elim
          | generatorExit => exact he.elim
        · cases e with
          | exception e => exact absurd trivial he
          | cancelled => exact hno
          | generatorExit => exact hno

theorem wp_checkRateLimit_slot (tokensUsed : Nat) (h : Waiting g w) :
    (checkRateLimit apiKey tokensUsed true true).wp (slotRuns env) .alone Admitted (fun _ => NoSlot) g w := by
  unfold checkRateLimit
  rw [Bool.and_true, if_pos rfl, wp_bind]
  refine wp_mono (fun cached g w hcached => ?_) (fun _ _ _ h => h.1.toNoSlot) (wp_waitingStep trivial h)
  obtain ⟨h, o, ho⟩ := hcached
  cases cached with
  | some result =>
    have hrefused : result.allowed = false := ho
    show Flagged result.allowed g w
    rw [hrefused]
    exact h.toNoSlot
  | none =>
    dsimp only
    unfold uncachedRateLimit
    rw [wp_bind, wp_exceptException]
    refine wp_mono (fun admin g w hadmin => ?_) (fun e g w he => ?_) (wp_waitingStep trivial h)
    · obtain ⟨h, o, ho⟩ := hadmin
      have hno : admin = false := ho
      rw [hno]
      exact wp_slidingWindow apiKey tokensUsed true h
    · cases e with
      | exception e => exact wp_slidingWindow apiKey tokensUsed true he.1
      | cancelled => exact he.1.toNoSlot
      | generatorExit => exact he.1.toNoSlot

theorem keeps_waiting : StepsKeep (slotRuns env) ChatStmt.Slotless Waiting :=
  keeps_slotless fun _ _ _ h => ⟨⟨h.taken, h.released⟩, h.waiting⟩

theorem wp_waiting (hp : p.Stays ChatStmt.Slotless fun _ => True) (h : Waiting g w) :
    p.wp (slotRuns env) .alone (fun _ => Waiting) (fun _ => NoSlot) g w :=
  wp_mono (fun _ _ _ h => h) (fun _ _ _ h => h.toNoSlot) (keeps_waiting.wp hp h)

theorem wp_requireRateLimit_slot (tokensUsed : Nat) (h : Waiting g w) :
    (requireRateLimit apiKey tokensUsed true true).wp (slotRuns env) .alone (fun _ => Held) (fun _ => NoSlot) g w := by
  unfold requireRateLimit
  refine wp_seq (wp_checkRateLimit_slot apiKey tokensUsed h) fun limit g w hlimit => ?_
  unfold Admitted at hlimit
  cases hallowed : limit.allowed with
  | true => rw [hallowed] at hlimit; exact hlimit
  | false =>
    rw [hallowed] at hlimit
    rw [if_neg Bool.false_ne_true, wp_bind]
    exact wp_noSlot (stays_call trivial) hlimit

/-- Admission: the flag says whether there is a slot. -/
theorem wp_admission (apiKey model : String) (h : Waiting g w) :
    (admission config apiKey model).wp (slotRuns env) .alone (fun a => Flagged a.checked) (fun _ => NoSlot) g w := by
  unfold admission
  refine wp_seq (wp_waiting (stays_call trivial) h) fun found g w h => ?_
  refine wp_seq (wp_waiting (stays_call trivial) h) fun apiKeyId g w h => ?_
  refine wp_seq (wp_waiting (stays_call trivial) h) fun trial g w h => ?_
  cases found with
  | none => exact h.toNoSlot
  | some user =>
    dsimp only
    refine wp_seq (wp_waiting (stays_call trivial) h) fun _ g w h => ?_
    refine wp_seq (wp_waiting (stays_validateTrial slotless_ofGates trial model) h) fun trial g w h => ?_
    refine wp_seq (wp_waiting (stays_requirePlanLimits slotless_ofGates user 0) h) fun _ g w h => ?_
    refine wp_seq (wp_waiting (stays_requirePlanLimits slotless_ofGates user 0) h) fun _ g w h => ?_
    split
    · exact h.toNoSlot
    · rw [wp_bind]
      exact wp_requireRateLimit_slot apiKey 0 h

end Admission

/-! ## The ways out -/

section WaysOut

variable {env : ChatEnv} {g : SlotTrace} {w : ChatWorld} {checked : Bool}

/-- What the route's code says of an exit: an `Exception` still has the slot, anything else has given it back. -/
def Leaves (checked : Bool) (e : ChatErr) (g : SlotTrace) (w : ChatWorld) : Prop :=
  (e.IsException → Flagged checked g w) ∧ (¬ e.IsException → Settled checked g w)

theorem Broken.leaves {e : ChatErr} (h : Broken checked e g w) : Leaves checked e g w := by
  refine ⟨fun _ => h.1, fun hno => ?_⟩
  cases checked with
  | false => exact h.1
  | true => exact absurd (h.2 rfl) hno

theorem wp_release {apiKey : String} (h : g.taken = 1) (hheld : g.released = 0) :
    (call (.releaseConcurrency apiKey)).wp (slotRuns env) .alone (fun _ => GivenBack) (fun _ => GivenBack) g w := by
  refine wp_alone_stmt (C := slotRuns env) fun o _ => ?_
  have hback : ∀ r w', GivenBack (g.note (.releaseConcurrency apiKey) r w w') w' := by
    intro r w'
    refine ⟨h, ?_⟩
    show g.released + 1 = 1
    rw [hheld]
  cases (answer (chatExec env) (.releaseConcurrency apiKey) o w).1 with
  | ok a => exact hback (.ok a) _
  | error e => exact hback (.error e) _

/-- The release under the flag, its own `Exception` dropped. -/
theorem wp_releaseIf (h : Flagged checked g w) :
    (onlyIf checked (quietly (call (.releaseConcurrency apiKey)))).wp (slotRuns env) .alone (fun _ => Settled checked)
      (fun e g w => Settled checked g w ∧ ¬ e.IsException) g w := by
  cases checked with
  | false => exact h
  | true =>
    show (quietly (call (.releaseConcurrency apiKey))).wp _ _ _ _ _ _
    refine wp_quietly (wp_mono (fun _ _ _ h => h) (fun e g w h => ?_) (wp_release h.taken h.released))
    cases e with
    | exception e => exact h
    | cancelled => exact ⟨h, id⟩
    | generatorExit => exact ⟨h, id⟩

/-- The `except` clauses of the route give back what the flag says. -/
theorem wp_underRouteHandlers_leaves {Q : α → SlotTrace → ChatWorld → Prop} {part : ChatProg α}
    (hpart : part.wp (slotRuns env) .alone Q (Leaves checked) g w) :
    (underRouteHandlers apiKey checked part).wp (slotRuns env) .alone Q (fun _ => Settled checked) g w := by
  unfold underRouteHandlers
  rw [wp_exceptException]
  refine wp_mono (fun _ _ _ h => h) (fun e g w he => ?_) hpart
  cases e with
  | cancelled => exact he.2 id
  | generatorExit => exact he.2 id
  | exception e =>
    rw [caught_exception, wp_bind]
    refine wp_mono (fun _ g w h => ?_) (fun _ _ _ h => h.1) (wp_releaseIf apiKey (he.1 trivial))
    refine wp_seq (keeps_settled.wp (stays_quietly (stays_call trivial)) h) fun _ g w h => ?_
    split
    · exact h
    · exact h

def AfterDispatch (checked : Bool) : Dispatched → SlotTrace → ChatWorld → Prop
  | .stream body => fun g w => Flagged checked g w ∧ ∃ d chain, body = authStreamWithFailover d chain checked
  | .response _ _ => Settled checked

theorem wp_dispatch_slot (req : ChatRequest) (apiKey : String) (a : Admission) (model : String)
    (h : Flagged a.checked g w) :
    (dispatch config req apiKey a model).wp (slotRuns env) .alone (AfterDispatch a.checked) (Leaves a.checked) g w := by
  unfold dispatch
  rw [wp_bind]
  refine wp_mono (fun ⟨plan, messages, sessionId⟩ g w h => ?_) (fun _ _ _ h => h.leaves)
    (wp_flagged (stays_prepare slotless_ofGates req a model) (stays_prepare slotless_ofGates req a model) h)
  dsimp only
  split
  · exact ⟨h, _, _, rfl⟩
  · rw [wp_bind]
    refine wp_mono (fun processed g w h => ?_) (fun _ _ _ h => h.leaves)
      (wp_flagged (stays_dispatchNonStreaming slotless_ofAttempt _ _)
        (stays_dispatchNonStreaming slotless_ofAttempt _ _) h)
    rw [wp_bind]
    refine wp_mono (fun _ g w h => ?_) (fun _ _ _ h => h.leaves)
      (wp_flagged (stays_requirePlanLimits slotless_ofGates a.user _)
        (stays_requirePlanLimits slotless_ofGates a.user _) h)
    rw [wp_bind]
    refine wp_mono (fun _ g w h => ?_) (fun _ _ _ h => h.leaves)
      (wp_flagged (stays_onlyIf (stays_quietly (stays_call trivial)))
        (stays_onlyIf (stays_quietly (stays_call trivial))) h)
    rw [wp_bind]
    exact wp_mono (fun _ _ _ h => h) (fun _ _ _ h => ⟨fun he => absurd he h.2, fun _ => h.1⟩)
      (wp_releaseIf apiKey h)

def AfterRoute : ChatResponse → SlotTrace → ChatWorld → Prop
  | .stream body => fun g w => ∃ d chain checked, Flagged checked g w ∧ body = authStreamWithFailover d chain checked
  | .json _ _ => fun g _ => ReleasedOnce g

theorem wp_chatCompletions_slot (req : ChatRequest) (apiKey : String) (h : Waiting g w) :
    (chatCompletions config req apiKey).wp (slotRuns env) .alone AfterRoute (fun _ g _ => ReleasedOnce g) g w := by
  unfold chatCompletions
  rw [wp_bind]
  refine wp_mono (fun requestId g w h => ?_) (fun _ _ _ h => h.releasedOnce) (wp_waiting (stays_call trivial) h)
  rw [wp_bind]
  refine wp_mono (fun model g w h => ?_) (fun _ _ _ h => h.releasedOnce) (wp_waiting (stays_call trivial) h)
  rw [wp_bind]
  refine wp_mono (fun _ g w h => ?_) (fun _ _ _ h => h.releasedOnce) (wp_waiting (stays_call trivial) h)
  rw [wp_bind]
  have hadmission : (admission config apiKey model).wp (slotRuns env) .alone (fun a => Flagged a.checked) (Leaves false) g w :=
    wp_mono (fun _ _ _ h => h) (fun _ _ _ h => ⟨fun _ => h, fun _ => h⟩) (wp_admission config apiKey model h)
  refine wp_mono (fun a g w h => ?_) (fun _ _ _ h => h.releasedOnce) (wp_underRouteHandlers_leaves apiKey hadmission)
  rw [wp_bind]
  refine wp_mono (fun dispatched g w h => ?_) (fun _ _ _ h => h.releasedOnce)
    (wp_underRouteHandlers_leaves apiKey (wp_dispatch_slot config req apiKey a model h))
  cases dispatched with
  | stream body =>
    obtain ⟨h, d, chain, hbody⟩ := h
    exact ⟨d, chain, a.checked, h, hbody⟩
  | response processed sessionId =>
    have hfinish : (finish config apiKey a requestId processed sessionId).Stays ChatStmt.Slotless fun _ => True :=
      stays_finish slotless_ofFinish slotless_ofLimiter config apiKey a requestId processed sessionId
    have hhandled : (underRouteHandlers apiKey false (finish config apiKey a requestId processed sessionId)).Stays
        ChatStmt.Slotless fun _ => True := by
      refine stays_exceptException hfinish fun e => ?_
      refine stays_bind trivial fun _ => stays_bind (stays_quietly (stays_call trivial)) fun _ => ?_
      split <;> trivial
    dsimp only
    rw [wp_bind]
    exact wp_mono (fun _ _ _ h => h.releasedOnce) (fun _ _ _ h => h.releasedOnce) (keeps_settled.wp hhandled h)

theorem wp_body (d : DispatchParams) (chain : List String) (h : if checked then HeldByBody g w else NoSlot g w) :
    (authStreamWithFailover d chain checked).wp (slotRuns env) .alone (fun _ => Settled checked)
      (fun _ => Settled checked) g w := by
  have hattempts := stays_authStreamAttempts slotless_ofAttempt d chain none
  unfold authStreamWithFailover
  rw [wp_andFinally]
  cases checked with
  | false => exact wp_noSlot hattempts h
  | true =>
    have hback : ∀ g w, HeldByBody g w →
        (quietly (call (.releaseConcurrency d.apiKey))).wp (slotRuns env) .alone (fun _ => Settled true)
          (fun _ => Settled true) g w := by
      intro g w h
      refine wp_quietly (wp_mono (fun _ _ _ h => h) (fun e g w h => ?_) (wp_release h.taken h.released))
      cases e with
      | exception e => exact h
      | cancelled => exact h
      | generatorExit => exact h
    exact wp_mono (fun _ g w h => hback g w h) (fun _ g w h => hback g w h) (keeps_heldByBody.wp hattempts h)

theorem wp_startResponse (h : Flagged checked g w) : (call (.task .startResponse)).wp (slotRuns env) .alone
      (fun _ g w => if checked then HeldByBody g w else NoSlot g w) (fun _ g _ => ReleasedOnce g) g w := by
  refine wp_alone_stmt (C := slotRuns env) fun o ho => ?_
  cases checked with
  | false =>
    cases (answer (chatExec env) (.task .startResponse) o w).1 with
    | ok a => exact ⟨h.taken, h.released⟩
    | error e => exact NoSlot.releasedOnce (w := w) ⟨h.taken, h.released⟩
  | true =>
    have hless := Nat.one_pos
    rw [← h.released, ← h.taken] at hless
    have hok := (ho.2 hless h.waiting).2 rfl
    cases hr : (answer (chatExec env) (.task .startResponse) o w).1 with
    | ok a => exact ⟨h.taken, h.released, rfl⟩
    | error e => rw [hr] at hok; cases hok

theorem wp_serve (req : ChatRequest) (apiKey : String) (h : Waiting g w) :
    (serve config req apiKey).wp (slotRuns env) .alone (fun _ g _ => ReleasedOnce g) (fun _ g _ => ReleasedOnce g)
      g w := by
  unfold serve
  refine wp_seq (wp_chatCompletions_slot config req apiKey h) fun response g w h => ?_
  cases response with
  | json r cost => exact h
  | stream body =>
    obtain ⟨d, chain, checked, h, rfl⟩ := h
    dsimp only
    refine wp_seq (wp_startResponse h) fun _ g w h => ?_
    rw [wp_bind]
    exact wp_mono (fun _ _ _ h => h.releasedOnce) (fun _ _ _ h => h.releasedOnce) (wp_body d chain h)

end WaysOut

/-- **Every slot is released exactly once**, if the limiter admits nobody without one and nothing is cancelled between the
    slot and the body. -/
theorem slot_released_once (env : ChatEnv) (req : ChatRequest) (apiKey : String) (os : List (Outcome ChatErr))
    (w : ChatWorld) (ha : (serve env.config req apiKey).Admits (slotRuns env) os {} w) :
    ReleasedOnce ((serve env.config req apiKey).noted (slotRuns env) os {} w) := by
  have hend := wp_noted (wp_serve env.config req apiKey ⟨⟨rfl, rfl⟩, rfl⟩) ha
  revert hend
  cases ((serve env.config req apiKey).run (slotRuns env).exec os w).1 with
  | ok a => exact id
  | error e => exact id

/-- A streamed request … -/
def askStream : ChatRequest := { model := "claude", messages := ⟨40, 10⟩, stream := true, maxTokens := some 1000 }
/-- … and one for an answer in one piece. -/
def askWhole : ChatRequest := { askStream with stream := false }

def breaksAt (steps : Nat) (e : ChatErr) : List (Outcome ChatErr) :=
  List.replicate steps .served ++ [.dropped e]

/-- The client closes the stream when the first event is sent. -/
theorem slot_released_once_closed :
    ReleasedOnce ((serve {} askStream "k").noted (slotRuns (calmEnv ["openrouter"])) (breaksAt 38 .generatorExit) {}
      calmWorld) :=
  slot_released_once (calmEnv ["openrouter"]) askStream "k" (breaksAt 38 .generatorExit) calmWorld (by decide +kernel)

def cachedEnv : ChatEnv :=
  { calmEnv ["openrouter"] with
    answers := fun moment s =>
      match s with
      | .cachedRateLimit _ _ => some ⟨true, none⟩
      | s => (calmEnv ["openrouter"]).answers moment s }

/-- Three runs that do not: a body that is never iterated, a cancellation during the provider's call, and an admission by the
    cache, which gives back a slot that somebody else has. -/
theorem slot_lost_and_stolen :
    (serve {} askStream "k").noted (slotRuns (calmEnv ["openrouter"])) (breaksAt 25 .cancelled) {} calmWorld =
        ⟨1, 0, false⟩ ∧
      (serve {} askWhole "k").noted (slotRuns (calmEnv ["openrouter"])) (breaksAt 32 .cancelled) {} calmWorld =
        ⟨1, 0, false⟩ ∧
      (serve {} askWhole "k").noted (slotRuns cachedEnv) [] {} calmWorld = ⟨0, 1, false⟩ ∧
      ¬ ReleasedOnce ⟨1, 0, false⟩ ∧ ¬ ReleasedOnce ⟨0, 1, false⟩ := by
  refine ⟨by decide +kernel, by decide +kernel, by decide +kernel, fun h => ?_, fun h => ?_⟩
  · cases h.released
  · cases h.released

end Gatewayz
