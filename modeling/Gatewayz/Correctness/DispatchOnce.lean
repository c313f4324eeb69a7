import Gatewayz.Billing.Rules
import Gatewayz.Chat.Parts

/-!
# `Correctness.DispatchOnce` — one answer, one charge?

`dispatchNonStreaming` tries the providers of a chain. The loop takes every exception of an attempt for the provider's and
looks at its status only. A `RuntimeError` of the database code has none, is mapped to 502, and so sends the request to the
next provider, after the answer of this one has been paid for.

`dispatched_once` is the law for the runs in which no step raises such an exception once an answer is there and a provider is
left.
-/

namespace Gatewayz

open Exec

/-! ## What is counted -/

/-- What one call of `dispatchNonStreaming` has done so far. -/
structure DispatchTrace where
  attempts : Nat := 0
  returned : Bool := false
  callsAfter : Nat := 0
  /-- Deductions that moved the user's columns. -/
  charges : Nat := 0
  deriving DecidableEq

def DispatchTrace.note (u : Int) (g : DispatchTrace) (s : ChatStmt) (r : Except ChatErr (ChatRes s))
    (w w' : ChatWorld) : DispatchTrace :=
  match s with
  | .task .toInternalRequest => { g with attempts := g.attempts + 1 }
  | .callProvider _ _ _ =>
    { g with
      returned := g.returned || r.isOk
      callsAfter := if g.returned then g.callsAfter + 1 else g.callsAfter }
  | .deductCredits _ _ _ =>
    { g with charges := if w'.db.columns u = w.db.columns u then g.charges else g.charges + 1 }
  | _ => g

/-- One charge at most, and no call after an answer. -/
structure DispatchedOnce (g : DispatchTrace) : Prop where
  charged : g.charges ≤ 1
  notResent : g.callsAfter = 0

def failsOver (e : Exc) : Bool := shouldFailover (mapProviderError "" "" e)

/-- The `Exception` that a step raises. -/
def raises? {α : Type} : Except ChatErr α → Option Exc
  | .error (.exception e) => some e
  | _ => none

/-- After the answer, with a provider left, no step raises what the loop would go on for. -/
def failsForGood (env : ChatEnv) (providers : Nat) (g : DispatchTrace) (s : ChatStmt) (o : Outcome ChatErr)
    (w : ChatWorld) : Prop :=
  g.returned = true → g.attempts < providers → s ≠ .task .errorMetric →
    ((raises? (answer (chatExec env) s o w).1).any failsOver) = false

instance decidableFailsForGood (env : ChatEnv) (providers : Nat) (g : DispatchTrace) (s : ChatStmt)
    (o : Outcome ChatErr) (w : ChatWorld) : Decidable (failsForGood env providers g s o w) := by
  unfold failsForGood
  infer_instance

abbrev dispatchRuns (env : ChatEnv) (u : Int) (providers : Nat) :
    Setting ChatErr ChatStmt ChatRes DispatchTrace ChatWorld :=
  chatRuns env (DispatchTrace.note u) (failsForGood env providers)

/-! ## Which exceptions the loop goes on for -/

theorem mapProviderError_status (provider model : String) (e : Exc) :
    (mapProviderError provider model e).httpStatus? = (mapProviderError "" "" e).httpStatus? := by
  unfold mapProviderError
  split
  · rfl
  · unfold mapValueError
    repeat' split
    all_goals rfl
  · rfl
  · rfl
  · unfold mapSdkStatus
    repeat' split
    all_goals rfl
  · rfl
  · unfold mapHttpStatus
    repeat' split
    all_goals rfl
  · rfl
  · rfl
  · unfold mapByText
    repeat' split
    all_goals rfl
  · unfold mapByText
    repeat' split
    all_goals rfl

theorem shouldFailover_mapProviderError (provider model : String) (e : Exc) :
    shouldFailover (mapProviderError provider model e) = failsOver e := by
  rw [failsOver, shouldFailover, mapProviderError_status]
  rfl

theorem messageOf_error {response : ProviderResponse} {e : Exc} (h : ChatHandler.messageOf response = .error e) :
    failsOver e = false := by
  unfold ChatHandler.messageOf at h
  split at h
  · cases h; decide +kernel
  · cases h; decide +kernel
  · cases h

/-! ## The phases of an attempt -/

def Uncounted : ChatStmt → Prop
  | .task .toInternalRequest => False
  | .callProvider _ _ _ => False
  | .deductCredits _ _ _ => False
  | _ => True

/-- Attempt `j` has not been answered, and nothing has been charged. -/
def Fresh (j : Nat) (g : DispatchTrace) (_ : ChatWorld) : Prop := g = { attempts := j }

/-- Attempt `j` has been answered; at most `c` charges. -/
structure Returned (j c : Nat) (g : DispatchTrace) (_ : ChatWorld) : Prop where
  attempt : g.attempts = j
  returned : g.returned = true
  notResent : g.callsAfter = 0
  charged : g.charges ≤ c

/-- The loop will not go on after attempt `j` of `n` for this. -/
def Final (n j : Nat) (e : ChatErr) : Prop := j < n → ∀ x, e = .exception x → failsOver x = false

/-- How attempt `j` of `n` can fail: unanswered, or for good. -/
def Failed (n j : Nat) (e : ChatErr) (g : DispatchTrace) (w : ChatWorld) : Prop :=
  Fresh j g w ∨ Returned j 1 g w ∧ Final n j e

theorem Returned.mono {j c c' : Nat} {g : DispatchTrace} {w : ChatWorld} (h : Returned j c g w) (hc : c ≤ c') :
    Returned j c' g w :=
  ⟨h.attempt, h.returned, h.notResent, h.charged.trans hc⟩

variable {α : Type}

section Attempt

variable {env : ChatEnv} {u : Int} {n j c : Nat} {g : DispatchTrace} {w : ChatWorld}

variable {s : ChatStmt}

theorem note_uncounted (hs : Uncounted s) (g : DispatchTrace) (r : Except ChatErr (ChatRes s))
    (w w' : ChatWorld) : g.note u s r w w' = g := by
  unfold DispatchTrace.note
  split
  · exact hs.elim
  · exact hs.elim
  · exact hs.elim
  · rfl

theorem keeps_fresh : StepsKeep (dispatchRuns env u n) Uncounted (Fresh j) where
  step := fun s hs g o w _ h => by
    show Fresh j (g.note u s _ _ _) _
    rw [note_uncounted hs]
    exact h

theorem keeps_returned : StepsKeep (dispatchRuns env u n) Uncounted (Returned j c) where
  step := fun s hs g o w _ h => by
    show Returned j c (g.note u s _ _ _) _
    rw [note_uncounted hs]
    exact ⟨h.attempt, h.returned, h.notResent, h.charged⟩

theorem wp_fresh {p : ChatProg α} (hp : p.Stays Uncounted fun _ => True) (h : Fresh j g w) :
    p.wp (dispatchRuns env u n) .alone (fun _ => Fresh j) (fun _ => Fresh j) g w :=
  keeps_fresh.wp hp h

theorem final_of_allowed {o : Outcome ChatErr} {e : ChatErr} (hs : s ≠ .task .errorMetric)
    (h : Returned j c g w) (ho : failsForGood env n g s o w) (he : (answer (chatExec env) s o w).1 = .error e) :
    Final n j e := by
  rintro hj x rfl
  have hno := ho h.returned (h.attempt ▸ hj) hs
  rw [he] at hno
  exact hno

theorem wp_step_returned {c' : Nat} (hs : s ≠ .task .errorMetric) (h : Returned j c g w)
    (hnote : ∀ r w', Returned j c' (g.note u s r w w') w') :
    (call s).wp (dispatchRuns env u n) .alone (fun _ => Returned j c')
      (fun e g w => Returned j c' g w ∧ Final n j e) g w := by
  refine wp_alone_stmt (C := dispatchRuns env u n) fun o ho => ?_
  cases hr : (answer (chatExec env) s o w).1 with
  | ok a => exact hnote _ _
  | error e => exact ⟨hnote _ _, final_of_allowed hs h ho hr⟩

theorem wp_quiet_returned (hs : Uncounted s) (hne : s ≠ .task .errorMetric) (h : Returned j c g w) :
    (call s).wp (dispatchRuns env u n) .alone (fun _ => Returned j c)
      (fun e g w => Returned j c g w ∧ Final n j e) g w := by
  refine wp_step_returned hne h fun r w' => ?_
  rw [note_uncounted hs]
  exact ⟨h.attempt, h.returned, h.notResent, h.charged⟩

theorem wp_deduct_returned {apiKey : String} {cost : ℚ} {metadata : Dict} (h : Returned j 0 g w) :
    (call (.deductCredits apiKey cost metadata)).wp (dispatchRuns env u n) .alone (fun _ => Returned j 1)
      (fun e g w => Returned j 1 g w ∧ Final n j e) g w := by
  refine wp_step_returned nofun h fun r w' => ?_
  have hzero : g.charges = 0 := Nat.le_zero.mp h.charged
  refine ⟨h.attempt, h.returned, h.notResent, ?_⟩
  show (if w'.db.columns u = w.db.columns u then g.charges else g.charges + 1) ≤ 1
  split <;> omega

theorem wp_callProvider_fresh {provider modelId : String} {maxTokens : Option Nat} (h : Fresh j g w) :
    (call (.callProvider provider modelId maxTokens)).wp (dispatchRuns env u n) .alone (fun _ => Returned j 0)
      (fun _ => Fresh j) g w := by
  refine wp_alone_stmt (C := dispatchRuns env u n) fun o ho => ?_
  obtain rfl : g = _ := h
  cases hr : (answer (chatExec env) (.callProvider provider modelId maxTokens) o w).1 with
  | ok a => exact ⟨rfl, rfl, rfl, le_rfl⟩
  | error e => rfl

end Attempt

/-! ## Up to the answer -/

variable (h : ChatHandler)

section Upstream

variable {env : ChatEnv} {u : Int} {n j : Nat} {g : DispatchTrace} {w : ChatWorld}

theorem wp_callProvider {provider modelId : String} {maxTokens : Option Nat} (h : Fresh j g w) :
    (callProvider provider modelId maxTokens).wp (dispatchRuns env u n) .alone (fun _ => Returned j 0)
      (fun _ => Fresh j) g w := by
  unfold callProvider
  refine wp_seq (wp_fresh (stays_bindByok trivial) h) fun byok g w h => ?_
  rw [wp_exceptException, wp_bind]
  refine wp_mono (fun _ _ _ h => h) (fun e g w h => ?_) (wp_callProvider_fresh h)
  cases e with
  | exception e => exact h
  | cancelled => exact h
  | generatorExit => exact h

def Found {α : Type} (j : Nat) : Except String α → DispatchTrace → ChatWorld → Prop
  | .ok _ => Returned j 0
  | .error _ => Fresh j

theorem wp_tryProviders {execute : ProviderConfig → ChatProg α} (hexecute : ∀ p g w, Fresh j g w →
      (execute p).wp (dispatchRuns env u n) .alone (fun _ => Returned j 0) (fun _ => Fresh j) g w)
    (ps : List ProviderConfig) (lastError : String) (h : Fresh j g w) :
    (tryProviders execute lastError ps).wp (dispatchRuns env u n) .alone (Found j) (fun _ => Fresh j) g w := by
  induction ps generalizing lastError g w with
  | nil => exact h
  | cons p ps ih =>
    rw [tryProviders, wp_exceptException, wp_bind]
    refine wp_mono (fun _ _ _ h => h) (fun e g w h => ?_) (hexecute p g w h)
    cases e with
    | exception e => exact ih e.text h
    | cancelled => exact h
    | generatorExit => exact h

theorem wp_executeWithFailover {execute : ProviderConfig → ChatProg α} (hexecute : ∀ p g w, Fresh j g w →
      (execute p).wp (dispatchRuns env u n) .alone (fun _ => Returned j 0) (fun _ => Fresh j) g w)
    (model : String) (enabled : List ProviderConfig) (h : Fresh j g w) :
    (executeWithFailover model enabled execute).wp (dispatchRuns env u n) .alone (Found j) (fun _ => Fresh j) g w := by
  unfold executeWithFailover
  cases enabled.head? with
  | none => exact h
  | some primary =>
    refine wp_seq (wp_fresh (stays_availableOnly (fun _ => trivial) _) h) fun available g w h => ?_
    cases available with
    | nil => exact h
    | cons p ps => exact wp_tryProviders hexecute (p :: ps) "None" h

theorem wp_upstream (user : ChatUser) (r : InternalChatRequest) (maxTokens : Option Nat) (hfresh : Fresh j g w) :
    (h.upstream user r maxTokens).wp (dispatchRuns env u n) .alone (fun _ => Returned j 0) (fun _ => Fresh j) g w := by
  unfold ChatHandler.upstream
  refine wp_seq (wp_fresh (stays_call trivial) hfresh) fun registered g w hfresh => ?_
  cases registered with
  | some enabled =>
    refine wp_seq (wp_executeWithFailover (fun p g w hfresh => wp_callProvider hfresh) r.model enabled hfresh) fun result g w hfound => ?_
    rcases result with text | ⟨⟨response, byok⟩, p⟩
    · rw [wp_bind]
      exact wp_fresh (stays_save trivial) hfound
    · exact hfound
  | none =>
    refine wp_seq (wp_fresh (stays_detectedProvider trivial) hfresh) fun provider g w hfresh => ?_
    refine wp_seq (wp_fresh (stays_call trivial) hfresh) fun modelId g w hfresh => ?_
    rw [wp_bind]
    exact wp_callProvider hfresh

end Upstream

/-! ## An attempt -/

section Process

variable {env : ChatEnv} {u : Int} {n j : Nat} {g : DispatchTrace} {w : ChatWorld}

theorem wp_save_returned {c : Nat} (row : RequestRow) (hreturned : Returned j c g w) :
    (ChatHandler.save row).wp (dispatchRuns env u n) .alone (fun _ => Returned j c)
      (fun e g w => Returned j c g w ∧ Final n j e) g w := by
  unfold ChatHandler.save
  rw [wp_bind]
  exact wp_quiet_returned trivial nofun hreturned

theorem wp_bill_returned (r : InternalChatRequest) (provider modelId : String) (byok : Bool)
    (t : TokenCounts) (hreturned : Returned j 0 g w) :
    (h.bill r provider modelId byok t).wp (dispatchRuns env u n) .alone (fun _ => Returned j 0)
      (fun e g w => Returned j 0 g w ∧ Final n j e) g w := by
  unfold ChatHandler.bill
  rw [wp_bind]
  exact wp_quiet_returned trivial nofun hreturned

theorem wp_chargeUser_returned (user : ChatUser) (cost : ℚ) (model : String) (t : TokenCounts)
    (hreturned : Returned j 0 g w) :
    (h.chargeUser user cost model t).wp (dispatchRuns env u n) .alone (fun _ => Returned j 1)
      (fun e g w => Returned j 1 g w ∧ Final n j e) g w := by
  unfold ChatHandler.chargeUser
  refine wp_seq (wp_deduct_returned hreturned) fun _ g w hcharged => ?_
  rw [wp_bind]
  exact wp_quiet_returned trivial nofun hcharged

/-- A part under the `except` clause of `process` fails as the part does, or as the record of the failure does. -/
theorem wp_orSaveFailed {Q : α → DispatchTrace → ChatWorld → Prop} (user : Option ChatUser)
    (model provider : String) (t : TokenCounts) {part : ChatProg α}
    (hpart : part.wp (dispatchRuns env u n) .alone Q (Failed n j) g w) :
    (h.orSaveFailed user model provider t part).wp (dispatchRuns env u n) .alone Q (Failed n j) g w := by
  unfold ChatHandler.orSaveFailed
  rw [wp_exceptException]
  refine wp_mono (fun _ _ _ hq => hq) (fun e g w he => ?_) hpart
  cases e with
  | cancelled => exact he
  | generatorExit => exact he
  | exception e =>
    rw [caught_exception, wp_bind]
    rcases he with hfresh | ⟨hreturned, hfinal⟩
    · exact wp_mono (fun _ _ _ h => .inl h) (fun _ _ _ h => .inl h) (wp_fresh (stays_save trivial) hfresh)
    · refine wp_mono (fun _ g w h => ?_) (fun _ _ _ h => .inr h) (wp_save_returned _ hreturned)
      exact .inr ⟨h, hfinal⟩

theorem wp_settle_dispatched (user : ChatUser) (r : InternalChatRequest) (s : Served) (hreturned : Returned j 0 g w) :
    (h.settle user r s).wp (dispatchRuns env u n) .alone (fun _ => Returned j 1)
      (fun e g w => Returned j 1 g w ∧ Final n j e) g w := by
  unfold ChatHandler.settle
  split
  · rename_i e he
    refine ⟨hreturned.mono (Nat.zero_le 1), ?_⟩
    rintro - x hx
    cases hx
    exact messageOf_error he
  · have hearly : ∀ e g w, Returned j 0 g w ∧ Final n j e → Returned j 1 g w ∧ Final n j e :=
      fun e g w he => ⟨he.1.mono (Nat.zero_le 1), he.2⟩
    rw [wp_bind]
    refine wp_mono (fun cost g w h₁ => ?_) hearly (wp_bill_returned h r s.provider s.modelId s.byok _ hreturned)
    refine wp_seq (wp_chargeUser_returned h user cost.total r.model _ h₁) fun _ g w h₂ => ?_
    refine wp_seq (wp_save_returned _ h₂) fun _ g w h₃ => ?_
    rw [wp_bind]
    exact wp_quiet_returned trivial nofun h₃

/-- `process` answers after one charge at most, or fails unanswered, or for good. -/
theorem wp_process (r : InternalChatRequest) (hfresh : Fresh j g w) :
    (h.process r).wp (dispatchRuns env u n) .alone (fun _ => Returned j 1) (Failed n j) g w := by
  unfold ChatHandler.process
  refine wp_seq (wp_orSaveFailed h none r.model "unknown" noTokens
    (wp_mono (fun _ _ _ h => h) (fun _ _ _ h => .inl h) (wp_fresh (stays_initializeUserContext trivial) hfresh))) fun user g w hfresh => ?_
  refine wp_orSaveFailed h (some user) r.model "unknown" noTokens ?_
  rw [wp_bind]
  refine wp_mono (fun maxTokens g w hfresh => ?_) (fun _ _ _ h => .inl h) (wp_fresh (stays_call trivial) hfresh)
  rw [wp_bind]
  refine wp_mono (fun served g w hreturned => ?_) (fun _ _ _ h => .inl h) (wp_upstream h user r maxTokens hfresh)
  exact wp_mono (fun _ _ _ h => h) (fun _ _ _ h => .inr h) (wp_settle_dispatched h user r served hreturned)

variable (d : DispatchParams)

variable (provider : String)

theorem wp_attempt_once (hfresh : Fresh j g w) :
    (nonStreamingAttempt d provider).wp (dispatchRuns env u n) .alone (fun _ => Returned (j + 1) 1)
      (Failed n (j + 1)) g w := by
  have hbegin : (toInternalRequest d false provider).wp (dispatchRuns env u n) .alone (fun _ => Fresh (j + 1))
      (fun _ => Fresh (j + 1)) g w := by
    obtain rfl : g = _ := hfresh
    unfold toInternalRequest
    rw [wp_bind]
    refine wp_alone_stmt (C := dispatchRuns env u n) fun o _ => ?_
    cases (answer (chatExec env) (.task .toInternalRequest) o w).1 with
    | ok a => rfl
    | error e => rfl
  have hhandler : (newHandler d).Stays Uncounted fun _ => True := stays_bind (stays_call trivial) fun _ => trivial
  unfold nonStreamingAttempt
  rw [wp_bind]
  refine wp_mono (fun r g w h₁ => ?_) (fun _ _ _ h => .inl h) hbegin
  rw [wp_bind]
  refine wp_mono (fun h g w h₂ => ?_) (fun _ _ _ h => .inl h) (wp_fresh hhandler h₁)
  refine wp_seq (wp_process h r h₂) fun response g w h₃ => ?_
  -- conversion, trace, metrics
  rw [wp_bind]
  refine wp_mono (fun _ g w h₄ => ?_) (fun _ _ _ h => .inr h) (wp_quiet_returned trivial nofun h₃)
  rw [wp_bind]
  refine wp_mono (fun _ g w h₅ => ?_) (fun _ _ _ h => .inr h) (wp_quiet_returned trivial nofun h₄)
  rw [wp_bind]
  exact wp_mono (fun _ _ _ h => h) (fun _ _ _ h => .inr h) (wp_quiet_returned trivial nofun h₅)

end Process

/-! ## The chain -/

section Chain

variable {env : ChatEnv} {u : Int} {n j : Nat} {g : DispatchTrace} {w : ChatWorld}

theorem Fresh.dispatchedOnce (h : Fresh j g w) : DispatchedOnce g := by
  obtain rfl : g = _ := h
  exact ⟨Nat.zero_le 1, rfl⟩

theorem Returned.dispatchedOnce (h : Returned j 1 g w) : DispatchedOnce g := ⟨h.charged, h.notResent⟩

theorem Failed.dispatchedOnce {e : ChatErr} (h : Failed n j e g w) : DispatchedOnce g := by
  rcases h with h | ⟨h, -⟩
  · exact h.dispatchedOnce
  · exact h.dispatchedOnce

theorem wp_nonStreamingAttempts (d : DispatchParams) (chain : List String) (hn : j + chain.length = n)
    (hfresh : Fresh j g w) :
    (nonStreamingAttempts d chain).wp (dispatchRuns env u n) .alone (fun _ g _ => DispatchedOnce g)
      (fun _ g _ => DispatchedOnce g) g w := by
  induction chain generalizing j g w with
  | nil => exact hfresh.dispatchedOnce
  | cons provider rest ih =>
    rw [nonStreamingAttempts, wp_exceptException]
    refine wp_mono (fun _ _ _ h => h.dispatchedOnce) (fun e g w he => ?_) (wp_attempt_once d provider hfresh)
    cases e with
    | cancelled => exact he.dispatchedOnce
    | generatorExit => exact he.dispatchedOnce
    | exception e =>
      rw [caught_exception, wp_bind]
      have hlength : j + 1 + rest.length = n := by rw [← hn, List.length_cons]; omega
      rcases he with hfresh | ⟨hreturned, hfinal⟩
      · refine wp_mono (fun _ g w h => ?_) (fun _ _ _ h => h.dispatchedOnce) (wp_fresh (stays_call trivial) hfresh)
        dsimp only
        split
        · exact ih hlength h
        · exact h.dispatchedOnce
      · refine wp_mono (fun _ g w h => ?_) (fun _ _ _ h => h.dispatchedOnce)
          (keeps_returned.call trivial hreturned)
        dsimp only
        split
        · -- the loop goes on although there was an answer: no provider is left for that
          rename_i hgoes
          rw [shouldFailover_mapProviderError] at hgoes
          have hleft : j + 1 < n := by
            have := List.length_pos_of_ne_nil hgoes.1
            omega
          rw [hfinal hleft e rfl] at hgoes
          cases hgoes.2
        · exact h.dispatchedOnce

/-- **One request is charged at most once and not sent again after an answer**, if no step raises what the loop goes on for
    once an answer is there and a provider is left. -/
theorem dispatched_once (env : ChatEnv) (u : Int) (d : DispatchParams) (chain : List String)
    (os : List (Outcome ChatErr)) (w : ChatWorld)
    (ha : (dispatchNonStreaming d chain).Admits (dispatchRuns env u chain.length) os {} w) :
    DispatchedOnce ((dispatchNonStreaming d chain).noted (dispatchRuns env u chain.length) os {} w) := by
  have hwp : (dispatchNonStreaming d chain).wp (dispatchRuns env u chain.length) .alone (fun _ g _ => DispatchedOnce g)
      (fun _ g _ => DispatchedOnce g) {} w := by
    unfold dispatchNonStreaming
    split
    · exact ⟨Nat.zero_le 1, rfl⟩
    · exact wp_nonStreamingAttempts d chain (Nat.zero_add _) rfl
  have hend := wp_noted hwp ha
  revert hend
  cases ((dispatchNonStreaming d chain).run (chatExec env) os w).1 with
  | ok a => exact id
  | error e => exact id

end Chain

def tenTokens : DispatchParams := ⟨{}, "k", "claude", ⟨40, 10⟩, some 1000⟩

def upToCall (o : Outcome ChatErr) : List (Outcome ChatErr) :=
  [.served, .served, .served, .served, .served, .served, .served, o]

/-- The first provider times out, the second answers. -/
theorem dispatched_once_after_timeout :
    DispatchedOnce ((dispatchNonStreaming tenTokens ["fireworks", "openrouter"]).noted
      (dispatchRuns (calmEnv ["fireworks", "openrouter"]) 1 2) (upToCall (.dropped (.exception (.timeout "read")))) {}
      calmWorld) :=
  dispatched_once (calmEnv ["fireworks", "openrouter"]) 1 tenTokens ["fireworks", "openrouter"]
    (upToCall (.dropped (.exception (.timeout "read")))) calmWorld (by decide +kernel)

/-- The link during the first deduction: the procedure is not there, the ledger row cannot be inserted, and the rollback
    does not get through. -/
def rollbackFails (moment : Nat) : List (Outcome PyErr) :=
  if moment = 9 then
    [.served, .served, .served, .served, .dropped ⟨.apiError "PGRST202", "Could not find the function"⟩, .served,
      .dropped ⟨.apiError "57014", "timeout"⟩, .dropped ⟨.connectionError, "reset"⟩]
  else []

/-- The balance has been moved when the deduction raises "Do NOT retry": the next provider is called and the user charged
    again. -/
theorem dispatched_twice :
    let env : ChatEnv := { calmEnv ["fireworks", "openrouter"] with link := rollbackFails }
    (dispatchNonStreaming tenTokens ["fireworks", "openrouter"]).noted
        (dispatchRuns env 1 2) [] {} calmWorld = ⟨2, true, 1, 2⟩ ∧
      ¬ DispatchedOnce ((dispatchNonStreaming tenTokens ["fireworks", "openrouter"]).noted
        (dispatchRuns env 1 2) [] {} calmWorld) := by
  have htrace : (dispatchNonStreaming tenTokens ["fireworks", "openrouter"]).noted
      (dispatchRuns { calmEnv ["fireworks", "openrouter"] with link := rollbackFails } 1 2) [] {} calmWorld =
        ⟨2, true, 1, 2⟩ := by
    decide +kernel
  refine ⟨htrace, fun h => ?_⟩
  rw [htrace] at h
  exact absurd h.charged (by decide)

end Gatewayz
