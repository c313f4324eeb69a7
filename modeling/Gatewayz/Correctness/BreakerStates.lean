import Gatewayz.Health.CircuitBreaker

/-!
# `Correctness.BreakerStates` — the states of a single breaker, and its counters

The breaker of a process that has no Redis. Calls are admitted, and done, in any order: a call may be done in another state than the one
that has admitted it, and counts there all the same. The counters are shared by the states. `Moves` says where one event can lead,
`Counted` is what the counters keep.
-/

namespace Gatewayz.Breaker

open Exec

/-! ## The law -/

structure CircuitBreakerConfig.Positive (config : CircuitBreakerConfig) : Prop where
  failures : 0 < config.failureThreshold
  successes : 0 < config.successThreshold
  halfOpen : 0 < config.halfOpenMaxFailures
  requests : 0 < config.minRequestsForRate

/-- Where an event can lead. The time of the opening changes with an opening only. -/
inductive Moves (config : CircuitBreakerConfig) (b : CircuitBreaker) (now : ℚ) : BreakerEvent → CircuitBreaker → Prop where
  | stays {e : BreakerEvent} {b' : CircuitBreaker} : b'.state = b.state → b'.openedAt = b.openedAt → Moves config b now e b'
  | opens {b' : CircuitBreaker} : b.state = .closed → b'.state = .opened → b'.openedAt = now → Moves config b now .failure b'
  | tries {b' : CircuitBreaker} : b.state = .opened → b.openedAt + config.timeoutSeconds ≤ now → b'.state = .halfOpen →
      b'.openedAt = b.openedAt → Moves config b now .check b'
  | closes {b' : CircuitBreaker} : b.state = .halfOpen → b'.state = .closed → b'.openedAt = b.openedAt → Moves config b now .success b'
  | reopens {b' : CircuitBreaker} : b.state = .halfOpen → b'.state = .opened → b'.openedAt = now → Moves config b now .failure b'
  | resets {b' : CircuitBreaker} : b'.state = .closed → b'.openedAt = b.openedAt → Moves config b now .reset b'

def openings : List CircuitState → ℕ
  | .opened :: earlier => if earlier.head? = some .opened then openings earlier else openings earlier + 1
  | .halfOpen :: earlier => openings earlier
  | _ => 0

structure Bounded (config : CircuitBreakerConfig) (b : CircuitBreaker) : Prop where
  closed : b.state = .closed → b.failureCount < config.failureThreshold
  halfOpen : b.state = .halfOpen → b.successCount < config.successThreshold ∧ b.failureCount < config.halfOpenMaxFailures

/-- What the counters keep. -/
structure Counted (config : CircuitBreakerConfig) (s : Process) : Prop where
  bounded : Bounded config s.breaker
  latest : s.history.head? = some s.breaker.state
  opens : s.breaker.consecutiveOpens = openings s.history

/-! ## What a result does -/

section Result

variable {config : CircuitBreakerConfig} {b : CircuitBreaker} {now : ℚ}

def CircuitBreaker.counted (b : CircuitBreaker) (now : ℚ) (success : Bool) : CircuitBreaker :=
  { b with
    recentRequests := b.recentRequests ++ [(now, success)]
    failureCount := if success then 0 else b.failureCount + 1
    successCount := if success then b.successCount + 1 else 0
    lastFailureTime := if success then 0 else now }

theorem transitionTo_self {new : CircuitState} (h : b.state = new) : b.transitionTo now new = (b, []) := by
  rw [CircuitBreaker.transitionTo, if_pos h]

theorem transitionTo_of_ne {new : CircuitState} (h : b.state ≠ new) :
    b.transitionTo now new = (b.entered now new, [(b.entered now new).toCircuit]) := by
  rw [CircuitBreaker.transitionTo, if_neg h]

theorem recordSuccess_fst : (b.recordSuccess config now).1 =
      if b.state = .halfOpen ∧ config.successThreshold ≤ b.successCount + 1 then (b.counted now true).entered now .closed
      else b.counted now true := by
  unfold CircuitBreaker.recordSuccess CircuitBreaker.saved
  dsimp only
  split
  · next hclose =>
    have hne : (b.counted now true).state ≠ .closed := by
      show b.state ≠ .closed
      rw [hclose.1]
      decide
    exact congrArg Prod.fst (transitionTo_of_ne hne)
  · rfl

theorem recordFailure_opened (h : b.state = .opened) : (b.recordFailure config now).1 = b.counted now false := by
  obtain ⟨⟨state, _, _, _, _⟩, _, _⟩ := b
  obtain rfl : state = .opened := h
  rfl

theorem recordFailure_halfOpen (h : b.state = .halfOpen) : (b.recordFailure config now).1 =
      if config.halfOpenMaxFailures ≤ b.failureCount + 1 then (b.counted now false).entered now .opened else b.counted now false := by
  obtain ⟨⟨state, _, _, _, _⟩, _, _⟩ := b
  obtain rfl : state = .halfOpen := h
  unfold CircuitBreaker.recordFailure CircuitBreaker.saved
  dsimp only
  split
  · rfl
  · rfl

theorem recordFailure_closed (h : b.state = .closed) : (b.recordFailure config now).1 =
      if config.failureThreshold ≤ b.failureCount + 1 then (b.counted now false).entered now .opened
      else
        if config.minRequestsForRate ≤ ((b.counted now false).calculateFailureRate config now).1.2 ∧
            config.failureRateThreshold ≤ ((b.counted now false).calculateFailureRate config now).1.1 then
          (((b.counted now false).calculateFailureRate config now).2).entered now .opened
        else ((b.counted now false).calculateFailureRate config now).2 := by
  obtain ⟨⟨state, _, _, _, _⟩, _, _⟩ := b
  obtain rfl : state = .closed := h
  unfold CircuitBreaker.recordFailure CircuitBreaker.saved
  dsimp only
  split
  · rfl
  · split
    · next hrate => exact Eq.trans rfl (if_pos hrate).symm
    · next hrate => exact Eq.trans rfl (if_neg hrate).symm

end Result

/-! ## One event -/

section Event

variable {config : CircuitBreakerConfig} {b : CircuitBreaker} {now : ℚ}

/-- The number of openings after an event. -/
def opensAfter (b b' : CircuitBreaker) : ℕ :=
  if b'.state = b.state then b.consecutiveOpens
  else
    match b'.state with
    | .closed => 0
    | .opened => b.consecutiveOpens + 1
    | .halfOpen => b.consecutiveOpens

/-- What one event does: where it leads, and that the counters keep what they keep. -/
structure Reacts (config : CircuitBreakerConfig) (b : CircuitBreaker) (now : ℚ) (e : BreakerEvent) (b' : CircuitBreaker) : Prop where
  moves : Moves config b now e b'
  bounded : Bounded config b → Bounded config b'
  opens : b'.consecutiveOpens = opensAfter b b'

theorem opensAfter_same {b' : CircuitBreaker} (h : b'.state = b.state) : opensAfter b b' = b.consecutiveOpens := if_pos h

theorem bounded_of_opened (h : b.state = .opened) : Bounded config b := by
  refine ⟨fun hclosed => ?_, fun hhalf => ?_⟩
  · rw [h] at hclosed
    cases hclosed
  · rw [h] at hhalf
    cases hhalf

theorem bounded_of_closed (h : b.state = .closed) (hcount : b.failureCount < config.failureThreshold) : Bounded config b := by
  refine ⟨fun _ => hcount, fun hhalf => ?_⟩
  rw [h] at hhalf
  cases hhalf

theorem bounded_of_halfOpen (h : b.state = .halfOpen)
    (hcount : b.successCount < config.successThreshold ∧ b.failureCount < config.halfOpenMaxFailures) : Bounded config b := by
  refine ⟨fun hclosed => ?_, fun _ => hcount⟩
  rw [h] at hclosed
  cases hclosed

theorem reacts_check (hpos : config.Positive) : Reacts config b now .check (b.react config .check now).1 := by
  show Reacts config b now .check (b.checkShouldAttempt config now).2.1
  unfold CircuitBreaker.checkShouldAttempt
  cases hstate : b.state with
  | closed => exact ⟨.stays rfl rfl, id, (opensAfter_same rfl).symm⟩
  | halfOpen => exact ⟨.stays rfl rfl, id, (opensAfter_same rfl).symm⟩
  | opened =>
    dsimp only
    split
    · next htime =>
      have hne : b.state ≠ .halfOpen := by
        rw [hstate]
        decide
      rw [transitionTo_of_ne hne]
      refine ⟨.tries hstate (by linarith) rfl rfl, fun _ => bounded_of_halfOpen rfl ⟨hpos.successes, hpos.halfOpen⟩, ?_⟩
      exact (if_neg hne.symm).symm
    · exact ⟨.stays rfl rfl, id, (opensAfter_same rfl).symm⟩

theorem reacts_success (hpos : config.Positive) : Reacts config b now .success (b.react config .success now).1 := by
  show Reacts config b now .success (b.recordSuccess config now).1
  rw [recordSuccess_fst]
  split
  · next hclose =>
    have hne : b.state ≠ .closed := by
      rw [hclose.1]
      decide
    exact ⟨.closes hclose.1 rfl rfl, fun _ => bounded_of_closed rfl hpos.failures, (if_neg hne.symm).symm⟩
  · next hstay =>
    refine ⟨.stays rfl rfl, fun hbounded => ⟨fun _ => hpos.failures, fun hhalf => ⟨?_, hpos.halfOpen⟩⟩, (opensAfter_same rfl).symm⟩
    exact not_le.mp fun hle => hstay ⟨hhalf, hle⟩

theorem reacts_opening {counted : CircuitBreaker} (hopens : counted.consecutiveOpens = b.consecutiveOpens) (hne : b.state ≠ .opened) :
    Reacts config b now .failure (counted.entered now .opened) := by
  have hcount : (counted.entered now .opened).consecutiveOpens = opensAfter b (counted.entered now .opened) := by
    rw [opensAfter, if_neg (fun h => hne h.symm), ← hopens]
    rfl
  cases hb : b.state with
  | closed => exact ⟨.opens hb rfl rfl, fun _ => bounded_of_opened rfl, hcount⟩
  | halfOpen => exact ⟨.reopens hb rfl rfl, fun _ => bounded_of_opened rfl, hcount⟩
  | opened => exact absurd hb hne

theorem reacts_failure (hpos : config.Positive) : Reacts config b now .failure (b.react config .failure now).1 := by
  show Reacts config b now .failure (b.recordFailure config now).1
  cases hstate : b.state with
  | opened =>
    rw [recordFailure_opened hstate]
    exact ⟨.stays rfl rfl, fun _ => bounded_of_opened hstate, (opensAfter_same rfl).symm⟩
  | halfOpen =>
    rw [recordFailure_halfOpen hstate]
    split
    · exact reacts_opening rfl (by rw [hstate]; decide)
    · next hfew =>
      exact ⟨.stays rfl rfl, fun _ => bounded_of_halfOpen hstate ⟨hpos.successes, not_le.mp hfew⟩, (opensAfter_same rfl).symm⟩
  | closed =>
    rw [recordFailure_closed hstate]
    split
    · exact reacts_opening rfl (by rw [hstate]; decide)
    · next hfew =>
      split
      · exact reacts_opening rfl (by rw [hstate]; decide)
      · exact ⟨.stays rfl rfl, fun _ => bounded_of_closed hstate (not_le.mp hfew), (opensAfter_same rfl).symm⟩

theorem reacts_reset (hpos : config.Positive) : Reacts config b now .reset (b.react config .reset now).1 := by
  show Reacts config b now .reset (b.reset now).1
  unfold CircuitBreaker.reset
  by_cases hclosed : b.state = .closed
  · rw [transitionTo_self hclosed]
    exact ⟨.resets hclosed rfl, fun _ => bounded_of_closed hclosed hpos.failures, (opensAfter_same rfl).symm⟩
  · rw [transitionTo_of_ne hclosed]
    exact ⟨.resets rfl rfl, fun _ => bounded_of_closed rfl hpos.failures, (if_neg (fun h => hclosed h.symm)).symm⟩

theorem reacts (hpos : config.Positive) (e : BreakerEvent) : Reacts config b now e (b.react config e now).1 := by
  cases e with
  | check => exact reacts_check hpos
  | success => exact reacts_success hpos
  | failure => exact reacts_failure hpos
  | reset => exact reacts_reset hpos

end Event

/-! ## Runs -/

variable {config : CircuitBreakerConfig} {s : Process}

theorem openings_closed {history : List CircuitState} (h : history.head? = some .closed) : openings history = 0 := by
  obtain ⟨earlier, rfl⟩ := List.head?_eq_some_iff.mp h
  rfl

/-- Step: what is counted stays counted. -/
theorem Counted.step (hpos : config.Positive) (h : Counted config s) {e : BreakerEvent × ℚ} {s' : Process} {admitted : Bool}
    (hstep : (processMachine config).step s e = some (s', admitted)) : Counted config s' := by
  cases hstep
  have hreacts : Reacts config s.breaker e.2 e.1 (s.breaker.react config e.1 e.2).1 := reacts hpos e.1
  refine ⟨hreacts.bounded h.bounded, rfl, ?_⟩
  show ((s.breaker.react config e.1 e.2).1).consecutiveOpens = openings ((s.breaker.react config e.1 e.2).1.state :: s.history)
  rw [hreacts.opens, opensAfter, h.opens]
  have hlatest := h.latest
  generalize (s.breaker.react config e.1 e.2).1.state = state
  cases hstate : s.breaker.state with
  | closed =>
    rw [hstate] at hlatest
    cases state <;> simp [openings, hlatest, openings_closed hlatest]
  | opened =>
    rw [hstate] at hlatest
    cases state <;> simp [openings, hlatest]
  | halfOpen =>
    rw [hstate] at hlatest
    cases state <;> simp [openings, hlatest]

theorem counted_of_reach (hpos : config.Positive) (h : (processMachine config).Reach (fun _ _ => True) s) : Counted config s :=
  Machine.reach_invariant ⟨bounded_of_closed rfl hpos.failures, rfl, rfl⟩ (fun _ _ _ _ hs _ hstep => hs.step hpos hstep) h

/-- **The states of a breaker, and its counters**, after any events in any order. -/
theorem states_and_counters (hpos : config.Positive) (h : (processMachine config).Reach (fun _ _ => True) s) :
    Counted config s ∧
      ∀ e now s' admitted, (processMachine config).step s (e, now) = some (s', admitted) → Moves config s.breaker now e s'.breaker := by
  refine ⟨counted_of_reach hpos h, fun e now s' admitted hstep => ?_⟩
  cases hstep
  exact (reacts hpos e).moves

/-- A late failure, of a call that was admitted when the circuit was closed, keeps a half-open one from closing. -/
theorem states_and_counters_late :
    ∃ s : Process, s.breaker.state = .halfOpen ∧ s.breaker.failureCount = 1 ∧ openings s.history = 1 ∧
      (Counted {} s ∧
        ∀ e now s' admitted, (processMachine {}).step s (e, now) = some (s', admitted) → Moves {} s.breaker now e s'.breaker) := by
  have hrun : ((processMachine {}).run {}
      ([(.check, 0), (.failure, 1), (.failure, 1), (.failure, 1), (.failure, 1), (.failure, 1), (.check, 61), (.failure, 62)])).any (fun p =>
      decide (p.1.breaker.state = .halfOpen ∧ p.1.breaker.failureCount = 1 ∧ openings p.1.history = 1)) = true := by
    decide +kernel
  obtain ⟨⟨s, os⟩, hs, hstate⟩ := (Option.any_eq_true _ _).mp hrun
  obtain ⟨hhalf, hcount, hopens⟩ := of_decide_eq_true hstate
  have hreach : (processMachine {}).Reach (fun _ _ => True) s := Machine.reach_of_run .init _ _ (by decide +kernel) hs
  exact ⟨s, hhalf, hcount, hopens, states_and_counters ⟨by decide, by decide, by decide, by decide⟩ hreach⟩

end Gatewayz.Breaker
