import Gatewayz.Correctness.BreakerStates
import Gatewayz.Correctness.OpenedStaysShut
import Mathlib.Data.Fintype.Basic

/-!
# `Correctness.ResetTakesEffect` — a circuit that is reset by hand

A reset changes the copy of the worker that it happens on. It is saved if that copy was not closed: only then there is a transition. If
the copy was closed, Redis keeps what it has, be it an open circuit, and the next check loads that (`reset_unseen`).

Where it is saved, the next check is admitted, and the circuit is not opened again before it has deserved that by further failures
(`OpenedAgain`), as long as calls come one after the other (`Alone`): a worker whose copy is older than the reset would save it.
-/

namespace Gatewayz.Breaker

open Exec

/-! ## After the reset -/

structure Result (W : Type) where
  worker : W
  time : ℚ
  success : Bool
  deriving DecidableEq

def WorkerEvent.result? {W : Type} : WorkerEvent W → Option (Result W)
  | .success worker now => some ⟨worker, now, true⟩
  | .failure worker now => some ⟨worker, now, false⟩
  | _ => none

def afterMachine {W : Type} [DecidableEq W] (config : CircuitBreakerConfig) (start : Workers W) :
    Machine (Workers W × List (Result W)) (WorkerEvent W) Bool where
  init := (start, [])
  step := fun s e => (s.1.step config e).map fun next => ((next.1, e.result?.toList ++ s.2), next.2)

section Deserved

variable {W : Type} [DecidableEq W] (config : CircuitBreakerConfig)

def failuresInRow (log : List (Result W)) : ℕ := (log.takeWhile fun r => !r.success).length

def resultsOf (worker : W) (since : ℚ) (log : List (Result W)) : List (Result W) :=
  log.filter fun r => r.worker = worker ∧ since < r.time

/-- The last result deserves that the circuit is opened: so many failures in a row, or such a rate of them. -/
def Deserved : List (Result W) → Prop
  | [] => False
  | r :: log =>
    r.success = false ∧
      (config.failureThreshold ≤ failuresInRow (r :: log) ∨
        config.minRequestsForRate ≤ (resultsOf r.worker (r.time - config.failureWindowSeconds) (r :: log)).length ∧
          config.failureRateThreshold ≤
            (((resultsOf r.worker (r.time - config.failureWindowSeconds) (r :: log)).filter fun r => !r.success).length : ℚ) /
              (resultsOf r.worker (r.time - config.failureWindowSeconds) (r :: log)).length)

def OpenedAgain (log : List (Result W)) : Prop := ∃ past, past <:+ log ∧ Deserved config past

/-- Calls come one after the other: nobody else has something to save, and the copy that a result is counted in is the one in Redis.
    Nothing of before the reset is in the window of a failure. -/
def Alone (start : Workers W) (s : Workers W × List (Result W)) : WorkerEvent W → Prop
  | .check _ now => (∀ u, s.1.pending u = []) ∧ (s.1.stored now).isSome = true
  | .success worker now => (∀ u, s.1.pending u = []) ∧ s.1.stored now = some (s.1.breakers worker).toCircuit
  | .failure worker now =>
    (∀ u, s.1.pending u = []) ∧ s.1.stored now = some (s.1.breakers worker).toCircuit ∧
      ∀ r ∈ (start.breakers worker).recentRequests, r.1 ≤ now - config.failureWindowSeconds
  | .save _ _ => True

instance decidableAlone [Fintype W] (start : Workers W) (s : Workers W × List (Result W)) (e : WorkerEvent W) :
    Decidable (Alone config start s e) := by
  unfold Alone
  apply e.casesOn (motive := fun e => Decidable (Alone config start s e))
  all_goals intros
  all_goals unfold Alone
  all_goals infer_instance

/-- The reset has taken effect: no check is refused, and no circuit is saved open, before that is deserved again. -/
structure TakesEffect (start : Workers W) (s : Workers W × List (Result W)) : Prop where
  admitted : ∀ worker now s', Alone config start s (.check worker now) → s.1.step config (.check worker now) = some (s', false) →
    OpenedAgain config s.2
  opened : ∀ worker, ∀ c ∈ s.1.pending worker, c.state = .opened → OpenedAgain config s.2

/-- The next check, of any worker that is free for it, while Redis would still have what was saved now. -/
def AdmitsNext (s : Workers W) (now : ℚ) : Prop :=
  ∀ worker later, now ≤ later → later < now + ttl → s.pending worker = [] →
    (((s.breakers worker).load (s.stored later)).checkShouldAttempt config later).1 = true

end Deserved

/-! ## What is saved -/

section Saves

variable {config : CircuitBreakerConfig} {b : CircuitBreaker} {now : ℚ}

def SavesItself (done : CircuitBreaker × List Circuit) : Prop := ∀ c ∈ done.2, c = done.1.toCircuit

theorem savesItself_transitionTo (new : CircuitState) : SavesItself (b.transitionTo now new) := by
  unfold CircuitBreaker.transitionTo
  split
  · nofun
  · exact fun c hc => List.mem_singleton.mp hc

theorem SavesItself.saved {done : CircuitBreaker × List Circuit} (h : SavesItself done) : SavesItself (CircuitBreaker.saved done) := by
  intro c hc
  rcases List.mem_append.mp hc with hbefore | hlast
  · exact h c hbefore
  · exact List.mem_singleton.mp hlast

theorem savesItself_check : SavesItself (b.checkShouldAttempt config now).2 := by
  unfold CircuitBreaker.checkShouldAttempt
  split
  · nofun
  · nofun
  · split
    · exact savesItself_transitionTo .halfOpen
    · nofun

theorem savesItself_recordSuccess : SavesItself (b.recordSuccess config now) := by
  unfold CircuitBreaker.recordSuccess
  refine SavesItself.saved ?_
  split
  · exact savesItself_transitionTo .closed
  · nofun

theorem savesItself_recordFailure : SavesItself (b.recordFailure config now) := by
  unfold CircuitBreaker.recordFailure
  refine SavesItself.saved ?_
  dsimp only
  split
  · split
    · exact savesItself_transitionTo .opened
    · nofun
  · split
    · exact savesItself_transitionTo .opened
    · split
      · exact savesItself_transitionTo .opened
      · nofun
  · nofun

theorem saved_ne_nil (done : CircuitBreaker × List Circuit) : (CircuitBreaker.saved done).2 ≠ [] :=
  List.append_ne_nil_of_right_ne_nil _ (List.cons_ne_nil _ _)

end Saves

/-! ## Circuits that have not opened too early -/

section Good

variable {W : Type} {config : CircuitBreakerConfig} {log : List (Result W)} {b : CircuitBreaker} {worker : W} {now : ℚ}

def recentSince (b : CircuitBreaker) (since : ℚ) : List (ℚ × Bool) := b.recentRequests.filter fun r => since < r.1

def remembered (results : List (Result W)) : List (ℚ × Bool) := results.reverse.map fun r => (r.time, r.success)

theorem failureRate_of_remembered {results : List (Result W)}
    (h : recentSince b (now - config.failureWindowSeconds) = remembered results) :
    (b.calculateFailureRate config now).1 =
      if results.length < config.minRequestsForRate then (0, results.length)
      else (((results.filter fun r => !r.success).length : ℚ) / results.length, results.length) := by
  change b.recentRequests.filter (fun r => now - config.failureWindowSeconds < r.1) = results.reverse.map _ at h
  unfold CircuitBreaker.calculateFailureRate
  dsimp only
  rw [h, List.length_map, List.length_reverse, List.filter_map, List.length_map, List.filter_reverse, List.length_reverse]
  rfl

variable [DecidableEq W]

theorem OpenedAgain.cons (h : OpenedAgain config log) (r : Result W) : OpenedAgain config (r :: log) := by
  obtain ⟨past, hpast, hdeserved⟩ := h
  exact ⟨past, hpast.trans (List.suffix_cons r log), hdeserved⟩

/-- A circuit has not more failures than there were in a row, and is closed unless another state was deserved. -/
def Good (config : CircuitBreakerConfig) (log : List (Result W)) (c : Circuit) : Prop :=
  c.failureCount ≤ failuresInRow log ∧ (c.state ≠ .closed → OpenedAgain config log)

theorem good_check (h : Good config log b.toCircuit) : Good config log (b.checkShouldAttempt config now).2.1.toCircuit := by
  unfold CircuitBreaker.checkShouldAttempt
  split
  · exact h
  · exact h
  · next hopened =>
    split
    · rw [transitionTo_of_ne (by rw [hopened]; decide)]
      exact ⟨Nat.zero_le _, fun _ => h.2 (by rw [hopened]; decide)⟩
    · exact h

theorem good_success (h : Good config log b.toCircuit) :
    Good config (⟨worker, now, true⟩ :: log) (b.recordSuccess config now).1.toCircuit := by
  rw [recordSuccess_fst]
  split
  · exact ⟨Nat.zero_le _, fun hne => absurd rfl hne⟩
  · exact ⟨Nat.zero_le _, fun hne => (h.2 hne).cons _⟩

theorem good_failure (h : Good config log b.toCircuit)
    (hrecent : recentSince (b.counted now false) (now - config.failureWindowSeconds) =
      remembered (resultsOf worker (now - config.failureWindowSeconds) (⟨worker, now, false⟩ :: log))) :
    Good config (⟨worker, now, false⟩ :: log) (b.recordFailure config now).1.toCircuit := by
  have hcount : b.failureCount + 1 ≤ failuresInRow (⟨worker, now, false⟩ :: log) := Nat.succ_le_succ h.1
  cases hstate : b.state with
  | opened =>
    rw [recordFailure_opened hstate]
    exact ⟨hcount, fun hne => (h.2 hne).cons _⟩
  | halfOpen =>
    have hagain : OpenedAgain config (⟨worker, now, false⟩ :: log) := (h.2 (by rw [hstate]; decide)).cons _
    rw [recordFailure_halfOpen hstate]
    split
    · exact ⟨hcount, fun _ => hagain⟩
    · exact ⟨hcount, fun _ => hagain⟩
  | closed =>
    rw [recordFailure_closed hstate]
    split
    · next hmany => exact ⟨hcount, fun _ => ⟨_, List.suffix_rfl, rfl, .inl (hmany.trans hcount)⟩⟩
    · split
      · next hrate =>
        refine ⟨hcount, fun _ => ⟨_, List.suffix_rfl, rfl, .inr ?_⟩⟩
        rw [failureRate_of_remembered hrecent] at hrate
        split at hrate
        · next hfew => exact absurd hrate.1 (not_le.mpr hfew)
        · exact hrate
      · exact ⟨hcount, fun hne => absurd hstate hne⟩

end Good

/-! ## What a breaker remembers -/

section Remembered

variable {config : CircuitBreakerConfig} {b : CircuitBreaker} {now since : ℚ}

theorem recentSince_check : recentSince (b.checkShouldAttempt config now).2.1 since = recentSince b since := by
  unfold CircuitBreaker.checkShouldAttempt
  split
  · rfl
  · rfl
  · next hopened =>
    split
    · rw [transitionTo_of_ne (by rw [hopened]; decide)]
      rfl
    · rfl

theorem recentSince_counted (success : Bool) :
    recentSince (b.counted now success) since = recentSince b since ++ [(now, success)].filter fun r => since < r.1 :=
  List.filter_append ..

theorem recentSince_recordSuccess : recentSince (b.recordSuccess config now).1 since = recentSince (b.counted now true) since := by
  rw [recordSuccess_fst]
  split
  · rfl
  · rfl

theorem recentSince_calculateFailureRate (h : now - config.failureWindowSeconds ≤ since) :
    recentSince (b.calculateFailureRate config now).2 since = recentSince b since := by
  unfold recentSince CircuitBreaker.calculateFailureRate
  dsimp only
  rw [List.filter_filter]
  refine List.filter_congr fun r _ => ?_
  by_cases hr : since < r.1
  · simp [hr, lt_of_le_of_lt h hr]
  · simp [hr]

theorem recentSince_recordFailure (h : now - config.failureWindowSeconds ≤ since) :
    recentSince (b.recordFailure config now).1 since = recentSince (b.counted now false) since := by
  cases hstate : b.state with
  | opened => rw [recordFailure_opened hstate]
  | halfOpen =>
    rw [recordFailure_halfOpen hstate]
    split
    · rfl
    · rfl
  | closed =>
    rw [recordFailure_closed hstate]
    split
    · rfl
    · split
      · exact recentSince_calculateFailureRate h
      · exact recentSince_calculateFailureRate h

end Remembered

/-! ## Runs -/

section Runs

variable {W : Type} [DecidableEq W] {config : CircuitBreakerConfig} {start : Workers W} {s s' : Workers W × List (Result W)}

/-- Since the reset, no circuit has been opened too early, and nothing is remembered but what was before and what came since. -/
structure SinceReset (config : CircuitBreakerConfig) (start : Workers W) (s : Workers W × List (Result W)) : Prop where
  pending : ∀ u, ∀ c ∈ s.1.pending u, Good config s.2 c
  redis : (∀ u, s.1.pending u = []) → ∀ p, s.1.redis = some p → Good config s.2 p.1
  recalls : ∀ u since, s.1.now - config.failureWindowSeconds ≤ since →
    recentSince (s.1.breakers u) since = recentSince (start.breakers u) since ++ remembered (resultsOf u since s.2)

theorem SinceReset.stored (h : SinceReset config start s) (hidle : ∀ u, s.1.pending u = []) {now : ℚ} {c : Circuit}
    (hstored : s.1.stored now = some c) : Good config s.2 c := by
  unfold Workers.stored at hstored
  obtain ⟨p, hp, rfl⟩ := Option.map_eq_some_iff.mp hstored
  exact h.redis hidle p (Option.eq_some_of_filter_eq_some hp)

theorem remembered_cons_self {worker : W} {now since : ℚ} {success : Bool} {log : List (Result W)} :
    remembered (resultsOf worker since (⟨worker, now, success⟩ :: log)) =
      remembered (resultsOf worker since log) ++ [(now, success)].filter fun r => since < r.1 := by
  unfold remembered resultsOf
  by_cases hsince : since < now
  · simp [hsince]
  · simp [hsince]

theorem resultsOf_cons_of_ne {u : W} {r : Result W} {since : ℚ} {log : List (Result W)} (h : u ≠ r.worker) :
    resultsOf u since (r :: log) = resultsOf u since log :=
  List.filter_cons_of_neg (by simp [Ne.symm h])

theorem SinceReset.act (h : SinceReset config start s) (hidle : ∀ u, s.1.pending u = []) {worker : W} {now : ℚ}
    (hlater : s.1.now ≤ now) {done : CircuitBreaker × List Circuit} {log : List (Result W)} (hsaves : SavesItself done)
    (hgood : Good config log done.1.toCircuit) (hredis : done.2 = [] → ∀ p, s.1.redis = some p → Good config log p.1)
    (hself : ∀ since, now - config.failureWindowSeconds ≤ since →
      recentSince done.1 since = recentSince (start.breakers worker) since ++ remembered (resultsOf worker since log))
    (hother : ∀ u, u ≠ worker → ∀ since, resultsOf u since log = resultsOf u since s.2) :
    SinceReset config start (s.1.act worker now done, log) where
  pending := by
    intro u c hc
    change c ∈ Function.update s.1.pending worker done.2 u at hc
    by_cases hu : u = worker
    · rw [hu, Function.update_self] at hc
      rw [hsaves c hc]
      exact hgood
    · rw [Function.update_of_ne hu, hidle u] at hc
      cases hc
  redis := by
    intro hpending p hp
    have hnothing := hpending worker
    change Function.update s.1.pending worker done.2 worker = [] at hnothing
    rw [Function.update_self] at hnothing
    exact hredis hnothing p hp
  recalls := by
    intro u since hsince
    change now - config.failureWindowSeconds ≤ since at hsince
    show recentSince (Function.update s.1.breakers worker done.1 u) since = _
    by_cases hu : u = worker
    · rw [hu, Function.update_self]
      exact hself since hsince
    · rw [Function.update_of_ne hu, hother u hu]
      exact h.recalls u since (by linarith)

theorem SinceReset.counted (h : SinceReset config start s) (worker : W) {now since : ℚ} (hlater : s.1.now ≤ now) (success : Bool)
    (hsince : now - config.failureWindowSeconds ≤ since) :
    recentSince ((s.1.breakers worker).counted now success) since =
      recentSince (start.breakers worker) since ++ remembered (resultsOf worker since (⟨worker, now, success⟩ :: s.2)) := by
  rw [recentSince_counted, h.recalls worker since (by linarith), remembered_cons_self, List.append_assoc]

/-- Step: what has not opened too early does not. -/
theorem SinceReset.step (h : SinceReset config start s) {e : WorkerEvent W} {admitted : Bool} (hok : Alone config start s e)
    (hstep : (afterMachine config start).step s e = some (s', admitted)) : SinceReset config start s' := by
  obtain ⟨⟨t, admitted'⟩, ht, heq⟩ := Option.map_eq_some_iff.mp hstep
  cases heq
  cases stepped_of_step ht with
  | @check worker now hlater =>
    obtain ⟨hidle, hsome⟩ := hok
    obtain ⟨c, hc⟩ := Option.isSome_iff_exists.mp hsome
    have hgood : Good config s.2 ((s.1.breakers worker).load (s.1.stored now)).toCircuit := by
      rw [hc]
      exact h.stored hidle hc
    refine h.act hidle hlater savesItself_check (good_check hgood) (fun _ => h.redis hidle) (fun since hsince => ?_)
      (fun u _ since => rfl)
    rw [recentSince_check, hc]
    exact h.recalls worker since (by linarith)
  | @success worker now hlater =>
    obtain ⟨hidle, hcopy⟩ := hok
    refine h.act hidle hlater savesItself_recordSuccess (good_success (h.stored hidle hcopy))
      (fun hnone => absurd hnone (saved_ne_nil _)) (fun since hsince => ?_) (fun u hu since => resultsOf_cons_of_ne hu)
    rw [recentSince_recordSuccess]
    exact h.counted worker hlater true hsince
  | @failure worker now hlater =>
    obtain ⟨hidle, hcopy, hold⟩ := hok
    have hbefore : recentSince (start.breakers worker) (now - config.failureWindowSeconds) = [] :=
      List.filter_eq_nil_iff.mpr fun r hr => by simpa using hold r hr
    have hrecent := h.counted worker hlater false (le_refl (now - config.failureWindowSeconds))
    rw [hbefore, List.nil_append] at hrecent
    refine h.act hidle hlater savesItself_recordFailure (good_failure (h.stored hidle hcopy) hrecent)
      (fun hnone => absurd hnone (saved_ne_nil _)) (fun since hsince => ?_) (fun u hu since => resultsOf_cons_of_ne hu)
    rw [recentSince_recordFailure hsince]
    exact h.counted worker hlater false hsince
  | @save worker now circuit rest hlater hpending =>
    refine ⟨fun u c hc => ?_, fun _ p hp => ?_, fun u since hsince => ?_⟩
    · change c ∈ Function.update s.1.pending worker rest u at hc
      by_cases hu : u = worker
      · rw [hu, Function.update_self] at hc
        exact h.pending worker c (by rw [hpending]; exact List.mem_cons_of_mem _ hc)
      · rw [Function.update_of_ne hu] at hc
        exact h.pending u c hc
    · cases hp
      exact h.pending worker circuit (by rw [hpending]; exact List.mem_cons_self)
    · change now - _ ≤ since at hsince
      exact h.recalls u since (by linarith)

theorem sinceReset_of_reach (hstart : SinceReset config start (start, [])) (h : (afterMachine config start).Reach (Alone config start) s) :
    SinceReset config start s :=
  Machine.reach_invariant hstart (fun _ _ _ _ hs hok hstep => hs.step hok hstep) h

end Runs

/-! ## The reset -/

section Reset

variable {W : Type} [DecidableEq W] {config : CircuitBreakerConfig} {s : Workers W} {worker : W} {now : ℚ}

theorem resetBy_of_ne (now : ℚ) (h : (s.breakers worker).state ≠ .closed) :
    ∃ b : CircuitBreaker, b.toCircuit = { openedAt := (s.breakers worker).openedAt } ∧ b.recentRequests = [] ∧
      s.resetBy worker now =
        { s with
          breakers := Function.update s.breakers worker b
          pending := Function.update s.pending worker []
          redis := some (b.toCircuit, now + ttl)
          now := now } := by
  refine ⟨((s.breakers worker).reset now).1, ?_, rfl, ?_⟩
  · unfold CircuitBreaker.reset
    rw [transitionTo_of_ne h]
    rfl
  · unfold Workers.resetBy CircuitBreaker.reset
    rw [transitionTo_of_ne h]
    show Workers.mk _ _ _ _ _ = Workers.mk _ _ _ _ _
    congr 1
    exact Function.update_idem ..

theorem resetBy_of_closed (now : ℚ) (h : (s.breakers worker).state = .closed) :
    ∃ b : CircuitBreaker, b.state = .closed ∧
      s.resetBy worker now =
        { s with
          breakers := Function.update s.breakers worker b
          pending := Function.update s.pending worker []
          now := now } := by
  refine ⟨((s.breakers worker).reset now).1, ?_, ?_⟩
  · unfold CircuitBreaker.reset
    rw [transitionTo_self h]
    exact h
  · unfold Workers.resetBy CircuitBreaker.reset
    rw [transitionTo_self h]
    rfl

theorem admitted_of_closed {b : CircuitBreaker} (h : b.state = .closed) : (b.checkShouldAttempt config now).1 = true := by
  rw [CircuitBreaker.checkShouldAttempt, h]

theorem opened_of_refused {b : CircuitBreaker} (h : (b.checkShouldAttempt config now).1 = false) : b.state = .opened := by
  cases hstate : b.state with
  | opened => rfl
  | closed =>
    rw [CircuitBreaker.checkShouldAttempt, hstate] at h
    cases h
  | halfOpen =>
    rw [CircuitBreaker.checkShouldAttempt, hstate] at h
    cases h

theorem check_congr {b b' : CircuitBreaker} (h : b.toCircuit = b'.toCircuit) :
    (b.checkShouldAttempt config now).1 = (b'.checkShouldAttempt config now).1 := by
  unfold CircuitBreaker.checkShouldAttempt
  rw [h]
  cases b'.state with
  | closed => rfl
  | halfOpen => rfl
  | opened =>
    dsimp only
    split
    · rfl
    · rfl

theorem admitsNext_of_ne (h : (s.breakers worker).state ≠ .closed) : AdmitsNext config (s.resetBy worker now) now := by
  intro u later _ hlater _
  obtain ⟨b, hb, -, hreset⟩ := resetBy_of_ne now h
  have hstored : (s.resetBy worker now).stored later = some b.toCircuit := by
    rw [hreset]
    unfold Workers.stored
    rw [Option.filter_some, if_pos (decide_eq_true hlater)]
    rfl
  rw [hstored]
  refine admitted_of_closed ?_
  show b.state = .closed
  rw [hb]

theorem admitsNext_of_closed (h : (s.breakers worker).state = .closed) (hfree : s.pending worker = []) :
    AdmitsNext config (s.resetBy worker now) now ↔ AdmitsNext config s now := by
  obtain ⟨b, hb, hreset⟩ := resetBy_of_closed now h
  rw [hreset]
  unfold AdmitsNext
  refine forall_congr' fun u => forall_congr' fun later => imp_congr_right fun _ => imp_congr_right fun _ => ?_
  show (Function.update s.pending worker [] u = [] →
    (((Function.update s.breakers worker b u).load (s.stored later)).checkShouldAttempt config later).1 = true) ↔ _
  by_cases hu : u = worker
  · subst hu
    rw [Function.update_self, Function.update_self]
    refine imp_congr (by simp [hfree]) ?_
    cases s.stored later with
    | none => exact iff_of_true (admitted_of_closed hb) (admitted_of_closed h)
    | some c => exact Eq.congr_left (check_congr rfl)
  · rw [Function.update_of_ne hu, Function.update_of_ne hu]

theorem sinceReset_start (h : (s.breakers worker).state ≠ .closed) (hidle : ∀ u, s.pending u = []) :
    SinceReset config (s.resetBy worker now) (s.resetBy worker now, []) := by
  obtain ⟨b, hb, -, hreset⟩ := resetBy_of_ne now h
  rw [hreset]
  refine ⟨fun u c hc => ?_, fun _ p hp => ?_, fun u since _ => (List.append_nil _).symm⟩
  · change c ∈ Function.update s.pending worker [] u at hc
    by_cases hu : u = worker
    · rw [hu, Function.update_self] at hc
      cases hc
    · rw [Function.update_of_ne hu, hidle u] at hc
      cases hc
  · cases hp
    show Good config [] b.toCircuit
    rw [hb]
    exact ⟨Nat.zero_le _, fun hne => absurd rfl hne⟩

theorem SinceReset.takesEffect {start : Workers W} {t : Workers W × List (Result W)} (h : SinceReset config start t) :
    TakesEffect config start t where
  admitted := by
    rintro u later s' ⟨hidle, hsome⟩ hrefused
    obtain ⟨c, hc⟩ := Option.isSome_iff_exists.mp hsome
    have hstepped : Stepped config t.1 (.check u later) false s' := stepped_of_step hrefused
    generalize hfalse : false = admitted at hstepped
    cases hstepped with
    | check hlater =>
      rw [hc] at hfalse
      have hopened : c.state = .opened := opened_of_refused hfalse.symm
      exact (h.stored hidle hc).2 (by rw [hopened]; decide)
  opened := fun u c hc hopened => (h.pending u c hc).2 (by rw [hopened]; decide)

/-- **When a reset takes effect.** The next check is admitted if and only if the copy that was reset was not closed, or the check would
    have been admitted without a reset. And if it was not closed, then no check is refused, and nothing opens the circuit, before that
    is deserved again: as long as the calls come one after the other. -/
theorem reset_takes_effect (config : CircuitBreakerConfig) (s : Workers W) (worker : W) (now : ℚ) (hfree : s.pending worker = []) :
    (AdmitsNext config (s.resetBy worker now) now ↔ (s.breakers worker).state ≠ .closed ∨ AdmitsNext config s now) ∧
      ((s.breakers worker).state ≠ .closed → (∀ u, s.pending u = []) →
        ∀ t, (afterMachine config (s.resetBy worker now)).Reach (Alone config (s.resetBy worker now)) t →
          TakesEffect config (s.resetBy worker now) t) := by
  constructor
  · by_cases hclosed : (s.breakers worker).state = .closed
    · rw [admitsNext_of_closed hclosed hfree]
      simp [hclosed]
    · exact iff_of_true (admitsNext_of_ne hclosed) (.inl hclosed)
  · intro hne hidle t ht
    exact (sinceReset_of_reach (sinceReset_start hne hidle) ht).takesEffect

end Reset

/-! ## Two workers -/

def openedElsewhere : List (WorkerEvent Bool) := [.failure true 1, .save true 1, .save true 1]

/-- A reset on the worker that has opened it. -/
theorem reset_takes_effect_seen :
    ∃ s : Workers Bool, (s.breakers true).state ≠ .closed ∧ (∀ u, s.pending u = []) ∧
      (AdmitsNext oneFailure (s.resetBy true 2) 2 ↔ (s.breakers true).state ≠ .closed ∨ AdmitsNext oneFailure s 2) ∧
        ((s.breakers true).state ≠ .closed → (∀ u, s.pending u = []) →
          ∀ t, (afterMachine oneFailure (s.resetBy true 2)).Reach (Alone oneFailure (s.resetBy true 2)) t →
            TakesEffect oneFailure (s.resetBy true 2) t) := by
  have hrun : ((workersMachine Bool oneFailure).run {} openedElsewhere).any (fun p =>
      decide ((p.1.breakers true).state ≠ .closed ∧ ∀ u, p.1.pending u = [])) = true := by
    decide +kernel
  obtain ⟨⟨s, os⟩, -, hstate⟩ := (Option.any_eq_true _ _).mp hrun
  obtain ⟨hopened, hidle⟩ := of_decide_eq_true hstate
  exact ⟨s, hopened, hidle, reset_takes_effect oneFailure s true 2 (hidle true)⟩

def fourFailures : List (WorkerEvent Unit) :=
  [.failure () 1, .save () 1, .failure () 2, .save () 2, .failure () 3, .save () 3, .failure () 4, .save () 4]

def checkAndFail : List (WorkerEvent Unit) := [.check () 6, .failure () 6]

theorem not_openedAgain_once : ¬ OpenedAgain {} [(⟨(), 6, false⟩ : Result Unit)] := by
  rintro ⟨past, hpast, hdeserved⟩
  rcases List.suffix_cons_iff.mp hpast with rfl | hnil
  · obtain ⟨-, hmany | ⟨hmany, -⟩⟩ := hdeserved
    · exact absurd hmany (by decide +kernel)
    · exact absurd hmany (by decide +kernel)
  · rw [List.suffix_nil.mp hnil] at hdeserved
    exact hdeserved

/-- **A reset that is not seen.** The other worker's copy is closed: after a reset of it, the next check is refused as before. And a copy
    that is closed is not saved even if it is the one in Redis: after four failures, and a reset, the next failure opens the circuit. -/
theorem reset_unseen :
    (∃ s : Workers Bool, (workersMachine Bool oneFailure).Reach (fun _ _ => True) s ∧ (∀ u, s.pending u = []) ∧
      ¬ AdmitsNext oneFailure (s.resetBy false 2) 2) ∧
    ∃ s : Workers Unit, (workersMachine Unit {}).Reach (fun _ _ => True) s ∧ (∀ u, s.pending u = []) ∧
      ∃ t, (afterMachine {} (s.resetBy () 5)).Reach (Alone {} (s.resetBy () 5)) t ∧ ¬ TakesEffect {} (s.resetBy () 5) t := by
  constructor
  · have hrun : ((workersMachine Bool oneFailure).run {} openedElsewhere).any (fun p =>
        decide ((∀ u, p.1.pending u = []) ∧
          ((((p.1.resetBy false 2).breakers true).load ((p.1.resetBy false 2).stored 3)).checkShouldAttempt oneFailure 3).1 = false ∧
            (p.1.resetBy false 2).pending true = [])) = true := by
      decide +kernel
    obtain ⟨⟨s, os⟩, hs, hstate⟩ := (Option.any_eq_true _ _).mp hrun
    obtain ⟨hidle, hrefused, hfree⟩ := of_decide_eq_true hstate
    refine ⟨s, Machine.reach_of_run .init _ _ (by decide +kernel) hs, hidle, fun hadmits => ?_⟩
    have hadmitted := hadmits true 3 (by norm_num) (by norm_num [ttl]) hfree
    rw [hrefused] at hadmitted
    cases hadmitted
  · have hrun : ((workersMachine Unit {}).run {} fourFailures).any (fun p =>
        decide (∀ u, p.1.pending u = []) &&
          decide ((afterMachine {} (p.1.resetBy () 5)).Within (Alone {} (p.1.resetBy () 5)) (p.1.resetBy () 5, []) checkAndFail) &&
          ((afterMachine {} (p.1.resetBy () 5)).run (p.1.resetBy () 5, []) checkAndFail).any fun t =>
            decide ((∃ c ∈ t.1.1.pending (), c.state = .opened) ∧ t.1.2 = [⟨(), 6, false⟩])) = true := by
      decide +kernel
    obtain ⟨⟨s, os⟩, hs, hstate⟩ := (Option.any_eq_true _ _).mp hrun
    obtain ⟨hbefore, hafter⟩ := Bool.and_eq_true_iff.mp hstate
    obtain ⟨hidle, halone⟩ := Bool.and_eq_true_iff.mp hbefore
    obtain ⟨⟨t, os'⟩, ht, hopened⟩ := (Option.any_eq_true _ _).mp hafter
    obtain ⟨⟨c, hc, hstate⟩, hlog⟩ := of_decide_eq_true hopened
    refine ⟨s, Machine.reach_of_run .init _ _ (by decide +kernel) hs, of_decide_eq_true hidle, t,
      Machine.reach_of_run .init _ _ (of_decide_eq_true halone) ht, fun htakes => ?_⟩
    have hagain := htakes.opened () c hc hstate
    rw [hlog] at hagain
    exact not_openedAgain_once hagain

end Gatewayz.Breaker
