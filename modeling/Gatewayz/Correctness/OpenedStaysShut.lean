import Gatewayz.Health.CircuitBreaker

/-!
# `Correctness.OpenedStaysShut` — an open circuit, and late completions

Once a circuit was saved open, Redis has to hold an open one until the timeout is over (`Shut`): every check loads it, and refuses.
What can take it away is a save, of a copy that was made before. If no save does (`Fresh`), no call is admitted too early. A call
that was admitted on another worker, and is done late, saves such a copy.
-/

namespace Gatewayz.Breaker

open Exec

variable {W : Type} {config : CircuitBreakerConfig} {s s' : Workers W}

/-! ## What never lies in the future -/

section Past

variable {b : CircuitBreaker} {now : ℚ}

def Past (now : ℚ) (c : Circuit) : Prop := c.openedAt ≤ now

def DonePast (now : ℚ) (done : CircuitBreaker × List Circuit) : Prop := Past now done.1.toCircuit ∧ ∀ c ∈ done.2, Past now c

theorem Past.later {later : ℚ} {c : Circuit} (h : Past now c) (hlater : now ≤ later) : Past later c := le_trans h hlater

theorem donePast_transitionTo (h : Past now b.toCircuit) (new : CircuitState) : DonePast now (b.transitionTo now new) := by
  have hentered : Past now (b.entered now new).toCircuit := by
    cases new with
    | opened => exact le_refl _
    | closed => exact h
    | halfOpen => exact h
  unfold CircuitBreaker.transitionTo
  split
  · exact ⟨h, nofun⟩
  · refine ⟨hentered, fun c hc => ?_⟩
    rw [List.mem_singleton.mp hc]
    exact hentered

theorem DonePast.saved {done : CircuitBreaker × List Circuit} (h : DonePast now done) : DonePast now (CircuitBreaker.saved done) := by
  refine ⟨h.1, fun c hc => ?_⟩
  rcases List.mem_append.mp hc with hbefore | hlast
  · exact h.2 c hbefore
  · rw [List.mem_singleton.mp hlast]
    exact h.1

theorem donePast_checkShouldAttempt (h : Past now b.toCircuit) : DonePast now (b.checkShouldAttempt config now).2 := by
  unfold CircuitBreaker.checkShouldAttempt
  split
  · exact ⟨h, nofun⟩
  · exact ⟨h, nofun⟩
  · split
    · exact donePast_transitionTo h .halfOpen
    · exact ⟨h, nofun⟩

theorem donePast_recordSuccess (h : Past now b.toCircuit) : DonePast now (b.recordSuccess config now) := by
  unfold CircuitBreaker.recordSuccess
  refine DonePast.saved ?_
  split
  · refine donePast_transitionTo ?_ .closed
    exact h
  · exact ⟨h, nofun⟩

theorem donePast_recordFailure (h : Past now b.toCircuit) : DonePast now (b.recordFailure config now) := by
  unfold CircuitBreaker.recordFailure
  refine DonePast.saved ?_
  dsimp only
  split
  · split
    · refine donePast_transitionTo ?_ .opened
      exact h
    · exact ⟨h, nofun⟩
  · split
    · refine donePast_transitionTo ?_ .opened
      exact h
    · split
      · refine donePast_transitionTo ?_ .opened
        exact h
      · exact ⟨h, nofun⟩
  · exact ⟨h, nofun⟩

end Past

/-! ## The invariant -/

/-- The circuit is shut until the timeout is over: what was saved open is still in Redis, or what was opened later. -/
structure Shut (config : CircuitBreakerConfig) (s : Workers W) : Prop where
  breakers : ∀ w, Past s.now (s.breakers w).toCircuit
  pending : ∀ w, ∀ c ∈ s.pending w, Past s.now c
  redis : ∀ c e, s.redis = some (c, e) → Past s.now c
  opens : ∀ t ∈ s.opens, t ≤ s.now
  shut : ∀ t ∈ s.opens, s.now < t + config.timeoutSeconds →
    ∃ c e, s.redis = some (c, e) ∧ c.state = .opened ∧ t ≤ c.openedAt ∧ t + config.timeoutSeconds ≤ e

/-- No save takes away an open circuit whose timeout is not over: a copy that is saved then is open too, and was opened no
    earlier. -/
def Fresh (config : CircuitBreakerConfig) (s : Workers W) : WorkerEvent W → Prop
  | .save worker now =>
    match s.pending worker, s.stored now with
    | circuit :: _, some held =>
      held.state = .opened → now < held.openedAt + config.timeoutSeconds →
        circuit.state = .opened ∧ held.openedAt ≤ circuit.openedAt
    | _, _ => True
  | _ => True

theorem Shut.stored (h : Shut config s) {now : ℚ} (hlater : s.now ≤ now) {t : ℚ} (ht : t ∈ s.opens)
    (hnow : now < t + config.timeoutSeconds) : ∃ c, s.stored now = some c ∧ c.state = .opened ∧ t ≤ c.openedAt := by
  obtain ⟨c, e, hredis, hopened, hle, hexpiry⟩ := h.shut t ht (lt_of_le_of_lt hlater hnow)
  have hlive : now < e := lt_of_lt_of_le hnow hexpiry
  refine ⟨c, ?_, hopened, hle⟩
  rw [Workers.stored, hredis, Option.filter_some, if_pos (decide_eq_true hlive)]
  rfl

theorem Shut.load (h : Shut config s) {worker : W} {now : ℚ} (hlater : s.now ≤ now) :
    Past now ((s.breakers worker).load (s.stored now)).toCircuit := by
  unfold CircuitBreaker.load
  cases hstored : s.stored now with
  | none => exact (h.breakers worker).later hlater
  | some c =>
    unfold Workers.stored at hstored
    obtain ⟨⟨c', e⟩, hfilter, rfl⟩ := Option.map_eq_some_iff.mp hstored
    exact (h.redis c' e (Option.eq_some_of_filter_eq_some hfilter)).later hlater

variable [DecidableEq W]

instance decidableFresh (e : WorkerEvent W) : Decidable (Fresh config s e) :=
  match e with
  | .check _ _ | .success _ _ | .failure _ _ => .isTrue trivial
  | .save worker now =>
    match hpending : s.pending worker, hstored : s.stored now with
    | [], _ => .isTrue (by simp only [Fresh, hpending])
    | _ :: _, none => .isTrue (by simp only [Fresh, hpending, hstored])
    | circuit :: _, some held =>
      decidable_of_iff
        (held.state = .opened → now < held.openedAt + config.timeoutSeconds →
          circuit.state = .opened ∧ held.openedAt ≤ circuit.openedAt)
        (by simp only [Fresh, hpending, hstored])

theorem shut_init : Shut config (workersMachine W config).init where
  breakers := fun _ => le_refl _
  pending := fun _ => nofun
  redis := nofun
  opens := nofun
  shut := nofun

theorem Shut.act (h : Shut config s) {worker : W} {now : ℚ} (hlater : s.now ≤ now) {done : CircuitBreaker × List Circuit}
    (hdone : DonePast now done) : Shut config (s.act worker now done) where
  breakers := by
    intro w
    show Past now (Function.update s.breakers worker done.1 w).toCircuit
    by_cases hw : w = worker
    · rw [hw, Function.update_self]
      exact hdone.1
    · rw [Function.update_of_ne hw]
      exact (h.breakers w).later hlater
  pending := by
    intro w c hc
    change c ∈ Function.update s.pending worker done.2 w at hc
    by_cases hw : w = worker
    · rw [hw, Function.update_self] at hc
      exact hdone.2 c hc
    · rw [Function.update_of_ne hw] at hc
      exact (h.pending w c hc).later hlater
  redis := fun c e hredis => (h.redis c e hredis).later hlater
  opens := fun t ht => le_trans (h.opens t ht) hlater
  shut := fun t ht hnow => h.shut t ht (lt_of_le_of_lt hlater hnow)

theorem Shut.put (hkept : config.timeoutSeconds ≤ 3600) (h : Shut config s) {worker : W} {now : ℚ} {circuit : Circuit}
    {rest : List Circuit} (hlater : s.now ≤ now) (hpending : s.pending worker = circuit :: rest)
    (hfresh : Fresh config s (.save worker now)) : Shut config (s.put worker now circuit rest) := by
  have hpast : Past now circuit := (h.pending worker circuit (by rw [hpending]; exact List.mem_cons_self)).later hlater
  have htimeout : (config.timeoutSeconds : ℚ) ≤ ttl := by
    rw [ttl]
    exact_mod_cast hkept
  have hopens : ∀ t ∈ (s.put worker now circuit rest).opens, t ∈ s.opens ∨ circuit.state = .opened ∧ t = circuit.openedAt := by
    intro t ht
    change t ∈ (if circuit.state = .opened then circuit.openedAt :: s.opens else s.opens) at ht
    split at ht
    · next hopened =>
      rcases List.mem_cons.mp ht with hnew | hold
      · exact .inr ⟨hopened, hnew⟩
      · exact .inl hold
    · exact .inl ht
  refine ⟨fun w => (h.breakers w).later hlater, ?_, ?_, ?_, ?_⟩
  · intro w c hc
    change c ∈ Function.update s.pending worker rest w at hc
    by_cases hw : w = worker
    · rw [hw, Function.update_self] at hc
      exact (h.pending worker c (by rw [hpending]; exact List.mem_cons_of_mem _ hc)).later hlater
    · rw [Function.update_of_ne hw] at hc
      exact (h.pending w c hc).later hlater
  · intro c e hredis
    cases hredis
    exact hpast
  · intro t ht
    rcases hopens t ht with hold | ⟨-, rfl⟩
    · exact le_trans (h.opens t hold) hlater
    · exact hpast
  · intro t ht hnow
    change now < _ at hnow
    rcases hopens t ht with hold | ⟨hopened, rfl⟩
    · obtain ⟨held, hstored, hheld, hle⟩ := h.stored hlater hold hnow
      have hsave : held.state = .opened → now < held.openedAt + config.timeoutSeconds →
          circuit.state = .opened ∧ held.openedAt ≤ circuit.openedAt := by
        simpa only [Fresh, hpending, hstored] using hfresh
      obtain ⟨hopened, hnewer⟩ := hsave hheld (by linarith)
      have hnot := h.opens t hold
      exact ⟨circuit, now + ttl, rfl, hopened, le_trans hle hnewer, by linarith⟩
    · change circuit.openedAt ≤ now at hpast
      exact ⟨circuit, now + ttl, rfl, hopened, le_refl _, by linarith⟩

/-! ## Steps -/

/-- What a step does: a breaker is changed, or a circuit is saved. -/
inductive Stepped (config : CircuitBreakerConfig) (s : Workers W) : WorkerEvent W → Bool → Workers W → Prop where
  | check {worker : W} {now : ℚ} : s.now ≤ now →
      Stepped config s (.check worker now) (((s.breakers worker).load (s.stored now)).checkShouldAttempt config now).1
        (s.act worker now (((s.breakers worker).load (s.stored now)).checkShouldAttempt config now).2)
  | success {worker : W} {now : ℚ} : s.now ≤ now →
      Stepped config s (.success worker now) false (s.act worker now ((s.breakers worker).recordSuccess config now))
  | failure {worker : W} {now : ℚ} : s.now ≤ now →
      Stepped config s (.failure worker now) false (s.act worker now ((s.breakers worker).recordFailure config now))
  | save {worker : W} {now : ℚ} {circuit : Circuit} {rest : List Circuit} : s.now ≤ now → s.pending worker = circuit :: rest →
      Stepped config s (.save worker now) false (s.put worker now circuit rest)

theorem stepped_of_step {e : WorkerEvent W} {admitted : Bool} (h : (workersMachine W config).step s e = some (s', admitted)) :
    Stepped config s e admitted s' := by
  change s.step config e = some (s', admitted) at h
  cases e with
  | check worker now =>
    by_cases hfree : s.now ≤ now ∧ s.pending worker = []
    · rw [Workers.step, if_pos hfree] at h
      cases h
      exact .check hfree.1
    · rw [Workers.step, if_neg hfree] at h
      cases h
  | success worker now =>
    by_cases hfree : s.now ≤ now ∧ s.pending worker = []
    · rw [Workers.step, if_pos hfree] at h
      cases h
      exact .success hfree.1
    · rw [Workers.step, if_neg hfree] at h
      cases h
  | failure worker now =>
    by_cases hfree : s.now ≤ now ∧ s.pending worker = []
    · rw [Workers.step, if_pos hfree] at h
      cases h
      exact .failure hfree.1
    · rw [Workers.step, if_neg hfree] at h
      cases h
  | save worker now =>
    cases hpending : s.pending worker with
    | nil =>
      rw [Workers.step, hpending] at h
      cases h
    | cons circuit rest =>
      rw [Workers.step, hpending] at h
      dsimp only at h
      split at h
      · next hlater =>
        cases h
        exact .save hlater hpending
      · cases h

theorem Shut.step (hkept : config.timeoutSeconds ≤ 3600) (h : Shut config s) {e : WorkerEvent W} {admitted : Bool}
    (hfresh : Fresh config s e) (hstep : Stepped config s e admitted s') : Shut config s' := by
  cases hstep with
  | check hlater => exact h.act hlater (donePast_checkShouldAttempt (h.load hlater))
  | @success worker now hlater => exact h.act hlater (donePast_recordSuccess ((h.breakers worker).later hlater))
  | @failure worker now hlater => exact h.act hlater (donePast_recordFailure ((h.breakers worker).later hlater))
  | save hlater hpending => exact h.put hkept hlater hpending hfresh

theorem shut_of_reach (hkept : config.timeoutSeconds ≤ 3600) (h : (workersMachine W config).Reach (Fresh config) s) :
    Shut config s :=
  Machine.reach_invariant shut_init (fun _ _ _ _ hs hfresh hstep => hs.step hkept hfresh (stepped_of_step hstep)) h

/-! ## Admission -/

theorem not_admitted_of_opened {b : CircuitBreaker} {now : ℚ} (hopened : b.state = .opened)
    (hnow : now < b.openedAt + config.timeoutSeconds) : (b.checkShouldAttempt config now).1 = false := by
  unfold CircuitBreaker.checkShouldAttempt
  rw [hopened]
  dsimp only
  rw [if_neg (by linarith)]

/-- **An open circuit stays shut** for its timeout, on every worker: if no save takes it away, and Redis keeps it for so long. -/
theorem opened_stays_shut (hkept : config.timeoutSeconds ≤ 3600) (hs : (workersMachine W config).Reach (Fresh config) s) {worker : W}
    {now : ℚ} (hadmitted : (workersMachine W config).step s (.check worker now) = some (s', true)) :
    ∀ t ∈ s.opens, t + config.timeoutSeconds ≤ now := by
  intro t ht
  by_contra hearly
  have hnow : now < t + config.timeoutSeconds := not_le.mp hearly
  generalize htrue : true = admitted at hadmitted
  cases stepped_of_step hadmitted with
  | check hlater =>
    obtain ⟨c, hstored, hopened, hle⟩ := (shut_of_reach hkept hs).stored hlater ht hnow
    rw [hstored, not_admitted_of_opened (b := (s.breakers worker).load (some c)) hopened] at htrue
    · cases htrue
    · show now < c.openedAt + _
      linarith

def oneFailure : CircuitBreakerConfig := { failureThreshold := 1 }

/-- When the time is over, a call is admitted. -/
theorem opened_stays_shut_until :
    ∃ s s' : Workers Bool, s.opens = [1, 1] ∧
      (workersMachine Bool oneFailure).step s (.check false 61) = some (s', true) ∧
      ∀ t ∈ s.opens, t + oneFailure.timeoutSeconds ≤ (61 : ℚ) := by
  have hrun : ((workersMachine Bool oneFailure).run {} [.check true 0, .failure true 1, .save true 1, .save true 2]).any (fun p =>
      decide (p.1.opens = [1, 1]) && (p.1.step oneFailure (.check false 61)).any Prod.snd) = true := by
    decide +kernel
  obtain ⟨⟨s, os⟩, hs, hstate⟩ := (Option.any_eq_true _ _).mp hrun
  obtain ⟨hopens, hcheck⟩ := Bool.and_eq_true_iff.mp hstate
  obtain ⟨⟨s', admitted⟩, hstep, htrue⟩ := (Option.any_eq_true _ _).mp hcheck
  obtain rfl : admitted = true := htrue
  have hreach : (workersMachine Bool oneFailure).Reach (Fresh oneFailure) s :=
    Machine.reach_of_run .init _ _ (by decide +kernel) hs
  exact ⟨s, s', of_decide_eq_true hopens, hstep, opened_stays_shut (by decide) hreach hstep⟩

/-- **A late success takes it away**: of a call that another worker had admitted before. -/
theorem late_success_reopens :
    ∃ s s' : Workers Bool, (workersMachine Bool oneFailure).Reach (fun _ _ => True) s ∧
      (workersMachine Bool oneFailure).step s (.check true 3) = some (s', true) ∧
      ¬ ∀ t ∈ s.opens, t + oneFailure.timeoutSeconds ≤ (3 : ℚ) := by
  have hrun : ((workersMachine Bool oneFailure).run {}
      [.check false 0, .check true 0, .failure true 1, .save true 1, .save true 1, .success false 2, .save false 2]).any (fun p =>
      decide (p.1.opens = [1, 1]) && (p.1.step oneFailure (.check true 3)).any Prod.snd) = true := by
    decide +kernel
  obtain ⟨⟨s, os⟩, hs, hstate⟩ := (Option.any_eq_true _ _).mp hrun
  obtain ⟨hopens, hcheck⟩ := Bool.and_eq_true_iff.mp hstate
  obtain ⟨⟨s', admitted⟩, hstep, htrue⟩ := (Option.any_eq_true _ _).mp hcheck
  obtain rfl : admitted = true := htrue
  have hreach : (workersMachine Bool oneFailure).Reach (fun _ _ => True) s :=
    Machine.reach_of_run .init _ _ (by decide +kernel) hs
  refine ⟨s, s', hreach, hstep, fun hlate => ?_⟩
  have hearly := hlate 1 (by rw [of_decide_eq_true hopens]; exact List.mem_cons_self)
  exact absurd hearly (by decide +kernel)

end Gatewayz.Breaker
