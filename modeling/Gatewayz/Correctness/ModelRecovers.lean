import Gatewayz.Health.ModelAvailability
import Mathlib.Data.List.Induction

/-!
# `Correctness.ModelRecovers` — whether a model that recovers is available again

The monitoring loop records results and never asks `can_execute`. So an open circuit stays open (`opened_record`), whatever the results
are; and a circuit that is not open lets the first healthy result through. While results fail, the model is not available.
-/

namespace Gatewayz.Availability

open Exec

/-! ## The breaker -/

section Breaker

variable {b : CircuitBreaker} {r : ModelHealth} {now : ℚ}

def HealthyFast (b : CircuitBreaker) (r : ModelHealth) : Prop := r.status = .healthy ∧ b.isSlow r.responseTimeSeconds = false

theorem recordSuccess_state (h : b.state ≠ .halfOpen) (responseTime : Option ℚ) :
    (b.recordSuccess responseTime now).state =
      if b.isSlow responseTime && b.slowResponseLimit ≤ b.slowResponses responseTime then .opened else b.state := by
  unfold CircuitBreaker.recordSuccess
  dsimp only
  rw [if_neg h]
  by_cases hslow : (b.isSlow responseTime && b.slowResponseLimit ≤ b.slowResponses responseTime) = true
  · rw [if_pos hslow, if_pos hslow]
  · rw [if_neg hslow, if_neg hslow]
    split <;> rfl

theorem recordFailure_state (h : b.state ≠ .halfOpen) :
    (b.recordFailure now).state = if b.failureThreshold ≤ b.failureCount + 1 then .opened else b.state := by
  unfold CircuitBreaker.recordFailure
  dsimp only
  by_cases hmany : b.failureThreshold ≤ b.failureCount + 1
  · rw [if_pos hmany, if_pos hmany]
  · rw [if_neg hmany, if_neg hmany, if_neg h]

/-- A result opens the circuit, or leaves it as it is, but for one that is half open. -/
theorem record_state (h : b.state ≠ .halfOpen) (r : ModelHealth) (now : ℚ) :
    (b.record r now).state = .opened ∨ (b.record r now).state = b.state := by
  unfold CircuitBreaker.record
  split
  · rw [recordSuccess_state h]
    split
    · exact .inl rfl
    · exact .inr rfl
  · rw [recordFailure_state h]
    split
    · exact .inl rfl
    · exact .inr rfl

theorem record_ne_halfOpen (h : b.state ≠ .halfOpen) (r : ModelHealth) (now : ℚ) : (b.record r now).state ≠ .halfOpen := by
  rcases record_state h r now with hopened | hsame
  · rw [hopened]
    nofun
  · rw [hsame]
    exact h

theorem record_of_healthyFast (h : b.state ≠ .halfOpen) (hr : HealthyFast b r) : (b.record r now).state = b.state := by
  obtain ⟨hhealthy, hfast⟩ := hr
  unfold CircuitBreaker.record
  rw [if_pos (by rw [hhealthy]; rfl), recordSuccess_state h, hfast, if_neg (by nofun)]

theorem isSlow_record (b : CircuitBreaker) (r : ModelHealth) (now : ℚ) : (b.record r now).isSlow = b.isSlow := by
  unfold CircuitBreaker.record CircuitBreaker.recordSuccess CircuitBreaker.recordFailure
  dsimp only
  split
  · split
    · split <;> rfl
    · split
      · rfl
      · split <;> rfl
  · split
    · rfl
    · split <;> rfl

end Breaker

/-! ## The service -/

section Service

variable {config : AvailabilityConfig} {fallbacks : String → List String} {modelId gateway : String}
  {results more : List (ModelHealth × ℚ)}

def newService (config : AvailabilityConfig) (fallbacks : String → List String) : ModelAvailabilityService :=
  { config := config, fallbackMappings := fallbacks }

def breakerAfter (config : AvailabilityConfig) (results : List (ModelHealth × ℚ)) : CircuitBreaker :=
  results.foldl (fun b r => b.record r.1 r.2) (newService config fun _ => []).newBreaker

theorem breakerAfter_append :
    breakerAfter config (results ++ more) = more.foldl (fun b r => b.record r.1 r.2) (breakerAfter config results) :=
  List.foldl_append

def Of (modelId gateway : String) (results : List (ModelHealth × ℚ)) : Prop :=
  ∀ r ∈ results, r.1.modelId = modelId ∧ r.1.gateway = gateway

/-- The service has the breaker of the model, and the record of the last result. -/
structure Holds (config : AvailabilityConfig) (modelId gateway : String) (results : List (ModelHealth × ℚ))
    (s : ModelAvailabilityService) : Prop where
  configured : s.config = config
  breakers : s.circuitBreakers = if results = [] then [] else [(modelKey gateway modelId, breakerAfter config results)]
  cache : ∀ last ∈ results.getLast?, ∃ a : ModelAvailability, s.availabilityCache = [(modelKey gateway modelId, a)] ∧
    a.modelId = modelId ∧ a.status = last.1.status.availability ∧ a.circuitBreakerState = (breakerAfter config results).state ∧
    a.maintenanceUntil = none
  empty : results = [] → s.availabilityCache = []

theorem holds_new : Holds config modelId gateway [] (newService config fallbacks) where
  configured := rfl
  breakers := rfl
  cache := nofun
  empty := fun _ => rfl

theorem put_holds {V : Type} {key : String} {d : List (String × V)} (h : d = [] ∨ ∃ v, d = [(key, v)]) (w : V) :
    Dictionary.put d key w = [(key, w)] := by
  obtain rfl | ⟨v, rfl⟩ := h
  · exact Dictionary.put_nil key w
  · exact Dictionary.put_singleton key v w

variable {s : ModelAvailabilityService}

/-- The step. -/
theorem Holds.update (h : Holds config modelId gateway results s) {r : ModelHealth}
    (hof : r.modelId = modelId ∧ r.gateway = gateway) (now : ℚ) :
    Holds config modelId gateway (results ++ [(r, now)]) (s.updateModelAvailability r now) := by
  obtain ⟨rfl, rfl⟩ := hof
  -- the breaker of before, or a new one
  have hbreaker : (s.circuitBreakers.lookup (modelKey r.gateway r.modelId)).getD s.newBreaker = breakerAfter config results := by
    have hconfig := h.configured
    rw [h.breakers]
    by_cases hnone : results = []
    · subst hnone hconfig
      rfl
    · rw [if_neg hnone, List.lookup_cons_self]
      rfl
  have hnext : (breakerAfter config results).record r now = breakerAfter config (results ++ [(r, now)]) := by
    rw [breakerAfter_append]
    rfl
  have hbreakers : s.circuitBreakers = [] ∨ ∃ b, s.circuitBreakers = [(modelKey r.gateway r.modelId, b)] := by
    rw [h.breakers]
    by_cases hnone : results = []
    · exact .inl (if_pos hnone)
    · exact .inr ⟨_, if_neg hnone⟩
  have hcache : s.availabilityCache = [] ∨ ∃ a, s.availabilityCache = [(modelKey r.gateway r.modelId, a)] := by
    rcases List.eq_nil_or_concat results with hnone | ⟨init, last, hlast⟩
    · exact .inl (h.empty hnone)
    · obtain ⟨a, ha, -⟩ := h.cache last (by rw [hlast]; simp)
      exact .inr ⟨a, ha⟩
  unfold ModelAvailabilityService.updateModelAvailability
  dsimp only
  rw [hbreaker, hnext, put_holds hbreakers, put_holds hcache]
  refine ⟨h.configured, ?_, ?_, fun hnone => absurd hnone (by simp)⟩
  · rw [if_neg (by simp)]
  · intro last hlast
    rw [List.getLast?_concat] at hlast
    obtain rfl := Option.some.inj hlast
    exact ⟨_, rfl, rfl, rfl, rfl, rfl⟩

theorem holds_feed (h : Holds config modelId gateway results s) (hof : Of modelId gateway more) :
    Holds config modelId gateway (results ++ more) (s.feed more) := by
  induction more generalizing s results with
  | nil =>
    rw [List.append_nil]
    exact h
  | cons r more ih =>
    have hstep := ih (h.update (hof r List.mem_cons_self) r.2) fun r hr => hof r (List.mem_cons_of_mem _ hr)
    rw [List.append_assoc] at hstep
    exact hstep

theorem Holds.isModelAvailable (h : Holds config modelId gateway results s) {last : ModelHealth × ℚ}
    (hlast : last ∈ results.getLast?) (now : ℚ) : s.isModelAvailable modelId (some gateway) now =
      decide ((breakerAfter config results).state ≠ .opened ∧ last.1.status.availability = .available) := by
  obtain ⟨a, hcache, hmodel, hstatus, hstate, hmaintenance⟩ := h.cache last hlast
  have hfound : s.getModelAvailability modelId (some gateway) = some a := by
    unfold ModelAvailabilityService.getModelAvailability
    rw [hcache]
    split
    · next g hg =>
      obtain ⟨hsame, -⟩ := Option.filter_eq_some_iff.mp hg
      cases hsame
      exact List.lookup_cons_self
    · rw [List.find?_cons_of_pos (by simpa using hmodel)]
      rfl
  unfold ModelAvailabilityService.isModelAvailable
  rw [hfound]
  dsimp only
  rw [hstate, hstatus, hmaintenance]
  by_cases hopened : (breakerAfter config results).state = .opened
  · rw [if_pos hopened]
    simp [hopened]
  · rw [if_neg hopened]
    simp [hopened]

theorem breakerAfter_ne_halfOpen (config : AvailabilityConfig) (results : List (ModelHealth × ℚ)) :
    (breakerAfter config results).state ≠ .halfOpen := by
  induction results using List.reverseRecOn with
  | nil => nofun
  | append_singleton results r ih =>
    rw [breakerAfter_append]
    exact record_ne_halfOpen ih r.1 r.2

theorem record_state_of_healthyFast {b : CircuitBreaker} (h : b.state ≠ .halfOpen) (hmore : ∀ r ∈ more, HealthyFast b r.1) :
    (more.foldl (fun b r => b.record r.1 r.2) b).state = b.state := by
  induction more generalizing b with
  | nil => rfl
  | cons r more ih =>
    have hsame : (b.record r.1 r.2).state = b.state := record_of_healthyFast h (hmore r List.mem_cons_self)
    have hrest : ∀ q ∈ more, HealthyFast (b.record r.1 r.2) q.1 := by
      intro q hq
      unfold HealthyFast
      rw [isSlow_record]
      exact hmore q (List.mem_cons_of_mem _ hq)
    rw [List.foldl_cons, ih (record_ne_halfOpen h r.1 r.2) hrest, hsame]

theorem isSlow_breakerAfter (config : AvailabilityConfig) (fallbacks : String → List String) (results : List (ModelHealth × ℚ)) :
    (breakerAfter config results).isSlow = (newService config fallbacks).newBreaker.isSlow := by
  induction results using List.reverseRecOn with
  | nil => rfl
  | append_singleton results r ih =>
    rw [breakerAfter_append]
    exact (isSlow_record _ r.1 r.2).trans ih

end Service

/-- **A model that recovers is available again just if its circuit has not opened**: after any healthy and fast results. And after a
    result that is not healthy, it is not available. -/
theorem model_recovers_iff (config : AvailabilityConfig) (fallbacks : String → List String) {modelId gateway : String}
    {before more : List (ModelHealth × ℚ)} (hbefore : Of modelId gateway before) (hmore : Of modelId gateway more)
    {last : ModelHealth × ℚ} (hlast : last ∈ more.getLast?) (now : ℚ) :
    ((∀ r ∈ more, HealthyFast (newService config fallbacks).newBreaker r.1) →
        (((newService config fallbacks).feed (before ++ more)).isModelAvailable modelId (some gateway) now = true ↔
          (breakerAfter config before).state ≠ .opened)) ∧
      (last.1.status ≠ .healthy →
        ((newService config fallbacks).feed (before ++ more)).isModelAvailable modelId (some gateway) now = false) := by
  have hof : Of modelId gateway (before ++ more) := by
    intro r hr
    rcases List.mem_append.mp hr with hfirst | hsecond
    · exact hbefore r hfirst
    · exact hmore r hsecond
  have hholds : Holds config modelId gateway (before ++ more) ((newService config fallbacks).feed (before ++ more)) :=
    holds_feed holds_new hof
  have hlast' : last ∈ (before ++ more).getLast? := List.mem_getLast?_append_of_mem_getLast? hlast
  rw [hholds.isModelAvailable hlast']
  constructor
  · intro hfast
    have hstate : (breakerAfter config (before ++ more)).state = (breakerAfter config before).state := by
      rw [breakerAfter_append]
      refine record_state_of_healthyFast (breakerAfter_ne_halfOpen config before) fun r hr => ?_
      unfold HealthyFast
      rw [isSlow_breakerAfter config fallbacks]
      exact hfast r hr
    have hhealthy : last.1.status.availability = .available := by
      rw [(hfast last (List.mem_of_getLast? hlast)).1]
      rfl
    rw [hstate, hhealthy, decide_eq_true_eq]
    exact and_iff_left rfl
  · intro hill
    have hnot : last.1.status.availability ≠ .available := by
      cases hstatus : last.1.status with
      | healthy => exact absurd hstatus hill
      | _ => nofun
    exact decide_eq_false fun h => hnot h.2

def resultOf (status : HealthStatus) : ModelHealth where
  modelId := "m"
  provider := "p"
  gateway := "g"
  status := status

theorem model_recovers_iff_once :
    ((newService {} fun _ => []).feed [(resultOf .unhealthy, 0), (resultOf .healthy, 60)]).isModelAvailable "m" (some "g") 61 = true := by
  have hbefore : Of "m" "g" [(resultOf .unhealthy, 0)] := by
    unfold Of
    decide
  have hmore : Of "m" "g" [(resultOf .healthy, 60)] := by
    unfold Of
    decide
  have hfast : ∀ r ∈ [(resultOf .healthy, (60 : ℚ))], HealthyFast (newService {} fun _ => []).newBreaker r.1 := by
    unfold HealthyFast
    decide
  exact ((model_recovers_iff {} (fun _ => []) hbefore hmore (Option.mem_some_self _) 61).1 hfast).mpr (by decide +kernel)

/-- **Five failures, and it is never available again**: long after the timeout, after more than three healthy results. -/
theorem opened_never_recovers :
    ((newService {} fun _ => []).feed
      [(resultOf .unhealthy, 0), (resultOf .unhealthy, 60), (resultOf .unhealthy, 120), (resultOf .unhealthy, 180),
        (resultOf .unhealthy, 240), (resultOf .healthy, 1000), (resultOf .healthy, 1060), (resultOf .healthy, 1120),
        (resultOf .healthy, 1180)]).isModelAvailable "m" (some "g") 1181 = false := by
  decide +kernel

end Gatewayz.Availability
