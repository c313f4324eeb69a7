import Gatewayz.Correctness.ModelRecovers
import Gatewayz.Exec.Tally

/-!
# `Correctness.MaintenanceLasts` — a model that is in maintenance, until when

Maintenance is a mark on the record of a model, and each result makes a new record, without it. So maintenance ends with the first
healthy result, unless the circuit is open (`Lifts`), and not at its time. A result that is not healthy ends it as well, but leaves the
model as unavailable as it was.
-/

namespace Gatewayz.Availability

open Exec

/-! ## The claim -/

section Maintenance

variable (s : ModelAvailabilityService) (modelId gateway : String)

def recordOf : Option ModelAvailability := s.availabilityCache.lookup (modelKey gateway modelId)

def breakerOf : CircuitBreaker := (s.circuitBreakers.lookup (modelKey gateway modelId)).getD s.newBreaker

def IsOf (r : ModelHealth) : Prop := modelKey r.gateway r.modelId = modelKey gateway modelId

def OpenedBy (b : CircuitBreaker) (r : ModelHealth) : Prop :=
  b.state ≠ .halfOpen ∧
    (b.state = .opened ∨ b.isSlow r.responseTimeSeconds = true ∧ b.slowResponseLimit ≤ b.slowResponseCount + 1)

instance (b : CircuitBreaker) (r : ModelHealth) : Decidable (OpenedBy b r) := inferInstanceAs (Decidable (_ ∧ (_ ∨ _ ∧ _)))

/-- The result makes the model available: a healthy one of it, and its circuit is not open. -/
def Lifts (r : ModelHealth) : Prop := IsOf modelId gateway r ∧ r.status = .healthy ∧ ¬ OpenedBy (breakerOf s modelId gateway) r

/-- The model is not available before its time: at no time, after the results that there were by then. -/
def UnavailableUntil (untilTime : ℚ) (results : List (ModelHealth × ℚ)) : Prop :=
  ∀ before now, before <+: results → (∀ r ∈ before, r.2 ≤ now) → now < untilTime →
    (s.feed before).isModelAvailable modelId (some gateway) now = false

def NotLifted (untilTime : ℚ) (results : List (ModelHealth × ℚ)) : Prop :=
  ∀ before r, before ++ [r] <+: results → (∀ q ∈ before ++ [r], q.2 < untilTime) → ¬ Lifts (s.feed before) modelId gateway r.1

end Maintenance

/-! ## Results -/

section Results

variable {s : ModelAvailabilityService} {modelId gateway : String} {r : ModelHealth} {now t : ℚ}

theorem availability_eq_available_iff {status : HealthStatus} : status.availability = .available ↔ status = .healthy := by
  cases status <;> simp [HealthStatus.availability]

theorem isModelAvailable_eq (hgateway : gateway ≠ "") {a : ModelAvailability} (h : recordOf s modelId gateway = some a) :
    s.isModelAvailable modelId (some gateway) t = true ↔
      a.circuitBreakerState ≠ .opened ∧ (a.maintenanceUntil.any fun u => t < u) = false ∧ a.status = .available := by
  have hfound : s.getModelAvailability modelId (some gateway) = some a := by
    unfold ModelAvailabilityService.getModelAvailability
    rw [Option.filter_some, if_pos (decide_eq_true hgateway)]
    exact h
  unfold ModelAvailabilityService.isModelAvailable
  rw [hfound]
  dsimp only
  by_cases hopened : a.circuitBreakerState = .opened
  · simp [hopened]
  · rw [if_neg hopened]
    by_cases huntil : (a.maintenanceUntil.any fun u => t < u) = true
    · rw [if_pos huntil]
      simp [huntil]
    · rw [if_neg huntil, decide_eq_true_iff]
      simp [hopened, huntil]

theorem recordOf_update (now : ℚ) (h : IsOf modelId gateway r) :
    ∃ a, recordOf (s.updateModelAvailability r now) modelId gateway = some a ∧ a.status = r.status.availability ∧
      a.maintenanceUntil = none ∧ a.circuitBreakerState = ((breakerOf s modelId gateway).record r now).state := by
  unfold IsOf at h
  unfold recordOf breakerOf ModelAvailabilityService.updateModelAvailability
  dsimp only
  rw [h, Dictionary.lookup_put, if_pos rfl]
  exact ⟨_, rfl, rfl, rfl, rfl⟩

theorem recordOf_update_of_ne (h : ¬ IsOf modelId gateway r) :
    recordOf (s.updateModelAvailability r now) modelId gateway = recordOf s modelId gateway := by
  unfold recordOf ModelAvailabilityService.updateModelAvailability
  dsimp only
  rw [Dictionary.lookup_put, if_neg (Ne.symm h)]

theorem opened_healthy_iff {b : CircuitBreaker} (h : r.status = .healthy) : (b.record r now).state = .opened ↔ OpenedBy b r := by
  unfold CircuitBreaker.record OpenedBy
  rw [if_pos (availability_eq_available_iff.mpr h)]
  by_cases hhalf : b.state = .halfOpen
  · unfold CircuitBreaker.recordSuccess
    rw [if_pos hhalf]
    dsimp only
    split
    · simp [hhalf]
    · simp [hhalf]
  · rw [recordSuccess_state hhalf, CircuitBreaker.slowResponses]
    by_cases hslow : b.isSlow r.responseTimeSeconds = true
    · by_cases hmany : b.slowResponseLimit ≤ b.slowResponseCount + 1
      · simp [hhalf, hslow, hmany]
      · simp [hhalf, hslow, hmany]
    · simp [hhalf, hslow]

theorem available_update_iff (hgateway : gateway ≠ "") (hof : IsOf modelId gateway r) (hhealthy : r.status = .healthy) :
    (s.updateModelAvailability r now).isModelAvailable modelId (some gateway) t = true ↔
      ¬ OpenedBy (breakerOf s modelId gateway) r := by
  obtain ⟨a, ha, hstatus, huntil, hstate⟩ := recordOf_update (s := s) now hof
  rw [isModelAvailable_eq hgateway ha, hstate, huntil, hstatus, Ne, opened_healthy_iff hhealthy]
  simp [availability_eq_available_iff.mpr hhealthy]

/-! ## While nothing lifts it -/

def Withheld (s : ModelAvailabilityService) (modelId gateway : String) : Prop :=
  ∃ a, recordOf s modelId gateway = some a ∧ (a.status = .available → a.circuitBreakerState = .opened)

theorem Withheld.unavailable (h : Withheld s modelId gateway) (hgateway : gateway ≠ "") :
    s.isModelAvailable modelId (some gateway) t = false := by
  obtain ⟨a, ha, hwithheld⟩ := h
  by_contra havailable
  obtain ⟨hstate, -, hstatus⟩ := (isModelAvailable_eq hgateway ha).mp (Bool.eq_true_of_not_eq_false havailable)
  exact hstate (hwithheld hstatus)

theorem withheld_setMaintenanceMode {a : ModelAvailability} (h : recordOf s modelId gateway = some a) (untilTime : ℚ) :
    Withheld (s.setMaintenanceMode modelId gateway untilTime) modelId gateway := by
  refine ⟨{ a with maintenanceUntil := some untilTime, status := .maintenance }, ?_, nofun⟩
  unfold recordOf at h
  unfold recordOf ModelAvailabilityService.setMaintenanceMode
  dsimp only
  rw [Dictionary.lookup_adjust, if_pos rfl, h]
  rfl

/-- The step: a result that does not lift the maintenance leaves the model unavailable. -/
theorem Withheld.update (h : Withheld s modelId gateway) (hnot : ¬ Lifts s modelId gateway r) :
    Withheld (s.updateModelAvailability r now) modelId gateway := by
  by_cases hof : IsOf modelId gateway r
  · obtain ⟨a, ha, hstatus, -, hstate⟩ := recordOf_update (s := s) now hof
    refine ⟨a, ha, fun havailable => ?_⟩
    have hhealthy : r.status = .healthy := availability_eq_available_iff.mp (hstatus ▸ havailable)
    rw [hstate, opened_healthy_iff hhealthy]
    by_contra hopened
    exact hnot ⟨hof, hhealthy, hopened⟩
  · unfold Withheld
    rw [recordOf_update_of_ne hof]
    exact h

theorem feed_append (results more : List (ModelHealth × ℚ)) : s.feed (results ++ more) = (s.feed results).feed more :=
  List.foldl_append

theorem Withheld.feed (h : Withheld s modelId gateway) {results : List (ModelHealth × ℚ)}
    (hnot : ∀ before r, before ++ [r] <+: results → ¬ Lifts (s.feed before) modelId gateway r.1) :
    Withheld (s.feed results) modelId gateway := by
  induction results using List.reverseRecOn with
  | nil => exact h
  | append_singleton results r ih =>
    rw [feed_append]
    refine (ih fun before q hq => hnot before q (hq.trans (List.prefix_append _ _))).update ?_
    exact hnot results r List.prefix_rfl

/-! ## Until its time -/

theorem exists_time {untilTime : ℚ} (results : List (ModelHealth × ℚ)) (h : ∀ r ∈ results, r.2 < untilTime) :
    ∃ now, now < untilTime ∧ ∀ r ∈ results, r.2 ≤ now := by
  induction results with
  | nil => exact ⟨untilTime - 1, by linarith, nofun⟩
  | cons r results ih =>
    obtain ⟨now, hnow, hall⟩ := ih fun q hq => h q (List.mem_cons_of_mem r hq)
    refine ⟨max r.2 now, max_lt (h r List.mem_cons_self) hnow, fun q hq => ?_⟩
    rcases List.mem_cons.mp hq with rfl | hrest
    · exact le_max_left _ _
    · exact (hall q hrest).trans (le_max_right _ _)

theorem unavailableUntil_iff (hgateway : gateway ≠ "") (h : Withheld s modelId gateway) (untilTime : ℚ)
    (results : List (ModelHealth × ℚ)) :
    UnavailableUntil s modelId gateway untilTime results ↔ NotLifted s modelId gateway untilTime results := by
  constructor
  · rintro hunavailable before r hbegins hearly ⟨hof, hhealthy, hshut⟩
    obtain ⟨now, hnow, hall⟩ := exists_time _ hearly
    have hfalse := hunavailable (before ++ [r]) now hbegins hall hnow
    have hfeed : s.feed (before ++ [r]) = (s.feed before).updateModelAvailability r.1 r.2 := feed_append before [r]
    rw [hfeed, (available_update_iff hgateway hof hhealthy).mpr hshut] at hfalse
    cases hfalse
  · intro hnot before now hbegins hall hnow
    have hwithheld : Withheld (s.feed before) modelId gateway := by
      refine h.feed fun first r hfirst => hnot first r (hfirst.trans hbegins) fun q hq => ?_
      exact lt_of_le_of_lt (hall q (hfirst.subset hq)) hnow
    exact hwithheld.unavailable hgateway

def seenOnce : ModelAvailabilityService := (newService {} fun _ => []).feed [(resultOf .healthy, 0)]

end Results

end Gatewayz.Availability
