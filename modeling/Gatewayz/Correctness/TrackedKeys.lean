import Gatewayz.Correctness.FallbackKeys
import Gatewayz.Exec.Machine

/-!
# `Correctness.TrackedKeys` — the keys that the fallback limiter keeps track of

A key with data is a key in the order of use as long as two things do not happen: a release of a key that is not there, which makes an
entry for it, and a check of a new key while as many keys as there may be are busy, which evicts the new key itself and then goes on with
it.
-/

namespace Gatewayz.Limits.Fallback

open Exec

namespace InMemoryRateLimiter

variable {s : InMemoryRateLimiter} {apiKey : String} {now : ℚ}

/-! ## The tracking invariant -/

/-- Every key with data is tracked, and only busy keys are too many. -/
structure Tracked (s : InMemoryRateLimiter) : Prop where
  ordered : ∀ key, s.data key ≠ {} → key ∈ s.keyOrder.keys
  bounded : s.keyOrder.keys.length ≤ maxFallbackKeys + s.busyKeys.length

/-- The evictions of a check spare the busy keys, and the key of the check unless it had expired. -/
structure EvictionSpares (s : InMemoryRateLimiter) (apiKey : String) (now : ℚ) : Prop where
  busy : ∀ key, 0 < s.inFlight key →
    (s.afterEvictions apiKey now).data key = s.data key ∧
      (key ∈ s.keyOrder.keys → key ∈ (s.afterEvictions apiKey now).keyOrder.keys)
  checked : apiKey ∈ (s.afterEvictions apiKey now).keyOrder.keys ∧
    (s.isExpired apiKey now = false → (s.afterEvictions apiKey now).data apiKey = s.data apiKey)

/-- Every key with data is tracked, and there are not too many. -/
structure WithinCap (s : InMemoryRateLimiter) : Prop where
  ordered : ∀ key, s.data key ≠ {} → key ∈ s.keyOrder.keys
  length_le : s.keyOrder.keys.length ≤ maxFallbackKeys

def HasPlace (s : InMemoryRateLimiter) (apiKey : String) : Prop := apiKey ∈ s.keyOrder.keys ∨ s.busyKeys.length < maxFallbackKeys

theorem WithinCap.tracked (h : WithinCap s) : Tracked s := ⟨h.ordered, h.length_le.trans (Nat.le_add_right _ _)⟩

theorem WithinCap.isIdle_of_notMem (h : WithinCap s) (hnew : apiKey ∉ s.keyOrder.keys) : s.isIdle apiKey = true := by
  have hempty : s.data apiKey = {} := by
    by_contra hdata
    exact hnew (h.ordered apiKey hdata)
  exact decide_eq_true (inFlight_of_empty hempty)

theorem busyKeys_lt (hmem : apiKey ∈ s.keyOrder.keys) (hidle : s.isIdle apiKey = true) : s.busyKeys.length < s.keyOrder.keys.length :=
  List.length_filter_lt_length_iff_exists.mpr ⟨apiKey, hmem, by rw [hidle]; exact Bool.false_ne_true⟩

theorem WithinCap.not_selfEvicted (h : WithinCap s) (hplace : s.HasPlace apiKey) : ¬s.SelfEvicted apiKey now := by
  rintro ⟨hnew, hidle, hbusy⟩
  rcases hplace with hmem | hroom
  · have := busyKeys_lt hmem hidle
    have := h.length_le
    omega
  · omega

theorem WithinCap.selfEvicted (h : WithinCap s) (hplace : ¬s.HasPlace apiKey) : s.SelfEvicted apiKey now := by
  obtain ⟨hnew, hbusy⟩ := not_or.mp hplace
  exact ⟨.inl hnew, h.isIdle_of_notMem hnew, not_lt.mp hbusy⟩

theorem WithinCap.length_afterEvictions (h : WithinCap s) (apiKey : String) (now : ℚ) :
    (s.afterEvictions apiKey now).keyOrder.keys.length ≤ maxFallbackKeys := by
  have hlength : (s.evictExpiredKeys now).keyOrder.keys.length ≤ maxFallbackKeys :=
    (List.length_filter_le _ _).trans h.length_le
  by_cases hmem : apiKey ∈ (s.evictExpiredKeys now).keyOrder.keys
  · rw [afterEvictions, trackKey, if_pos hmem]
    exact (OrderedKeys.length_touch_of_mem hmem).trans_le hlength
  · -- the new key is idle, so there is an idle one to go
    have hidle : ((s.evictExpiredKeys now).touchKey apiKey).isIdle apiKey = true := by
      change (s.evictExpiredKeys now).isIdle apiKey = true
      rw [isIdle_evictExpiredKeys]
      by_cases hold : apiKey ∈ s.keyOrder.keys
      · have hexpired : s.isExpired apiKey now = true := by
          by_contra hlive
          exact hmem (OrderedKeys.mem_removeAll.mpr ⟨hold, Bool.eq_false_iff.mpr hlive⟩)
        exact isIdle_of_isExpired hexpired
      · exact h.isIdle_of_notMem hold
    have htouched : ((s.evictExpiredKeys now).touchKey apiKey).keyOrder.keys = (s.evictExpiredKeys now).keyOrder.keys ++ [apiKey] :=
      OrderedKeys.keys_touch_of_notMem hmem
    have hsome : 0 < (((s.evictExpiredKeys now).touchKey apiKey).keyOrder.keys.filter
        ((s.evictExpiredKeys now).touchKey apiKey).isIdle).length := by
      refine List.length_pos_of_mem (List.mem_filter.mpr ⟨?_, hidle⟩)
      rw [htouched]
      exact List.mem_append_right _ (List.mem_singleton_self apiKey)
    have hsplit := OrderedKeys.length_removeAll_surplus ((s.evictExpiredKeys now).touchKey apiKey).keyOrder
      ((s.evictExpiredKeys now).touchKey apiKey).isIdle maxFallbackKeys
    rw [OrderedKeys.surplus, List.length_take, htouched, List.length_append, List.length_singleton, ← htouched] at hsplit
    rw [afterEvictions, trackKey_of_notMem hmem]
    change (((s.evictExpiredKeys now).touchKey apiKey).keyOrder.removeAll _).keys.length ≤ maxFallbackKeys
    unfold surplus OrderedKeys.surplus
    rw [htouched, List.length_append, List.length_singleton, ← htouched]
    omega

/-- One check of a key that has a place. -/
theorem WithinCap.checkRateLimit {config : RateLimitConfig} {tokensUsed : ℤ} (h : WithinCap s) (hplace : s.HasPlace apiKey) :
    WithinCap (s.checkRateLimit apiKey config now tokensUsed).2 := by
  obtain ⟨horder, hdata⟩ := onlyKey_checkRateLimit s apiKey config now tokensUsed
  refine ⟨fun key hkey => ?_, ?_⟩
  · rw [horder, mem_afterEvictions]
    by_cases heq : key = apiKey
    · exact .inr ⟨heq, h.not_selfEvicted hplace⟩
    · rw [hdata key heq] at hkey
      have hkept : ¬s.Evicted apiKey now key := fun hevicted => hkey (data_afterEvictions.1 hevicted)
      rw [data_afterEvictions.2 hkept] at hkey
      exact .inl ⟨h.ordered key hkey, hkept⟩
  · rw [horder]
    exact h.length_afterEvictions apiKey now

theorem WithinCap.release (h : WithinCap s) (hmem : apiKey ∈ s.keyOrder.keys) : WithinCap (s.releaseConcurrentRequest apiKey) := by
  obtain ⟨horder, hdata⟩ := onlyKey_release s apiKey
  refine ⟨fun key hkey => ?_, horder ▸ h.length_le⟩
  rw [horder]
  by_cases heq : key = apiKey
  · exact heq ▸ hmem
  · exact h.ordered key (hdata key heq ▸ hkey)

theorem WithinCap.evictionSpares (h : WithinCap s) (hplace : s.HasPlace apiKey) : EvictionSpares s apiKey now where
  busy key hbusy := by
    have hkept : ¬s.Evicted apiKey now key := fun hevicted => by
      have hidle : s.inFlight key = 0 := of_decide_eq_true (isIdle_of_evicted hevicted)
      omega
    exact ⟨data_afterEvictions.2 hkept, fun hmem => mem_afterEvictions.mpr (.inl ⟨hmem, hkept⟩)⟩
  checked := by
    refine ⟨mem_afterEvictions.mpr (.inr ⟨rfl, h.not_selfEvicted hplace⟩), fun hlive => data_afterEvictions.2 ?_⟩
    rintro (hexpired | hdisplaced)
    · rw [hlive] at hexpired
      cases hexpired
    · exact h.not_selfEvicted hplace (selfEvicted_iff.mpr hdisplaced)

end InMemoryRateLimiter

/-! ## Runs -/

inductive Call where
  | check (apiKey : String) (config : RateLimitConfig) (tokensUsed : ℤ) (now : ℚ)
  | release (apiKey : String)

structure FallbackRun where
  limiter : InMemoryRateLimiter := {}
  clock : ℚ := 0

def FallbackRun.after (s : FallbackRun) : Call → FallbackRun
  | .check apiKey config tokensUsed now => ⟨(s.limiter.checkRateLimit apiKey config now tokensUsed).2, now⟩
  | .release apiKey => ⟨s.limiter.releaseConcurrentRequest apiKey, s.clock⟩

def FallbackRun.answer (s : FallbackRun) : Call → Option RateLimitResult
  | .check apiKey config tokensUsed now => some (s.limiter.checkRateLimit apiKey config now tokensUsed).1
  | .release _ => none

def fallbackMachine : Machine FallbackRun Call (Option RateLimitResult) where
  init := {}
  step s c := some (s.after c, s.answer c)

/-- A checked key has a place, and a released key is tracked. -/
def Permitted (s : FallbackRun) : Call → Prop
  | .check apiKey _ _ _ => s.limiter.HasPlace apiKey
  | .release apiKey => apiKey ∈ s.limiter.keyOrder.keys

def Forward (s : FallbackRun) : Call → Prop
  | .check _ _ _ now => s.clock ≤ now
  | .release _ => True

open InMemoryRateLimiter

theorem after_of_step {s s' : FallbackRun} {c : Call} {o : Option RateLimitResult} (h : fallbackMachine.step s c = some (s', o)) :
    s.after c = s' := congrArg Prod.fst (Option.some.inj h)

theorem withinCap_after {s : FallbackRun} {c : Call} (h : s.limiter.WithinCap) (hc : Permitted s c) : (s.after c).limiter.WithinCap := by
  cases c with
  | check apiKey config tokensUsed now => exact h.checkRateLimit hc
  | release apiKey => exact h.release hc

theorem withinCap_of_reach {s : FallbackRun} (h : fallbackMachine.Reach Permitted s) : s.limiter.WithinCap := by
  refine Machine.reach_invariant (I := fun s => s.limiter.WithinCap) ⟨fun key hkey => absurd rfl hkey, Nat.zero_le _⟩ ?_ h
  intro s c s' o hs hc hstep
  exact after_of_step hstep ▸ withinCap_after hs hc

theorem concurrentRequests_release (s : InMemoryRateLimiter) (apiKey : String) :
    (s.releaseConcurrentRequest apiKey).concurrentRequests apiKey = some (s.inFlight apiKey - 1) := Function.update_self ..

theorem not_tracked_of_not_permitted {s : FallbackRun} {c : Call} (h : s.limiter.WithinCap) (hc : ¬Permitted s c) :
    ¬Tracked (s.after c).limiter := by
  intro htracked
  cases c with
  | check apiKey config tokensUsed now =>
    have hdata : (s.limiter.checkRateLimit apiKey config now tokensUsed).2.data apiKey ≠ {} := by
      intro hempty
      have hlast := congrArg KeyData.lastAccessed hempty
      rw [data, keyLastAccessed_checkRateLimit] at hlast
      cases hlast
    have hmem : apiKey ∈ (s.limiter.checkRateLimit apiKey config now tokensUsed).2.keyOrder.keys := htracked.ordered apiKey hdata
    have hself : s.limiter.SelfEvicted apiKey now := h.selfEvicted hc
    rw [(onlyKey_checkRateLimit s.limiter apiKey config now tokensUsed).1, mem_afterEvictions] at hmem
    rcases hmem with ⟨hmem, -⟩ | ⟨-, hkept⟩
    · exact hc (.inl hmem)
    · exact hkept hself
  | release apiKey =>
    have hdata : (s.limiter.releaseConcurrentRequest apiKey).data apiKey ≠ {} := by
      intro hempty
      have hnone : (s.limiter.releaseConcurrentRequest apiKey).concurrentRequests apiKey = none :=
        congrArg KeyData.concurrentRequests hempty
      rw [concurrentRequests_release] at hnone
      cases hnone
    exact hc (htracked.ordered apiKey hdata)

/-! ## Expired keys -/

/-- What is noted of a key is from the moment it was last seen; a key that is not known may have been seen just now. -/
structure SeenBy (s : InMemoryRateLimiter) (key : String) (clock : ℚ) : Prop where
  nonneg : 0 ≤ (s.keyLastAccessed key).getD clock
  past : (s.keyLastAccessed key).getD clock ≤ clock
  noted : s.NotedBy key ((s.keyLastAccessed key).getD clock)

theorem SeenBy.of_some {s : InMemoryRateLimiter} {key : String} {clock last : ℚ} (hlast : s.keyLastAccessed key = some last)
    (hnonneg : 0 ≤ last) (hpast : last ≤ clock) (hnoted : s.NotedBy key last) : SeenBy s key clock := by
  constructor
  all_goals
    rw [hlast]
    assumption

theorem SeenBy.of_none {s : InMemoryRateLimiter} {key : String} {clock : ℚ} (hlast : s.keyLastAccessed key = none)
    (hnonneg : 0 ≤ clock) (hnoted : s.NotedBy key clock) : SeenBy s key clock := by
  constructor
  all_goals rw [hlast]
  · exact hnonneg
  · exact le_refl _
  · exact hnoted

def Timely (s : FallbackRun) : Prop := ∀ key, SeenBy s.limiter key s.clock

theorem timely_init : Timely {} := fun _ => .of_none rfl (le_refl _) (.of_empty (le_refl _) rfl)

theorem timely_after {s : FallbackRun} {c : Call} (h : Timely s) (hc : Forward s c) : Timely (s.after c) := by
  cases c with
  | check apiKey config tokensUsed now =>
    have hclock : s.clock ≤ now := hc
    have hnow : 0 ≤ now := (h apiKey).nonneg.trans ((h apiKey).past.trans hclock)
    obtain ⟨-, hother⟩ := onlyKey_checkRateLimit s.limiter apiKey config now tokensUsed
    have hafter : ∀ key, (s.limiter.afterEvictions apiKey now).NotedBy key now := by
      intro key
      by_cases hevicted : s.limiter.Evicted apiKey now key
      · exact .of_empty hnow (data_afterEvictions.1 hevicted)
      · exact ((h key).noted.mono ((h key).past.trans hclock)).congr (data_afterEvictions.2 hevicted)
    intro key
    by_cases hkey : key = apiKey
    · subst hkey
      exact .of_some (keyLastAccessed_checkRateLimit s.limiter key config now tokensUsed) hnow (le_refl _) (hafter key).checkRateLimit
    · have hdata := hother key hkey
      by_cases hevicted : s.limiter.Evicted apiKey now key
      · rw [data_afterEvictions.1 hevicted] at hdata
        exact .of_none (congrArg KeyData.lastAccessed hdata) hnow (.of_empty hnow hdata)
      · rw [data_afterEvictions.2 hevicted] at hdata
        obtain ⟨hnonneg, hpast, hnoted⟩ := h key
        cases hlast : s.limiter.keyLastAccessed key with
        | none =>
          exact .of_none ((congrArg KeyData.lastAccessed hdata).trans hlast) hnow ((hnoted.congr hdata).mono (hpast.trans hclock))
        | some last =>
          rw [hlast] at hnonneg hpast hnoted
          exact .of_some ((congrArg KeyData.lastAccessed hdata).trans hlast) hnonneg (hpast.trans hclock) (hnoted.congr hdata)
  | release apiKey =>
    intro key
    obtain ⟨hnonneg, hpast, hnoted⟩ := h key
    exact ⟨hnonneg, hpast, hnoted.requests, hnoted.tokens, hnoted.nonneg, hnoted.refilled⟩

theorem view_afterEvictions {s : FallbackRun} (h : fallbackMachine.Reach (fun s c => Permitted s c ∧ Forward s c) s) {apiKey : String}
    (hplace : s.limiter.HasPlace apiKey) {now : ℚ} (config : RateLimitConfig) :
    (s.limiter.afterEvictions apiKey now).view apiKey config now = s.limiter.view apiKey config now := by
  have hcap := withinCap_of_reach (Machine.reach_mono (fun _ _ hc => hc.1) h)
  have htimely : Timely s := by
    refine Machine.reach_invariant (I := Timely) timely_init ?_ h
    intro s c s' o hs hc hstep
    exact after_of_step hstep ▸ timely_after hs hc.2
  by_cases hevicted : s.limiter.Evicted apiKey now apiKey
  · have hexpired : s.limiter.isExpired apiKey now = true :=
      hevicted.resolve_right fun hdisplaced => hcap.not_selfEvicted hplace (selfEvicted_iff.mpr hdisplaced)
    obtain ⟨hnonneg, -, hnoted⟩ := htimely apiKey
    rw [view_of_empty (data_afterEvictions.1 hevicted)]
    cases hlast : s.limiter.keyLastAccessed apiKey with
    | none =>
      rw [isExpired, hlast] at hexpired
      cases hexpired
    | some last =>
      rw [hlast] at hnonneg hnoted
      exact (hnoted.view_of_isExpired hlast hnonneg hexpired config).symm
  · exact view_congr (data_afterEvictions.2 hevicted) config now

/-- **The tracking invariant**, in every state of the runs in which checked keys have a place and released keys are tracked: every key with
data is tracked, the evictions of the next check spare the busy keys and its own, and any other call breaks the invariant. If the clock
does not go back, a check does not even see that its key had expired. -/
theorem tracking_invariant {s : FallbackRun} (h : fallbackMachine.Reach Permitted s) :
    Tracked s.limiter ∧
      (∀ apiKey now, s.limiter.HasPlace apiKey → EvictionSpares s.limiter apiKey now) ∧
      (∀ c, ¬Permitted s c → ¬Tracked (s.after c).limiter) ∧
      (fallbackMachine.Reach (fun s c => Permitted s c ∧ Forward s c) s →
        ∀ apiKey config now, s.limiter.HasPlace apiKey →
          (s.limiter.afterEvictions apiKey now).view apiKey config now = s.limiter.view apiKey config now) := by
  have hcap := withinCap_of_reach h
  refine ⟨hcap.tracked, fun apiKey now hplace => hcap.evictionSpares hplace, fun c hc => not_tracked_of_not_permitted hcap hc, ?_⟩
  exact fun hforward apiKey config now hplace => view_afterEvictions hforward hplace config

def checkedOnce : FallbackRun := FallbackRun.after {} (.check "key" {} 100 1000)

theorem tracking_invariant_checkedOnce :
    Tracked checkedOnce.limiter ∧
      (∀ apiKey now, checkedOnce.limiter.HasPlace apiKey → EvictionSpares checkedOnce.limiter apiKey now) ∧
      (∀ c, ¬Permitted checkedOnce c → ¬Tracked (checkedOnce.after c).limiter) ∧
      (fallbackMachine.Reach (fun s c => Permitted s c ∧ Forward s c) checkedOnce →
        ∀ apiKey config now, checkedOnce.limiter.HasPlace apiKey →
          (checkedOnce.limiter.afterEvictions apiKey now).view apiKey config now = checkedOnce.limiter.view apiKey config now) := by
  have hplace : Permitted {} (.check "key" {} 100 1000) := .inr (by decide)
  exact tracking_invariant (.next .init hplace rfl)

/-- A release of a key that was never checked: it has an entry and is not tracked. -/
theorem tracking_broken_by_release :
    (FallbackRun.after {} (.release "key")).limiter.data "key" = { concurrentRequests := some 0 } ∧
      (FallbackRun.after {} (.release "key")).limiter.keyOrder.keys = [] ∧
      ¬∀ s, fallbackMachine.Reach (fun _ _ => True) s → Tracked s.limiter := by
  have hdata : (FallbackRun.after {} (.release "key")).limiter.data "key" = { concurrentRequests := some 0 } := rfl
  refine ⟨hdata, rfl, fun hall => ?_⟩
  have htracked := hall _ (.next .init trivial rfl : fallbackMachine.Reach _ (FallbackRun.after {} (.release "key")))
  have hmem := htracked.ordered "key" (by rw [hdata]; decide)
  exact absurd hmem List.not_mem_nil

end Gatewayz.Limits.Fallback
