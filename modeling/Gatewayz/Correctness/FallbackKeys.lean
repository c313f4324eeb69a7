import Gatewayz.Limits.Fallback
import Mathlib.Data.List.TakeWhile

/-!
# `Correctness.FallbackKeys` — what the fallback limiter has of a key

The evictions of a call take all data of some keys and leave that of all others: of the expired ones, and of the surplus of the order of
use (`evictLeastRecent_eq`).

A check goes by its `view` of the key: the tokens after the refill, the windows after the cleanup, the requests in flight. An expired key
looks like a new one (`NotedBy.view_of_isExpired`).
-/

namespace Gatewayz.Limits.Fallback

open Exec

structure KeyData where
  requestWindow : Option (List ℚ) := none
  tokenWindow : Option (List (ℚ × ℤ)) := none
  concurrentRequests : Option ℕ := none
  burstTokens : Option ℤ := none
  lastBurstRefill : Option ℚ := none
  lastAccessed : Option ℚ := none
  deriving DecidableEq

namespace InMemoryRateLimiter

variable (s : InMemoryRateLimiter) (apiKey : String) (config : RateLimitConfig) (now : ℚ) (tokensUsed : ℤ)

def data : KeyData where
  requestWindow := s.requestWindows apiKey
  tokenWindow := s.tokenWindows apiKey
  concurrentRequests := s.concurrentRequests apiKey
  burstTokens := s.burstTokens apiKey
  lastBurstRefill := s.lastBurstRefill apiKey
  lastAccessed := s.keyLastAccessed apiKey

def isIdle : Bool := s.inFlight apiKey = 0

def surplus : List String := s.keyOrder.surplus s.isIdle maxFallbackKeys

variable {s apiKey now} {s' : InMemoryRateLimiter} {key : String} {p q : String → Bool}

theorem inFlight_eq : s.inFlight key = (s.data key).concurrentRequests.getD 0 := rfl

theorem inFlight_congr (h : s.data key = s'.data key) : s.inFlight key = s'.inFlight key := by
  rw [inFlight_eq, h, ← inFlight_eq]

theorem inFlight_of_empty (h : s.data key = {}) : s.inFlight key = 0 := by
  rw [inFlight_eq, h]
  rfl

/-! ## Evictions -/

theorem data_removeKeys : (s.removeKeys p).data key = if p key then {} else s.data key := by
  unfold removeKeys data
  dsimp only
  split <;> rfl

theorem removeKeys_removeKeys : (s.removeKeys p).removeKeys q = s.removeKeys fun key => p key || q key := by
  unfold removeKeys
  rw [mk.injEq]
  refine ⟨?_, ?_, ?_, ?_, ?_, OrderedKeys.removeAll_removeAll, ?_⟩
  all_goals
    funext key
    by_cases hp : p key = true <;> by_cases hq : q key = true <;> simp [hp, hq]

theorem removeKeys_eq_self (h : ∀ key, p key = false) : s.removeKeys p = s := by
  unfold removeKeys
  simp only [h, Bool.false_eq_true, if_false]
  rw [OrderedKeys.removeAll_eq_self fun key _ => h key]

theorem isIdle_removeKeys (h : ∀ key, p key = true → s.isIdle key = true) : (s.removeKeys p).isIdle = s.isIdle := by
  funext key
  cases hp : p key with
  | false =>
    have hdata : (s.removeKeys p).data key = s.data key := by
      rw [data_removeKeys, hp]
      rfl
    rw [isIdle, inFlight_congr hdata, isIdle]
  | true =>
    have hdata : (s.removeKeys p).data key = {} := by rw [data_removeKeys, hp, if_pos rfl]
    rw [h key hp, isIdle, inFlight_of_empty hdata]
    rfl

/-- The loop of the evictions removes the surplus. -/
theorem evictLeastRecent_eq (s : InMemoryRateLimiter) : s.evictLeastRecent = s.removeKeys fun key => decide (key ∈ s.surplus) := by
  fun_induction evictLeastRecent s with
  | case1 s hlt hnone =>
    have hempty : s.surplus = [] := OrderedKeys.surplus_of_busy hnone
    rw [hempty]
    exact (removeKeys_eq_self fun key => by simp).symm
  | case2 s hlt evicted hsome hdecreasing ih =>
    have hidle : s.isIdle evicted = true := (List.find?_eq_some_iff_append.mp hsome).1
    have hsame : (s.removeKeys fun key => key = evicted).isIdle = s.isIdle := by
      refine isIdle_removeKeys fun key hkey => ?_
      obtain rfl : key = evicted := of_decide_eq_true hkey
      exact hidle
    have hsurplus : s.surplus = evicted :: (s.removeKeys fun key => key = evicted).surplus := by
      rw [surplus, surplus, hsame]
      exact OrderedKeys.surplus_of_find hlt hsome
    have hkeys : ∀ key, (decide (key = evicted) || decide (key ∈ (s.removeKeys fun key => key = evicted).surplus)) =
        decide (key ∈ s.surplus) := by
      intro key
      rw [hsurplus, ← Bool.decide_or]
      exact decide_eq_decide.mpr List.mem_cons.symm
    rw [ih, removeKeys_removeKeys, funext hkeys]
  | case3 s hle =>
    have hempty : s.surplus = [] := OrderedKeys.surplus_of_le (not_lt.mp hle)
    rw [hempty]
    exact (removeKeys_eq_self fun key => by simp).symm

theorem isIdle_of_isExpired (h : s.isExpired key now = true) : s.isIdle key = true := ((Bool.and_eq_true _ _).mp h).2

theorem data_evictExpiredKeys : (s.evictExpiredKeys now).data key = if s.isExpired key now then {} else s.data key := data_removeKeys

theorem isIdle_evictExpiredKeys : (s.evictExpiredKeys now).isIdle = s.isIdle := isIdle_removeKeys fun _ => isIdle_of_isExpired

variable (s apiKey now)

def busyKeys : List String := s.keyOrder.keys.filter fun key => !s.isIdle key

def touchKey : InMemoryRateLimiter := { s with keyOrder := s.keyOrder.touch apiKey }

def afterEvictions : InMemoryRateLimiter := (s.evictExpiredKeys now).trackKey apiKey

def Displaced (key : String) : Prop := apiKey ∉ s.keyOrder.keys ∧ key ∈ (s.touchKey apiKey).surplus

/-- The key is evicted by a call. -/
def Evicted (key : String) : Prop := s.isExpired key now = true ∨ (s.evictExpiredKeys now).Displaced apiKey key

/-- The key of the call is evicted by it: it is new, and as many keys as there may be are busy. -/
def SelfEvicted : Prop :=
  (apiKey ∉ s.keyOrder.keys ∨ s.isExpired apiKey now = true) ∧ s.isIdle apiKey = true ∧ maxFallbackKeys ≤ s.busyKeys.length

variable {s apiKey now}

theorem busyKeys_evictExpiredKeys : (s.evictExpiredKeys now).busyKeys = s.busyKeys := by
  rw [busyKeys, busyKeys, isIdle_evictExpiredKeys]
  refine (List.filter_filter (l := s.keyOrder.keys)).trans (List.filter_congr fun key _ => ?_)
  cases hidle : s.isIdle key with
  | true => rfl
  | false =>
    have hlive : s.isExpired key now = false := Bool.eq_false_iff.mpr fun h => by
      rw [isIdle_of_isExpired h] at hidle
      cases hidle
    exact congrArg (fun b => !false && !b) hlive

theorem isIdle_of_displaced (h : s.Displaced apiKey key) : s.isIdle key = true := OrderedKeys.idle_of_mem_surplus h.2

theorem isIdle_of_evicted (h : s.Evicted apiKey now key) : s.isIdle key = true := by
  rcases h with hexpired | hdisplaced
  · exact isIdle_of_isExpired hexpired
  · rw [← isIdle_evictExpiredKeys]
    exact isIdle_of_displaced hdisplaced

theorem displaced_self_iff :
    s.Displaced apiKey apiKey ↔ apiKey ∉ s.keyOrder.keys ∧ s.isIdle apiKey = true ∧ maxFallbackKeys ≤ s.busyKeys.length :=
  and_congr_right fun hnew => OrderedKeys.mem_surplus_touch hnew

theorem selfEvicted_iff : s.SelfEvicted apiKey now ↔ (s.evictExpiredKeys now).Displaced apiKey apiKey := by
  have hmem : apiKey ∉ (s.evictExpiredKeys now).keyOrder.keys ↔ apiKey ∉ s.keyOrder.keys ∨ s.isExpired apiKey now = true := by
    rw [evictExpiredKeys, removeKeys, OrderedKeys.mem_removeAll, not_and_or, Bool.not_eq_false]
  rw [displaced_self_iff, isIdle_evictExpiredKeys, busyKeys_evictExpiredKeys, hmem, SelfEvicted]

theorem trackKey_of_notMem (h : apiKey ∉ s.keyOrder.keys) :
    s.trackKey apiKey = (s.touchKey apiKey).removeKeys fun key => decide (key ∈ (s.touchKey apiKey).surplus) := by
  rw [trackKey, if_neg h]
  exact evictLeastRecent_eq _

theorem data_trackKey_of_displaced (h : s.Displaced apiKey key) : (s.trackKey apiKey).data key = {} := by
  rw [trackKey_of_notMem h.1, data_removeKeys, if_pos (decide_eq_true h.2)]

theorem data_trackKey (h : ¬s.Displaced apiKey key) : (s.trackKey apiKey).data key = s.data key := by
  by_cases hmem : apiKey ∈ s.keyOrder.keys
  · rw [trackKey, if_pos hmem]
    rfl
  · have hkept : key ∉ (s.touchKey apiKey).surplus := fun hkey => h ⟨hmem, hkey⟩
    rw [trackKey_of_notMem hmem, data_removeKeys, decide_eq_false hkept, if_neg Bool.false_ne_true]
    rfl

theorem mem_trackKey : key ∈ (s.trackKey apiKey).keyOrder.keys ↔ (key ∈ s.keyOrder.keys ∨ key = apiKey) ∧ ¬s.Displaced apiKey key := by
  by_cases hmem : apiKey ∈ s.keyOrder.keys
  · have hnone : ¬s.Displaced apiKey key := fun h => h.1 hmem
    rw [trackKey, if_pos hmem, and_iff_left hnone]
    exact OrderedKeys.mem_touch
  · rw [trackKey_of_notMem hmem]
    refine OrderedKeys.mem_removeAll.trans (and_congr OrderedKeys.mem_touch ?_)
    rw [decide_eq_false_iff_not]
    exact not_congr (iff_and_self.mpr fun _ => hmem)

/-- What a call evicts loses all its data, and nothing else loses any. -/
theorem data_afterEvictions : (s.Evicted apiKey now key → (s.afterEvictions apiKey now).data key = {}) ∧
    (¬s.Evicted apiKey now key → (s.afterEvictions apiKey now).data key = s.data key) := by
  by_cases hdisplaced : (s.evictExpiredKeys now).Displaced apiKey key
  · exact ⟨fun _ => data_trackKey_of_displaced hdisplaced, fun h => absurd (.inr hdisplaced) h⟩
  · have hdata := (data_trackKey hdisplaced).trans data_evictExpiredKeys
    constructor
    · intro h
      rw [afterEvictions, hdata, if_pos (h.resolve_right hdisplaced)]
    · intro h
      rw [afterEvictions, hdata, if_neg fun hexpired => h (.inl hexpired)]

theorem mem_afterEvictions : key ∈ (s.afterEvictions apiKey now).keyOrder.keys ↔
      (key ∈ s.keyOrder.keys ∧ ¬s.Evicted apiKey now key) ∨ (key = apiKey ∧ ¬s.SelfEvicted apiKey now) := by
  have hmem : key ∈ (s.evictExpiredKeys now).keyOrder.keys ↔ key ∈ s.keyOrder.keys ∧ ¬s.isExpired key now = true := by
    rw [evictExpiredKeys, removeKeys, OrderedKeys.mem_removeAll, Bool.not_eq_true]
  rw [afterEvictions, mem_trackKey, hmem, or_and_right, and_assoc, Evicted, not_or]
  refine or_congr Iff.rfl (and_congr_right ?_)
  rintro rfl
  rw [selfEvicted_iff]

/-! ## The rest of a call -/

section Writes

variable {config : RateLimitConfig} {tokensUsed : ℤ}

def OnlyKey (apiKey : String) (s s' : InMemoryRateLimiter) : Prop :=
  s'.keyOrder = s.keyOrder ∧ ∀ key, key ≠ apiKey → s'.data key = s.data key

theorem OnlyKey.trans {s'' : InMemoryRateLimiter} (h : OnlyKey apiKey s s') (h' : OnlyKey apiKey s' s'') : OnlyKey apiKey s s'' :=
  ⟨h'.1.trans h.1, fun key hkey => (h'.2 key hkey).trans (h.2 key hkey)⟩

theorem onlyKey_noteKey : OnlyKey apiKey (s.afterEvictions apiKey now) (s.noteKey apiKey now) := by
  refine ⟨rfl, fun key hkey => ?_⟩
  unfold noteKey cleanupOldEntries data
  dsimp only
  rw [Function.update_of_ne hkey, Function.update_of_ne hkey, Function.update_of_ne hkey]
  rfl

theorem onlyKey_compare (s : InMemoryRateLimiter) (apiKey : String) (n : Option ℕ) :
    OnlyKey apiKey s { s with concurrentRequests := Function.update s.concurrentRequests apiKey n } := by
  refine ⟨rfl, fun key hkey => ?_⟩
  unfold data
  dsimp only
  rw [Function.update_of_ne hkey]

theorem onlyKey_checkBurstLimit (s : InMemoryRateLimiter) (apiKey : String) (config : RateLimitConfig) (now : ℚ) :
    OnlyKey apiKey s (s.checkBurstLimit apiKey config now).2 := by
  refine ⟨rfl, fun key hkey => ?_⟩
  unfold checkBurstLimit data
  dsimp only
  rw [Function.update_of_ne hkey, Function.update_of_ne hkey]

theorem onlyKey_count : OnlyKey apiKey s (s.count apiKey now tokensUsed) := by
  refine ⟨rfl, fun key hkey => ?_⟩
  unfold count data
  dsimp only
  rw [Function.update_of_ne hkey, Function.update_of_ne hkey, Function.update_of_ne hkey]

theorem onlyKey_runChecks : OnlyKey apiKey s (s.runChecks apiKey config now tokensUsed).2 := by
  have hcompare := onlyKey_compare s apiKey (some (s.inFlight apiKey))
  unfold runChecks
  dsimp only
  split
  · exact hcompare
  have hburst := hcompare.trans (onlyKey_checkBurstLimit _ apiKey config now)
  split
  · split
    · split
      · exact hburst.trans onlyKey_count
      · exact hburst
    · exact hburst
  · exact hburst

theorem onlyKey_checkRateLimit (s : InMemoryRateLimiter) (apiKey : String) (config : RateLimitConfig) (now : ℚ) (tokensUsed : ℤ) :
    OnlyKey apiKey (s.afterEvictions apiKey now) (s.checkRateLimit apiKey config now tokensUsed).2 :=
  onlyKey_noteKey.trans onlyKey_runChecks

theorem onlyKey_release (s : InMemoryRateLimiter) (apiKey : String) : OnlyKey apiKey s (s.releaseConcurrentRequest apiKey) :=
  onlyKey_compare s apiKey _

end Writes

/-! ## What a check sees of a key -/

/-- What the limits of a check go by: the tokens after the refill, the windows after the cleanup, the requests in flight. -/
structure KeyView where
  burstTokens : ℤ
  requests : List ℚ
  tokens : List (ℚ × ℤ)
  concurrent : ℕ

variable (s apiKey) in
def view (config : RateLimitConfig) (now : ℚ) : KeyView where
  burstTokens := ((s.burstBucket apiKey).refill config.burstLimit now).tokens
  requests := s.recentRequests apiKey now
  tokens := s.recentTokens apiKey now
  concurrent := s.inFlight apiKey

def newView (config : RateLimitConfig) (now : ℚ) : KeyView where
  burstTokens := (({} : BurstBucket).refill config.burstLimit now).tokens
  requests := []
  tokens := []
  concurrent := 0

theorem burstBucket_eq : s.burstBucket key = ⟨(s.data key).burstTokens.getD 0, (s.data key).lastBurstRefill.getD 0⟩ := rfl
theorem requestWindow_eq : s.requestWindow key = (s.data key).requestWindow.getD [] := rfl
theorem tokenWindow_eq : s.tokenWindow key = (s.data key).tokenWindow.getD [] := rfl

theorem view_congr (h : s.data key = s'.data key) (config : RateLimitConfig) (now : ℚ) :
    s.view key config now = s'.view key config now := by
  unfold view recentRequests recentTokens
  rw [burstBucket_eq, requestWindow_eq, tokenWindow_eq, inFlight_eq, h]
  rfl

theorem view_of_empty (h : s.data key = {}) (config : RateLimitConfig) (now : ℚ) : s.view key config now = newView config now := by
  unfold view recentRequests recentTokens
  rw [burstBucket_eq, requestWindow_eq, tokenWindow_eq, inFlight_eq, h]
  rfl

/-- Everything noted of the key is from `last` at the latest. -/
structure NotedBy (s : InMemoryRateLimiter) (key : String) (last : ℚ) : Prop where
  requests : ∀ t ∈ s.requestWindow key, t ≤ last
  tokens : ∀ e ∈ s.tokenWindow key, e.1 ≤ last
  nonneg : 0 ≤ (s.burstBucket key).tokens
  refilled : (s.burstBucket key).lastRefill ≤ last

theorem NotedBy.congr {last : ℚ} (h : NotedBy s key last) (hdata : s'.data key = s.data key) : NotedBy s' key last := by
  obtain ⟨hrequests, htokens, hnonneg, hrefilled⟩ := h
  refine ⟨?_, ?_, ?_, ?_⟩
  · rwa [requestWindow_eq, hdata]
  · rwa [tokenWindow_eq, hdata]
  all_goals rwa [burstBucket_eq, hdata]

theorem NotedBy.of_empty {last : ℚ} (hlast : 0 ≤ last) (hdata : s.data key = {}) : NotedBy s key last := by
  refine ⟨?_, ?_, ?_, ?_⟩
  · rw [requestWindow_eq, hdata]
    exact fun t ht => absurd ht List.not_mem_nil
  · rw [tokenWindow_eq, hdata]
    exact fun e he => absurd he List.not_mem_nil
  · rw [burstBucket_eq, hdata]
    exact le_refl _
  · rw [burstBucket_eq, hdata]
    exact hlast

theorem NotedBy.mono {last later : ℚ} (h : NotedBy s key last) (hle : last ≤ later) : NotedBy s key later :=
  ⟨fun t ht => (h.requests t ht).trans hle, fun e he => (h.tokens e he).trans hle, h.nonneg, h.refilled.trans hle⟩

end InMemoryRateLimiter

theorem int_nonneg {x : ℚ} (h : 0 ≤ x) : 0 ≤ int x := by
  rw [int, if_pos h]
  exact Int.floor_nonneg.mpr h

theorem refillAmount_nonneg (burstLimit : ℕ) {elapsed : ℚ} (h : 0 ≤ elapsed) : 0 ≤ BurstBucket.refillAmount burstLimit elapsed :=
  le_min (Int.natCast_nonneg _) (int_nonneg (div_nonneg (mul_nonneg h (Nat.cast_nonneg _)) (by norm_num)))

theorem refillAmount_of_minute (burstLimit : ℕ) {elapsed : ℚ} (h : 60 ≤ elapsed) :
    BurstBucket.refillAmount burstLimit elapsed = burstLimit := by
  have hlimit : (0 : ℚ) ≤ burstLimit := Nat.cast_nonneg _
  have hle : (burstLimit : ℚ) ≤ elapsed * burstLimit / 60 := by
    rw [le_div_iff₀ (by norm_num), mul_comm]
    exact mul_le_mul_of_nonneg_right h hlimit
  refine min_eq_left ?_
  rw [int, if_pos (hlimit.trans hle)]
  exact Int.le_floor.mpr (by exact_mod_cast hle)

namespace BurstBucket

variable {b : BurstBucket} {burstLimit : ℕ} {now : ℚ}

theorem refill_nonneg (h : 0 ≤ b.tokens) : 0 ≤ (b.refill burstLimit now).tokens := by
  unfold refill
  split
  · next hsecond =>
    exact le_min (Int.natCast_nonneg _) (add_nonneg h (refillAmount_nonneg burstLimit (zero_le_one.trans hsecond)))
  · exact h

theorem refill_lastRefill_le (h : b.lastRefill ≤ now) : (b.refill burstLimit now).lastRefill ≤ now := by
  unfold refill
  split
  · exact le_refl _
  · exact h

theorem refill_of_minute (hnonneg : 0 ≤ b.tokens) (h : 60 ≤ now - b.lastRefill) : (b.refill burstLimit now).tokens = burstLimit := by
  rw [refill, if_pos (by linarith), refillAmount_of_minute burstLimit h]
  exact min_eq_left (by omega)

theorem check_nonneg (h : 0 ≤ b.tokens) : 0 ≤ (b.check burstLimit now).2.tokens := by
  unfold check
  dsimp only
  split
  · next hpos => exact Int.sub_nonneg_of_le hpos
  · exact refill_nonneg h

theorem check_lastRefill : (b.check burstLimit now).2.lastRefill = (b.refill burstLimit now).lastRefill := by
  unfold check
  dsimp only
  split <;> rfl

theorem refill_of_recent (h : ¬1 ≤ now - b.lastRefill) : b.refill burstLimit now = b := if_neg h

theorem refill_recent : ¬1 ≤ now - (b.refill burstLimit now).lastRefill := by
  unfold refill
  split
  · change ¬1 ≤ now - now
    rw [sub_self]
    exact not_le.mpr zero_lt_one
  · next hrecent => exact hrecent

theorem refill_check : (b.check burstLimit now).2.refill burstLimit now = (b.check burstLimit now).2 :=
  refill_of_recent (by rw [check_lastRefill]; exact refill_recent)

theorem check_spec : (b.check burstLimit now).1 = decide (0 < (b.refill burstLimit now).tokens) ∧
    (b.check burstLimit now).2.tokens =
      (b.refill burstLimit now).tokens - if 0 < (b.refill burstLimit now).tokens then 1 else 0 := by
  unfold check
  dsimp only
  split_ifs with hpos
  · exact ⟨(decide_eq_true hpos).symm, rfl⟩
  · exact ⟨(decide_eq_false hpos).symm, (sub_zero _).symm⟩

end BurstBucket

namespace InMemoryRateLimiter

section Noted

variable {s s' : InMemoryRateLimiter} {apiKey : String} {config : RateLimitConfig} {now : ℚ} {tokensUsed : ℤ}

theorem requestWindow_noteKey : (s.noteKey apiKey now).requestWindow apiKey = (s.afterEvictions apiKey now).recentRequests apiKey now := by
  unfold requestWindow InMemoryRateLimiter.noteKey cleanupOldEntries
  dsimp only
  rw [Function.update_self]
  rfl

theorem tokenWindow_noteKey : (s.noteKey apiKey now).tokenWindow apiKey = (s.afterEvictions apiKey now).recentTokens apiKey now := by
  unfold tokenWindow InMemoryRateLimiter.noteKey cleanupOldEntries
  dsimp only
  rw [Function.update_self]
  rfl

theorem requestWindow_count : (s.count apiKey now tokensUsed).requestWindow apiKey = s.requestWindow apiKey ++ [now] := by
  unfold InMemoryRateLimiter.count requestWindow
  dsimp only
  rw [Function.update_self]
  rfl

theorem tokenWindow_count : (s.count apiKey now tokensUsed).tokenWindow apiKey = s.tokenWindow apiKey ++ [(now, tokensUsed)] := by
  unfold InMemoryRateLimiter.count tokenWindow
  dsimp only
  rw [Function.update_self]
  rfl

theorem NotedBy.noteKey (h : NotedBy (s.afterEvictions apiKey now) apiKey now) : NotedBy (s.noteKey apiKey now) apiKey now where
  requests t ht := by
    rw [requestWindow_noteKey] at ht
    exact h.requests t ((List.dropWhile_suffix _).subset ht)
  tokens e he := by
    rw [tokenWindow_noteKey] at he
    exact h.tokens e ((List.dropWhile_suffix _).subset he)
  nonneg := h.nonneg
  refilled := h.refilled

theorem burstBucket_checkBurstLimit (s : InMemoryRateLimiter) (apiKey : String) (config : RateLimitConfig) (now : ℚ) :
    (s.checkBurstLimit apiKey config now).2.burstBucket apiKey = ((s.burstBucket apiKey).check config.burstLimit now).2 := by
  unfold burstBucket checkBurstLimit
  dsimp only
  rw [Function.update_self, Function.update_self]
  rfl

theorem NotedBy.checkBurstLimit (config : RateLimitConfig) (h : NotedBy s apiKey now) :
    NotedBy (s.checkBurstLimit apiKey config now).2 apiKey now where
  requests := h.requests
  tokens := h.tokens
  nonneg := by
    rw [burstBucket_checkBurstLimit]
    exact BurstBucket.check_nonneg h.nonneg
  refilled := by
    rw [burstBucket_checkBurstLimit, BurstBucket.check_lastRefill]
    exact BurstBucket.refill_lastRefill_le h.refilled

theorem NotedBy.count (h : NotedBy s apiKey now) : NotedBy (s.count apiKey now tokensUsed) apiKey now where
  requests t ht := by
    rw [requestWindow_count, List.mem_append, List.mem_singleton] at ht
    exact ht.elim (h.requests t) fun heq => heq.le
  tokens e he := by
    rw [tokenWindow_count, List.mem_append, List.mem_singleton] at he
    exact he.elim (h.tokens e) fun heq => (congrArg Prod.fst heq).le
  nonneg := h.nonneg
  refilled := h.refilled

theorem NotedBy.runChecks (h : NotedBy s apiKey now) : NotedBy (s.runChecks apiKey config now tokensUsed).2 apiKey now := by
  have hcompare : NotedBy { s with concurrentRequests := Function.update s.concurrentRequests apiKey (some (s.inFlight apiKey)) } apiKey
      now := ⟨h.requests, h.tokens, h.nonneg, h.refilled⟩
  unfold InMemoryRateLimiter.runChecks
  dsimp only
  split
  · exact hcompare
  have hburst := NotedBy.checkBurstLimit config hcompare
  split
  · split
    · split
      · exact hburst.count
      · exact hburst
    · exact hburst
  · exact hburst

theorem NotedBy.checkRateLimit (h : NotedBy (s.afterEvictions apiKey now) apiKey now) :
    NotedBy (s.checkRateLimit apiKey config now tokensUsed).2 apiKey now := h.noteKey.runChecks

theorem keyLastAccessed_checkRateLimit (s : InMemoryRateLimiter) (apiKey : String) (config : RateLimitConfig) (now : ℚ)
    (tokensUsed : ℤ) : (s.checkRateLimit apiKey config now tokensUsed).2.keyLastAccessed apiKey = some now := by
  have hchecks : (s.checkRateLimit apiKey config now tokensUsed).2.keyLastAccessed = (s.noteKey apiKey now).keyLastAccessed := by
    unfold checkRateLimit runChecks
    dsimp only
    split_ifs <;> rfl
  rw [hchecks]
  exact Function.update_self ..

/-- An expired key is as good as a new one: its windows have passed, and its bucket is full. -/
theorem NotedBy.view_of_isExpired {last : ℚ} (h : NotedBy s apiKey last) (hlast : s.keyLastAccessed apiKey = some last)
    (hnonneg : 0 ≤ last) (hexpired : s.isExpired apiKey now = true) (config : RateLimitConfig) :
    s.view apiKey config now = newView config now := by
  have hlate : last + 900 < now := by
    have hany := ((Bool.and_eq_true _ _).mp hexpired).1
    rw [hlast, Option.any_some, decide_eq_true_eq, fallbackTtlSeconds] at hany
    linarith
  have hidle : s.inFlight apiKey = 0 := of_decide_eq_true (isIdle_of_isExpired hexpired)
  have hrequests : s.recentRequests apiKey now = [] := by
    refine List.dropWhile_eq_nil_iff.mpr fun t ht => decide_eq_true ?_
    have := h.requests t ht
    linarith
  have htokens : s.recentTokens apiKey now = [] := by
    refine List.dropWhile_eq_nil_iff.mpr fun e he => decide_eq_true ?_
    have := h.tokens e he
    linarith
  have hfull : ((s.burstBucket apiKey).refill config.burstLimit now).tokens = config.burstLimit := by
    have := h.refilled
    exact BurstBucket.refill_of_minute h.nonneg (by linarith)
  have hnew : (({} : BurstBucket).refill config.burstLimit now).tokens = config.burstLimit :=
    BurstBucket.refill_of_minute (le_refl _) (by change 60 ≤ now - 0; linarith)
  rw [view, newView, hrequests, htokens, hidle, hfull, hnew]

end Noted

end InMemoryRateLimiter

end Gatewayz.Limits.Fallback
