import Gatewayz.Correctness.WindowLimits
import Gatewayz.Limits.RateLimitManager

/-!
# `Correctness.ManagerLimits` — what the manager lets through

Behind the manager the limiter counts, and keeps its limits (`ManagerHolds`). But what the manager remembers it answers by itself:
such a request is not counted, takes no slot, and yet gives one back when it is done. So the limits hold in the runs in which
nothing is answered from memory.
-/

namespace Gatewayz.Limits

open Exec

/-! ## Runs -/

/-- A request asks, and, if it was let through, leaves. -/
inductive ManagerEvent where
  | check (apiKey : String) (tokensUsed : ℕ) (now : ℚ)
  | release (apiKey : String)

/-- The manager, the time, what was let through so far, and what has not left yet. -/
structure ManagerRun where
  manager : RateLimitManager := {}
  now : ℚ := 0
  admitted : String → Admitted := fun _ => {}
  held : String → ℕ := fun _ => 0

def ManagerRun.check (stored : String → RateLimitConfig) (s : ManagerRun) (c : WindowCall) : ManagerRun × Bool :=
  let (result, manager) := s.manager.checkRateLimit stored .ordinary c.apiKey c.tokensUsed true true c.now
  (⟨manager, c.now, Function.update s.admitted c.apiKey ((s.admitted c.apiKey).add c result.allowed),
      if result.allowed then Function.update s.held c.apiKey (s.held c.apiKey + 1) else s.held⟩,
    result.allowed)

def ManagerRun.leave (s : ManagerRun) (apiKey : String) : ManagerRun :=
  { s with manager := s.manager.releaseConcurrency apiKey, held := Function.update s.held apiKey (s.held apiKey - 1) }

/-- Requests of all keys, in any order. -/
def managerMachine (stored : String → RateLimitConfig) : Machine ManagerRun ManagerEvent Bool where
  init := {}
  step := fun s e =>
    match e with
    | .check apiKey tokensUsed now => if s.now ≤ now then some (s.check stored ⟨apiKey, tokensUsed, true, now⟩) else none
    | .release apiKey => if 0 < s.held apiKey then some (s.leave apiKey, true) else none

/-! ## Conditions -/

/-- Not from memory: a check of the key goes to the limiter. -/
def Asked (apiKey : String) (s : ManagerRun) : ManagerEvent → Prop
  | .check k tokensUsed now => k = apiKey → s.manager.cached (RateLimitManager.cacheKey k tokensUsed) now = none
  | .release _ => True

/-- The deque reaches back over a minute: what it has dropped is older. -/
def LooksBack (stored : String → RateLimitConfig) (apiKey : String) (s : ManagerRun) : ManagerEvent → Prop
  | .check k _ now => k = apiKey →
      ∀ e ∈ (s.admitted k).requests, now - 60 < e.1 → now - (stored k).windowSizeSeconds ≤ e.1
  | .release _ => True

theorem looksBack_of_minute {stored : String → RateLimitConfig} {apiKey : String} (h : 60 ≤ (stored apiKey).windowSizeSeconds)
    (s : ManagerRun) (e : ManagerEvent) : LooksBack stored apiKey s e := by
  cases e with
  | release _ => trivial
  | check k tokensUsed now =>
    rintro rfl e - hyoung
    have hlong : (60 : ℚ) ≤ (stored k).windowSizeSeconds := by exact_mod_cast h
    linarith

/-! ## The limiter -/

/-- What a check does to the limiter: it is refused before the windows, by the windows, or takes a slot and is counted. -/
inductive Checked (config : RateLimitConfig) (s : Limiter) (c : WindowCall) : Bool → Limiter → Prop where
  | early {s' : Limiter} : s'.redisClient = none → s'.concurrentRequests = s.concurrentRequests → s'.localCache = s.localCache →
      Checked config s c false s'
  | refused {s' : Limiter} : s'.redisClient = none → s'.concurrentRequests = s.concurrentRequests →
      (localWindow config c.tokensUsed c.countRequest c.now (s.localCache c.apiKey)).1.allowed = false →
      s'.localCache = Function.update s.localCache c.apiKey
        (localWindow config c.tokensUsed c.countRequest c.now (s.localCache c.apiKey)).2 →
      Checked config s c false s'
  | allowed {s' : Limiter} : s'.redisClient = none → s.concurrentRequests c.apiKey < config.concurrencyLimit →
      s'.concurrentRequests = Function.update s.concurrentRequests c.apiKey (s.concurrentRequests c.apiKey + 1) →
      (localWindow config c.tokensUsed c.countRequest c.now (s.localCache c.apiKey)).1.allowed = true →
      s'.localCache = Function.update s.localCache c.apiKey
        (localWindow config c.tokensUsed c.countRequest c.now (s.localCache c.apiKey)).2 →
      Checked config s c true s'

theorem Limiter.checked (config : RateLimitConfig) {s : Limiter} (hclient : s.redisClient = none) (c : WindowCall) :
    Checked config s c (s.checkRateLimit config c.apiKey c.tokensUsed true c.countRequest c.now).1.allowed
      (s.checkRateLimit config c.apiKey c.tokensUsed true c.countRequest c.now).2 := by
  obtain ⟨client, concurrentRequests, bursts, localCache⟩ := s
  obtain rfl : client = none := hclient
  unfold Limiter.checkRateLimit Limiter.checkConcurrencyLimit Limiter.checkBurstLimit Limiter.checkSlidingWindow
  dsimp only
  by_cases hslots : config.concurrencyLimit ≤ concurrentRequests c.apiKey
  · rw [if_pos hslots]
    exact .early rfl rfl rfl
  · rw [if_neg hslots, if_pos rfl]
    cases hburst : (localBurst config c.countRequest c.now (bursts c.apiKey)).1.allowed with
    | false => exact .early rfl rfl rfl
    | true =>
      rw [if_pos rfl]
      cases hwindow : (localWindow config c.tokensUsed c.countRequest c.now (localCache c.apiKey)).1.allowed with
      | false => exact .refused rfl rfl hwindow rfl
      | true => exact .allowed rfl (not_le.mp hslots) rfl hwindow rfl

theorem Checked.other {config : RateLimitConfig} {s s' : Limiter} {c : WindowCall} {allowed : Bool} (h : Checked config s c allowed s')
    {k : String} (hk : k ≠ c.apiKey) :
    s'.redisClient = none ∧ s'.concurrentRequests k = s.concurrentRequests k ∧ s'.localCache k = s.localCache k := by
  cases h with
  | early hclient hslots hcache => exact ⟨hclient, by rw [hslots], by rw [hcache]⟩
  | refused hclient hslots hwindow hcache => exact ⟨hclient, by rw [hslots], by rw [hcache, Function.update_of_ne hk]⟩
  | allowed hclient hroom hslots hwindow hcache =>
    exact ⟨hclient, by rw [hslots, Function.update_of_ne hk], by rw [hcache, Function.update_of_ne hk]⟩

/-! ## The manager -/

section Manager

variable {stored : String → RateLimitConfig} {m : RateLimitManager}

def ConfigsStored (stored : String → RateLimitConfig) (m : RateLimitManager) : Prop :=
  ∀ k config, m.keyConfigs k = some config → config = stored k

theorem getKeyConfig_stored (h : ConfigsStored stored m) (apiKey : String) :
    (m.getKeyConfig stored apiKey).1 = stored apiKey ∧ ConfigsStored stored (m.getKeyConfig stored apiKey).2 ∧
      (m.getKeyConfig stored apiKey).2.rateLimiter = m.rateLimiter := by
  unfold RateLimitManager.getKeyConfig
  cases hconfig : m.keyConfigs apiKey with
  | some config => exact ⟨h apiKey config hconfig, h, rfl⟩
  | none =>
    refine ⟨rfl, fun k config hk => ?_, rfl⟩
    dsimp only at hk
    by_cases hkey : k = apiKey
    · subst hkey
      rw [Function.update_self] at hk
      exact (Option.some.inj hk).symm
    · rw [Function.update_of_ne hkey] at hk
      exact h k config hk

@[simp] theorem remember_rateLimiter (key : String) (result : RateLimitResult) (now : ℚ) :
    (m.remember key result now).rateLimiter = m.rateLimiter := by
  unfold RateLimitManager.remember
  dsimp only
  split <;> rfl

@[simp] theorem remember_keyConfigs (key : String) (result : RateLimitResult) (now : ℚ) :
    (m.remember key result now).keyConfigs = m.keyConfigs := by
  unfold RateLimitManager.remember
  dsimp only
  split <;> rfl

theorem pastCache_checked (hclient : m.rateLimiter.redisClient = none) (h : ConfigsStored stored m) (c : WindowCall) :
    Checked (stored c.apiKey) m.rateLimiter c (m.pastCache stored .ordinary c.apiKey c.tokensUsed true c.countRequest c.now).1.allowed
        (m.pastCache stored .ordinary c.apiKey c.tokensUsed true c.countRequest c.now).2.rateLimiter ∧
      ConfigsStored stored (m.pastCache stored .ordinary c.apiKey c.tokensUsed true c.countRequest c.now).2 := by
  obtain ⟨hconfig, hstored, hlimiter⟩ := getKeyConfig_stored h c.apiKey
  have hchecked := Limiter.checked (stored c.apiKey) hclient c
  unfold RateLimitManager.pastCache RateLimitManager.ask
  rw [if_neg (by nofun)]
  dsimp only [Account.severeConfig]
  rw [hconfig, hlimiter]
  split
  · refine ⟨?_, fun k config hk => hstored k config ?_⟩
    · rw [remember_rateLimiter]
      exact hchecked
    · rw [remember_keyConfigs] at hk
      exact hk
  · exact ⟨hchecked, hstored⟩

/-- A check goes to the limiter, or is answered from memory. -/
theorem checkRateLimit_cases (hclient : m.rateLimiter.redisClient = none) (h : ConfigsStored stored m) (apiKey : String)
    (tokensUsed : ℕ) (now : ℚ) : (∃ result, m.cached (RateLimitManager.cacheKey apiKey tokensUsed) now = some result ∧
        m.checkRateLimit stored .ordinary apiKey tokensUsed true true now = (result, m)) ∨
      m.cached (RateLimitManager.cacheKey apiKey tokensUsed) now = none ∧
        Checked (stored apiKey) m.rateLimiter ⟨apiKey, tokensUsed, true, now⟩
          (m.checkRateLimit stored .ordinary apiKey tokensUsed true true now).1.allowed
          (m.checkRateLimit stored .ordinary apiKey tokensUsed true true now).2.rateLimiter ∧
        ConfigsStored stored (m.checkRateLimit stored .ordinary apiKey tokensUsed true true now).2 := by
  unfold RateLimitManager.checkRateLimit
  rw [Bool.and_self, if_pos rfl]
  cases hcached : m.cached (RateLimitManager.cacheKey apiKey tokensUsed) now with
  | some result => exact .inl ⟨result, rfl, rfl⟩
  | none =>
    right
    exact ⟨rfl, pastCache_checked (m := { m with resultCache := Dictionary.pop m.resultCache _ }) hclient h
      ⟨apiKey, tokensUsed, true, now⟩⟩

end Manager

/-! ## The limits -/

variable {now : ℚ}

section Limits

variable {stored : String → RateLimitConfig} {apiKey : String} {s : ManagerRun}

/-- The limiter has what was let through: its deque the requests, its counter those that have not left. -/
structure ManagerHolds (stored : String → RateLimitConfig) (apiKey : String) (s : ManagerRun) : Prop where
  client : s.manager.rateLimiter.redisClient = none
  configs : ConfigsStored stored s.manager
  window : LocalHolds (stored apiKey) s.now (s.manager.rateLimiter.localCache apiKey) (s.admitted apiKey)
  slots : s.manager.rateLimiter.concurrentRequests apiKey = s.held apiKey
  bound : s.held apiKey ≤ (stored apiKey).concurrencyLimit

variable {tokensUsed : ℕ}

theorem ManagerHolds.check_self (h : ManagerHolds stored apiKey s) (hlater : s.now ≤ now)
    (hasked : s.manager.cached (RateLimitManager.cacheKey apiKey tokensUsed) now = none) :
    ManagerHolds stored apiKey (s.check stored ⟨apiKey, tokensUsed, true, now⟩).1 := by
  obtain ⟨result, hcached, -⟩ | ⟨-, hchecked, hconfigs⟩ := checkRateLimit_cases h.client h.configs apiKey tokensUsed now
  · rw [hasked] at hcached
    cases hcached
  have hwindow := h.window.step ⟨apiKey, tokensUsed, true, now⟩ hlater
  unfold ManagerRun.check
  generalize s.manager.checkRateLimit stored .ordinary apiKey tokensUsed true true now = answer at hchecked hconfigs
  obtain ⟨result, ⟨limiter, configs, cache⟩⟩ := answer
  dsimp only at hchecked hconfigs ⊢
  generalize result.allowed = allowed at hchecked
  cases hchecked with
  | early hclient hslots hcache =>
    refine ⟨hclient, hconfigs, ?_, ?_, h.bound⟩
    · dsimp only
      rw [hcache, Function.update_self]
      exact h.window.later hlater
    · dsimp only
      rw [hslots]
      exact h.slots
  | refused hclient hslots hrefused hcache =>
    refine ⟨hclient, hconfigs, ?_, ?_, h.bound⟩
    · dsimp only
      rw [hcache, Function.update_self, Function.update_self]
      dsimp only at hrefused
      rwa [hrefused] at hwindow
    · dsimp only
      rw [hslots]
      exact h.slots
  | allowed hclient hroom hslots hallowed hcache =>
    dsimp only at hroom hslots hallowed
    refine ⟨hclient, hconfigs, ?_, ?_, ?_⟩
    · dsimp only
      rw [hcache, Function.update_self, Function.update_self]
      rwa [hallowed] at hwindow
    · dsimp only
      rw [hslots, if_pos rfl, Function.update_self, Function.update_self, h.slots]
    · dsimp only
      rw [if_pos rfl, Function.update_self]
      rw [h.slots] at hroom
      omega

theorem ManagerHolds.minute_check (h : ManagerHolds stored apiKey s) (hlater : s.now ≤ now)
    (hasked : s.manager.cached (RateLimitManager.cacheKey apiKey tokensUsed) now = none)
    (hback : ∀ e ∈ (s.admitted apiKey).requests, now - 60 < e.1 → now - (stored apiKey).windowSizeSeconds ≤ e.1)
    {start : ℚ}
    (hminute : weight (s.admitted apiKey).requests (fun t => start ≤ t ∧ t < start + 60) ≤ (stored apiKey).requestsPerMinute) :
    weight ((s.check stored ⟨apiKey, tokensUsed, true, now⟩).1.admitted apiKey).requests (fun t => start ≤ t ∧ t < start + 60) ≤
      (stored apiKey).requestsPerMinute := by
  obtain ⟨result, hcached, -⟩ | ⟨-, hchecked, -⟩ := checkRateLimit_cases h.client h.configs apiKey tokensUsed now
  · rw [hasked] at hcached
    cases hcached
  unfold ManagerRun.check
  dsimp only
  rw [Function.update_self]
  generalize (s.manager.checkRateLimit stored .ordinary apiKey tokensUsed true true now).1.allowed = allowed at hchecked ⊢
  cases hchecked with
  | early => exact hminute
  | refused => exact hminute
  | allowed hclient hslots hroom hallowed hcache =>
    show weight ((s.admitted apiKey).requests ++ [(now, 1)]) _ ≤ _
    rw [weight_append, weight_singleton]
    by_cases hin : start ≤ now ∧ now < start + 60
    · rw [if_pos hin]
      have hdeque : weight (s.admitted apiKey).requests (fun t => start ≤ t ∧ t < start + 60) ≤
          weight (s.admitted apiKey).requests (fun t => now - (stored apiKey).windowSizeSeconds ≤ t) := by
        refine weight_mono fun e he hminute => hback e he ?_
        linarith [hin.2, hminute.1]
      have hcount := (h.window.clean hlater).requests_le
      have hfree := requests_lt_of_allowed hallowed
      dsimp only at hfree
      omega
    · rw [if_neg hin]
      exact hminute

theorem ManagerHolds.check_other (h : ManagerHolds stored apiKey s) {k : String} (hk : apiKey ≠ k)
    (hlater : s.now ≤ now) : ManagerHolds stored apiKey (s.check stored ⟨k, tokensUsed, true, now⟩).1 := by
  have hheld : ∀ allowed : Bool, (if allowed = true then Function.update s.held k (s.held k + 1) else s.held) apiKey = s.held apiKey := by
    intro allowed
    cases allowed with
    | false => rfl
    | true => exact Function.update_of_ne hk _ _
  unfold ManagerRun.check
  dsimp only
  obtain ⟨result, -, hremembered⟩ | ⟨-, hchecked, hconfigs⟩ := checkRateLimit_cases h.client h.configs k tokensUsed now
  · rw [hremembered]
    refine ⟨h.client, h.configs, ?_, ?_, ?_⟩
    · dsimp only
      rw [Function.update_of_ne hk]
      exact h.window.later hlater
    · dsimp only
      rw [hheld]
      exact h.slots
    · dsimp only
      rw [hheld]
      exact h.bound
  · obtain ⟨hclient, hslots, hcache⟩ := hchecked.other hk
    refine ⟨hclient, hconfigs, ?_, ?_, ?_⟩
    · dsimp only
      rw [Function.update_of_ne hk, hcache]
      exact h.window.later hlater
    · dsimp only
      rw [hheld, hslots]
      exact h.slots
    · dsimp only
      rw [hheld]
      exact h.bound

theorem ManagerHolds.leave (h : ManagerHolds stored apiKey s) (k : String) : ManagerHolds stored apiKey (s.leave k) := by
  refine ⟨h.client, h.configs, h.window, ?_, ?_⟩
  · show Function.update s.manager.rateLimiter.concurrentRequests k _ apiKey = Function.update s.held k _ apiKey
    by_cases hk : apiKey = k
    · subst hk
      rw [Function.update_self, Function.update_self, h.slots]
    · rw [Function.update_of_ne hk, Function.update_of_ne hk, h.slots]
  · show Function.update s.held k _ apiKey ≤ _
    have hbound := h.bound
    by_cases hk : apiKey = k
    · subst hk
      rw [Function.update_self]
      omega
    · rw [Function.update_of_ne hk]
      exact hbound

theorem managerMachine_cases {s' : ManagerRun} {e : ManagerEvent} {allowed : Bool}
    (h : (managerMachine stored).step s e = some (s', allowed)) :
    (∃ k tokensUsed now, e = .check k tokensUsed now ∧ s.now ≤ now ∧ s' = (s.check stored ⟨k, tokensUsed, true, now⟩).1) ∨
      ∃ k, e = .release k ∧ 0 < s.held k ∧ s' = s.leave k := by
  cases e with
  | check k tokensUsed now =>
    change (if s.now ≤ now then some (s.check stored ⟨k, tokensUsed, true, now⟩) else none) = some (s', allowed) at h
    by_cases hlater : s.now ≤ now
    · rw [if_pos hlater] at h
      exact .inl ⟨k, tokensUsed, now, rfl, hlater, (congrArg Prod.fst (Option.some.inj h)).symm⟩
    · rw [if_neg hlater] at h
      cases h
  | release k =>
    change (if 0 < s.held k then some (s.leave k, true) else none) = some (s', allowed) at h
    by_cases hheld : 0 < s.held k
    · rw [if_pos hheld] at h
      exact .inr ⟨k, rfl, hheld, (congrArg Prod.fst (Option.some.inj h)).symm⟩
    · rw [if_neg hheld] at h
      cases h

/-- In every run whose checks reach the limiter. -/
theorem managerHolds_of_reach (h : (managerMachine stored).Reach (Asked apiKey) s) : ManagerHolds stored apiKey s := by
  have hinit : ManagerHolds stored apiKey (managerMachine stored).init := {
    client := rfl
    configs := nofun
    window := localHolds_init
    slots := rfl
    bound := Nat.zero_le _ }
  refine Machine.reach_invariant hinit ?_ h
  intro s e s' allowed hholds hasked hstep
  obtain ⟨k, tokensUsed, now, rfl, hlater, rfl⟩ | ⟨k, rfl, -, rfl⟩ := managerMachine_cases hstep
  · by_cases hk : apiKey = k
    · subst hk
      exact hholds.check_self hlater (hasked rfl)
    · exact hholds.check_other hk hlater
  · exact hholds.leave k

/-- No minute is overfull: what the deque has dropped is older than the window. -/
theorem minute_of_reach (h : (managerMachine stored).Reach (fun s e => Asked apiKey s e ∧ LooksBack stored apiKey s e) s) (start : ℚ) :
    weight (s.admitted apiKey).requests (fun t => start ≤ t ∧ t < start + 60) ≤ (stored apiKey).requestsPerMinute := by
  induction h with
  | init => exact Nat.zero_le _
  | @next s s' e allowed hs hok hstep ih =>
    have hholds := managerHolds_of_reach (Machine.reach_mono (fun s e hok => hok.1) hs)
    obtain ⟨k, tokensUsed, now, rfl, hlater, rfl⟩ | ⟨k, rfl, -, rfl⟩ := managerMachine_cases hstep
    · by_cases hk : apiKey = k
      · subst hk
        obtain ⟨hasked, hback⟩ := hok
        exact hholds.minute_check hlater (hasked rfl) (hback rfl) ih
      · unfold ManagerRun.check
        dsimp only
        rw [Function.update_of_ne hk]
        exact ih
    · exact ih

end Limits

theorem managerReach_check {stored : String → RateLimitConfig} {ok : ManagerRun → ManagerEvent → Prop} {s : ManagerRun}
    (hs : (managerMachine stored).Reach ok s) (apiKey : String) (tokensUsed : ℕ)
    (hlater : s.now ≤ now) (hok : ok s (.check apiKey tokensUsed now)) :
    (managerMachine stored).Reach ok (s.check stored ⟨apiKey, tokensUsed, true, now⟩).1 := by
  refine .next (e := .check apiKey tokensUsed now) (o := (s.check stored ⟨apiKey, tokensUsed, true, now⟩).2) hs hok ?_
  show (if s.now ≤ now then some (s.check stored ⟨apiKey, tokensUsed, true, now⟩) else none) = _
  rw [if_pos hlater]

/-- **The manager keeps its limits** where nothing is answered from memory: no more requests in a minute than there may be, if the
    deque reaches back as far; and no more at once. -/
theorem manager_limits (stored : String → RateLimitConfig) (apiKey : String) :
    (∀ s, (managerMachine stored).Reach (fun s e => Asked apiKey s e ∧ LooksBack stored apiKey s e) s →
        ∀ start, weight (s.admitted apiKey).requests (fun t => start ≤ t ∧ t < start + 60) ≤ (stored apiKey).requestsPerMinute) ∧
      ∀ s, (managerMachine stored).Reach (Asked apiKey) s → s.held apiKey ≤ (stored apiKey).concurrencyLimit :=
  ⟨fun _ hs start => minute_of_reach hs start, fun _ hs => (managerHolds_of_reach hs).bound⟩

def oneAtOnce : RateLimitConfig := { requestsPerMinute := 1, concurrencyLimit := 1 }

theorem manager_limits_first :
    ∃ s : ManagerRun, s.held "k" = 1 ∧ s.held "k" ≤ oneAtOnce.concurrencyLimit ∧
      ∀ start, weight (s.admitted "k").requests (fun t => start ≤ t ∧ t < start + 60) ≤ oneAtOnce.requestsPerMinute := by
  have hfirst : (managerMachine fun _ => oneAtOnce).Reach (fun s e => Asked "k" s e ∧ LooksBack (fun _ => oneAtOnce) "k" s e) _ :=
    managerReach_check .init "k" 0 (le_refl (0 : ℚ)) ⟨fun _ => rfl, looksBack_of_minute (by decide) _ _⟩
  exact ⟨_, by decide +kernel, (manager_limits (fun _ => oneAtOnce) "k").2 _ (Machine.reach_mono (fun s e hok => hok.1) hfirst),
    (manager_limits (fun _ => oneAtOnce) "k").1 _ hfirst⟩

/-- **From memory, all may pass**: two requests within a second, at once. -/
theorem remembered_not_counted :
    ∃ s, (managerMachine fun _ => oneAtOnce).Reach (fun _ _ => True) s ∧
      ¬ weight (s.admitted "k").requests (fun t => 0 ≤ t ∧ t < 0 + 60) ≤ oneAtOnce.requestsPerMinute ∧
      ¬ s.held "k" ≤ oneAtOnce.concurrencyLimit := by
  have hfirst : (managerMachine fun _ => oneAtOnce).Reach (fun _ _ => True) _ :=
    managerReach_check .init "k" 0 (le_refl (0 : ℚ)) trivial
  have hlater : (0 : ℚ) ≤ 1 := by norm_num
  have hsecond := managerReach_check hfirst "k" 0 hlater trivial
  exact ⟨_, hsecond, by decide +kernel, by decide +kernel⟩

end Gatewayz.Limits
