import Gatewayz.Correctness.FallbackKeys
import Mathlib.Data.List.DropRight

/-!
# `Correctness.RefusedKeepsQuota` — what a refused check consumes

Both limiters take a token from the bucket of a key when the bucket's check passes, and go on to the windows. If these refuse, the token
is gone (`Spends`). A refusal for the requests in flight or by the bucket itself leaves what the key had.

The fallback limiter evicts first. An eviction may also take what the checked key had; then it is checked like a new one.
-/

namespace Gatewayz.Limits

/-! ## In the process -/

def bucketTokens (config : RateLimitConfig) (now : ℚ) (stored : Option Bucket) : ℚ :=
  refilled config ((stored.map Bucket.tokens).getD config.burstLimit) ((stored.map Bucket.lastRefill).getD now) now

/-- What is there of a key: the tokens after the refill, the windows after the cleanup, the requests in flight. -/
structure LocalView where
  burstTokens : ℚ
  window : Window
  concurrent : ℕ

namespace LocalView

variable (v : LocalView) (config : RateLimitConfig) (tokensUsed : ℕ)

def WindowRefuses : Prop :=
  config.requestsPerMinute ≤ v.window.requests.length ∨ config.tokensPerMinute < (v.window.tokens.map Prod.snd).sum + tokensUsed

/-- A token is spent on a refusal: the bucket has one, and a window refuses. -/
def Spends : Prop := v.concurrent < config.concurrencyLimit ∧ 1 ≤ v.burstTokens ∧ v.WindowRefuses config tokensUsed

end LocalView

theorem localBurst_spec (config : RateLimitConfig) (consume : Bool) (now : ℚ) (stored : Option Bucket) :
    (localBurst config consume now stored).1.allowed = decide (1 ≤ bucketTokens config now stored) ∧
      (localBurst config consume now stored).2 =
        some ⟨bucketTokens config now stored - if 1 ≤ bucketTokens config now stored ∧ consume = true then 1 else 0, now⟩ := by
  unfold localBurst
  dsimp only
  rw [← bucketTokens]
  by_cases hone : 1 ≤ bucketTokens config now stored
  · rw [if_pos hone]
    cases consume with
    | false => exact ⟨(decide_eq_true hone).symm, by simp⟩
    | true => exact ⟨(decide_eq_true hone).symm, by simp [hone]⟩
  · rw [if_neg hone]
    exact ⟨(decide_eq_false hone).symm, by rw [if_neg fun hand => hone hand.1, sub_zero]⟩

theorem clean_clean (w : Window) (t : ℚ) : (w.clean t).clean t = w.clean t := by
  unfold Window.clean
  rw [Window.mk.injEq]
  exact ⟨List.dropWhile_idempotent _ _, List.dropWhile_idempotent _ _⟩

namespace Limiter

def localView (s : Limiter) (config : RateLimitConfig) (apiKey : String) (now : ℚ) : LocalView where
  burstTokens := bucketTokens config now (s.bursts apiKey)
  window := (s.localCache apiKey).clean (now - config.windowSizeSeconds)
  concurrent := s.concurrentRequests apiKey

variable {s : Limiter} {config : RateLimitConfig} {apiKey : String} {now : ℚ} {tokensUsed : ℕ} {acquireConcurrency countRequest : Bool}

theorem checkBurstLimit_local (hclient : s.redisClient = none) (consume : Bool) :
    s.checkBurstLimit config apiKey consume now =
      ((localBurst config consume now (s.bursts apiKey)).1,
        { s with bursts := Function.update s.bursts apiKey (localBurst config consume now (s.bursts apiKey)).2 }) := by
  unfold checkBurstLimit
  rw [hclient]

theorem checkSlidingWindow_local (hclient : s.redisClient = none) :
    ((s.checkSlidingWindow config apiKey tokensUsed countRequest now).1.allowed = false ↔
      (s.localView config apiKey now).WindowRefuses config tokensUsed) ∧
      ((s.localView config apiKey now).WindowRefuses config tokensUsed →
        (s.checkSlidingWindow config apiKey tokensUsed countRequest now).2 =
          { s with localCache := Function.update s.localCache apiKey (s.localView config apiKey now).window }) := by
  unfold checkSlidingWindow localWindow LocalView.WindowRefuses localView
  rw [hclient]
  dsimp only
  by_cases hrequests : config.requestsPerMinute ≤ ((s.localCache apiKey).clean (now - config.windowSizeSeconds)).requests.length
  · rw [if_pos hrequests]
    exact ⟨iff_of_true rfl (.inl hrequests), fun _ => rfl⟩
  rw [if_neg hrequests]
  by_cases htokens :
      config.tokensPerMinute < (((s.localCache apiKey).clean (now - config.windowSizeSeconds)).tokens.map Prod.snd).sum + tokensUsed
  · rw [if_pos htokens]
    exact ⟨iff_of_true rfl (.inr htokens), fun _ => rfl⟩
  rw [if_neg htokens]
  have hnot := not_or.mpr ⟨hrequests, htokens⟩
  exact ⟨iff_of_false (Ne.symm Bool.false_ne_true) hnot, fun h => absurd h hnot⟩

theorem localView_bursts (s : Limiter) (config : RateLimitConfig) (apiKey : String) (now : ℚ) {tokens : ℚ}
    (h : tokens ≤ config.burstLimit) :
    ({ s with bursts := Function.update s.bursts apiKey (some ⟨tokens, now⟩) } : Limiter).localView config apiKey now =
      { s.localView config apiKey now with burstTokens := tokens } := by
  have htokens : bucketTokens config now (some ⟨tokens, now⟩) = tokens := by
    change refilled config tokens now now = tokens
    rw [refilled, sub_self, zero_mul, add_zero, min_eq_right h]
  unfold localView
  dsimp only
  rw [Function.update_self, htokens]

theorem localView_localCache (s : Limiter) (config : RateLimitConfig) (apiKey : String) (now : ℚ) :
    ({ s with localCache := Function.update s.localCache apiKey (s.localView config apiKey now).window } : Limiter).localView config
        apiKey now = s.localView config apiKey now := by
  unfold localView
  dsimp only
  rw [Function.update_self, clean_clean]

theorem checkRateLimit_refused
    (hrefused : (s.checkRateLimit config apiKey tokensUsed acquireConcurrency countRequest now).1.allowed = false) :
    (config.concurrencyLimit ≤ s.concurrentRequests apiKey ∧
        (s.checkRateLimit config apiKey tokensUsed acquireConcurrency countRequest now).2 = s) ∨
      ((s.checkBurstLimit config apiKey countRequest now).1.allowed = false ∧
        (s.checkRateLimit config apiKey tokensUsed acquireConcurrency countRequest now).2 =
          (s.checkBurstLimit config apiKey countRequest now).2) ∨
      (s.concurrentRequests apiKey < config.concurrencyLimit ∧ (s.checkBurstLimit config apiKey countRequest now).1.allowed = true ∧
        ((s.checkBurstLimit config apiKey countRequest now).2.checkSlidingWindow config apiKey tokensUsed countRequest
          now).1.allowed = false ∧
        (s.checkRateLimit config apiKey tokensUsed acquireConcurrency countRequest now).2 =
          ((s.checkBurstLimit config apiKey countRequest now).2.checkSlidingWindow config apiKey tokensUsed countRequest now).2) := by
  unfold checkRateLimit checkConcurrencyLimit at hrefused ⊢
  dsimp only at hrefused ⊢
  by_cases hconcurrent : config.concurrencyLimit ≤ s.concurrentRequests apiKey
  · rw [if_pos hconcurrent]
    exact .inl ⟨hconcurrent, rfl⟩
  rw [if_neg hconcurrent] at hrefused ⊢
  cases hburst : (s.checkBurstLimit config apiKey countRequest now).1.allowed with
  | false =>
    refine .inr (.inl ⟨rfl, ?_⟩)
    rw [if_pos rfl, if_neg Bool.false_ne_true]
  | true =>
    rw [hburst, if_pos rfl, if_pos rfl] at hrefused
    refine .inr (.inr ⟨not_le.mp hconcurrent, rfl, hrefused, ?_⟩)
    rw [if_pos rfl, if_pos rfl]
    dsimp only at hrefused ⊢
    rw [hrefused]
    rfl

theorem refused_of_spends (acquireConcurrency countRequest : Bool) (hclient : s.redisClient = none)
    (hspends : (s.localView config apiKey now).Spends config tokensUsed) :
    (s.checkRateLimit config apiKey tokensUsed acquireConcurrency countRequest now).1.allowed = false := by
  obtain ⟨hconcurrent, hone, hrefuses⟩ := hspends
  have hroom : ¬config.concurrencyLimit ≤ s.concurrentRequests apiKey := not_le.mpr hconcurrent
  have hburst : (s.checkBurstLimit config apiKey countRequest now).1.allowed = true := by
    rw [checkBurstLimit_local hclient]
    exact (localBurst_spec config countRequest now (s.bursts apiKey)).1.trans (decide_eq_true hone)
  have hafter : (s.checkBurstLimit config apiKey countRequest now).2.redisClient = none := by
    rw [checkBurstLimit_local hclient]
    exact hclient
  have hwindow : (s.checkBurstLimit config apiKey countRequest now).2.localCache = s.localCache := by rw [checkBurstLimit_local hclient]
  unfold checkRateLimit checkConcurrencyLimit
  dsimp only
  rw [if_neg hroom, if_pos rfl, if_pos hburst]
  refine (checkSlidingWindow_local hafter).1.mpr ?_
  unfold LocalView.WindowRefuses localView at hrefuses ⊢
  rw [hwindow]
  exact hrefuses

/-- What a refused check leaves of a key, where there is no client. -/
theorem localView_refused (hclient : s.redisClient = none)
    (hrefused : (s.checkRateLimit config apiKey tokensUsed acquireConcurrency countRequest now).1.allowed = false) :
    ((s.localView config apiKey now).Spends config tokensUsed ∧
        (s.checkRateLimit config apiKey tokensUsed acquireConcurrency countRequest now).2.localView config apiKey now =
          { s.localView config apiKey now with
            burstTokens := (s.localView config apiKey now).burstTokens - if countRequest then 1 else 0 }) ∨
      (¬(s.localView config apiKey now).Spends config tokensUsed ∧
        (s.checkRateLimit config apiKey tokensUsed acquireConcurrency countRequest now).2.localView config apiKey now =
          s.localView config apiKey now) := by
  obtain ⟨hallowed, hbucket⟩ := localBurst_spec config countRequest now (s.bursts apiKey)
  have hlimit : bucketTokens config now (s.bursts apiKey) ≤ config.burstLimit := min_le_left _ _
  rcases checkRateLimit_refused hrefused with ⟨hconcurrent, hstate⟩ | ⟨hburst, hstate⟩ | ⟨hconcurrent, hburst, hwindow, hstate⟩
  · rw [hstate]
    exact .inr ⟨fun hspends => not_le.mpr hspends.1 hconcurrent, rfl⟩
  · rw [checkBurstLimit_local hclient] at hburst hstate
    rw [hallowed] at hburst
    have hempty : ¬1 ≤ bucketTokens config now (s.bursts apiKey) := of_decide_eq_false hburst
    refine .inr ⟨fun hspends => hempty hspends.2.1, ?_⟩
    rw [hstate, hbucket, if_neg fun hand => hempty hand.1, sub_zero, localView_bursts s config apiKey now hlimit]
    rfl
  · rw [checkBurstLimit_local hclient] at hburst hwindow hstate
    rw [hallowed] at hburst
    have hone : 1 ≤ bucketTokens config now (s.bursts apiKey) := of_decide_eq_true hburst
    dsimp only at hwindow hstate
    rw [hbucket] at hwindow hstate
    set tokens := bucketTokens config now (s.bursts apiKey) - if 1 ≤ bucketTokens config now (s.bursts apiKey) ∧ countRequest = true then
      1 else 0 with htokens
    have hle : tokens ≤ config.burstLimit := by
      rw [htokens]
      split_ifs <;> linarith
    have hview := localView_bursts s config apiKey now hle
    -- the view differs from the one before in the bucket alone, which the windows do not look at
    have hafter : ({ s with bursts := Function.update s.bursts apiKey (some ⟨tokens, now⟩) } : Limiter).redisClient = none := hclient
    have hrefuses := (checkSlidingWindow_local hafter).1.mp hwindow
    have hspends : (s.localView config apiKey now).WindowRefuses config tokensUsed := by
      rw [hview] at hrefuses
      exact hrefuses
    refine .inl ⟨⟨hconcurrent, hone, hspends⟩, ?_⟩
    rw [hstate, (checkSlidingWindow_local hafter).2 hrefuses, localView_localCache, hview, htokens]
    simp only [hone, true_and]
    rfl

theorem localView_kept_iff (hclient : s.redisClient = none) :
    ((s.checkRateLimit config apiKey tokensUsed acquireConcurrency countRequest now).1.allowed = false →
        (s.checkRateLimit config apiKey tokensUsed acquireConcurrency countRequest now).2.localView config apiKey now =
          s.localView config apiKey now) ↔
      ¬(countRequest = true ∧ (s.localView config apiKey now).Spends config tokensUsed) := by
  constructor
  · rintro hkeeps ⟨rfl, hspends⟩
    have hrefused := refused_of_spends acquireConcurrency true hclient hspends
    rcases localView_refused hclient hrefused with ⟨-, hview⟩ | ⟨hnot, -⟩
    · rw [hkeeps hrefused, if_pos rfl] at hview
      have htokens := congrArg LocalView.burstTokens hview
      dsimp only at htokens
      linarith
    · exact hnot hspends
  · intro hnot hrefused
    rcases localView_refused hclient hrefused with ⟨hspends, hview⟩ | ⟨-, hview⟩
    · rw [hview, if_neg fun hcount => hnot ⟨hcount, hspends⟩, sub_zero]
    · exact hview

end Limiter

end Gatewayz.Limits

namespace Gatewayz.Limits.Fallback

/-! ## In the fallback limiter -/

namespace InMemoryRateLimiter.KeyView

variable (v : KeyView) (config : RateLimitConfig) (tokensUsed : ℤ)

def WindowRefuses : Prop := config.requestsPerMinute ≤ v.requests.length ∨ config.tokensPerMinute < (v.tokens.map Prod.snd).sum + tokensUsed

/-- A token is spent on a refusal: the bucket has one, and a window refuses. -/
def Spends : Prop := v.concurrent < config.concurrencyLimit ∧ 0 < v.burstTokens ∧ v.WindowRefuses config tokensUsed

def Refuses : Prop := config.concurrencyLimit ≤ v.concurrent ∨ v.burstTokens ≤ 0 ∨ v.WindowRefuses config tokensUsed

def Leaves (v' : KeyView) : Prop :=
  (v.Spends config tokensUsed ∧ v' = { v with burstTokens := v.burstTokens - 1 }) ∨ (¬v.Spends config tokensUsed ∧ v' = v)

theorem Spends.refuses {v : KeyView} {config : RateLimitConfig} {tokensUsed : ℤ} (h : v.Spends config tokensUsed) :
    v.Refuses config tokensUsed := .inr (.inr h.2.2)

theorem Leaves.unique {v left left' : KeyView} {config : RateLimitConfig} {tokensUsed : ℤ} (h : v.Leaves config tokensUsed left)
    (h' : v.Leaves config tokensUsed left') : left = left' := by
  rcases h with ⟨hspends, rfl⟩ | ⟨hnot, rfl⟩
  · rcases h' with ⟨-, rfl⟩ | ⟨hnot, -⟩
    · rfl
    · exact absurd hspends hnot
  · rcases h' with ⟨hspends, -⟩ | ⟨-, rfl⟩
    · exact absurd hspends hnot
    · rfl

theorem leaves_self_iff : v.Leaves config tokensUsed v ↔ ¬v.Spends config tokensUsed := by
  constructor
  · rintro (⟨-, hless⟩ | ⟨hnot, -⟩)
    · have htokens : v.burstTokens = v.burstTokens - 1 := congrArg KeyView.burstTokens hless
      omega
    · exact hnot
  · exact fun hnot => .inr ⟨hnot, rfl⟩

end InMemoryRateLimiter.KeyView

namespace InMemoryRateLimiter

variable {s : InMemoryRateLimiter} {apiKey : String} {config : RateLimitConfig} {now : ℚ} {tokensUsed : ℤ}

theorem checkRequestLimits_allowed :
    (s.checkRequestLimits apiKey config now).allowed = !decide (config.requestsPerMinute ≤ (s.requestWindow apiKey).length) := by
  unfold checkRequestLimits populateRateLimitHeaders
  dsimp only
  split_ifs with hfull
  · rw [decide_eq_true hfull]
    rfl
  · rw [decide_eq_false hfull]
    rfl

theorem checkTokenLimits_allowed : (s.checkTokenLimits apiKey config now tokensUsed).allowed =
      !decide (config.tokensPerMinute < ((s.tokenWindow apiKey).map Prod.snd).sum + tokensUsed) := by
  unfold checkTokenLimits populateRateLimitHeaders
  dsimp only
  split_ifs with hfull
  · rw [decide_eq_true hfull]
    rfl
  · rw [decide_eq_false hfull]
    rfl

theorem view_checkBurstLimit (s : InMemoryRateLimiter) (apiKey : String) (config : RateLimitConfig) (now : ℚ) :
    (s.checkBurstLimit apiKey config now).2.view apiKey config now =
      { s.view apiKey config now with
        burstTokens := (s.view apiKey config now).burstTokens - if 0 < (s.view apiKey config now).burstTokens then 1 else 0 } := by
  rw [view, burstBucket_checkBurstLimit, BurstBucket.refill_check, BurstBucket.check_spec.2]
  rfl

theorem view_compare (s : InMemoryRateLimiter) (apiKey : String) (config : RateLimitConfig) (now : ℚ) :
    ({ s with concurrentRequests := Function.update s.concurrentRequests apiKey (some (s.inFlight apiKey)) } :
    InMemoryRateLimiter).view apiKey config now = s.view apiKey config now := by
  unfold view inFlight
  dsimp only
  rw [Function.update_self]
  rfl

theorem view_noteKey (s : InMemoryRateLimiter) (apiKey : String) (config : RateLimitConfig) (now : ℚ) :
    (s.noteKey apiKey now).view apiKey config now = (s.afterEvictions apiKey now).view apiKey config now ∧
    (s.noteKey apiKey now).requestWindow apiKey = ((s.afterEvictions apiKey now).view apiKey config now).requests ∧
    (s.noteKey apiKey now).tokenWindow apiKey = ((s.afterEvictions apiKey now).view apiKey config now).tokens := by
  refine ⟨?_, requestWindow_noteKey, tokenWindow_noteKey⟩
  unfold view recentRequests recentTokens
  rw [requestWindow_noteKey, tokenWindow_noteKey, KeyView.mk.injEq]
  exact ⟨rfl, List.dropWhile_idempotent _ _, List.dropWhile_idempotent _ _, rfl⟩

/-- The checks of an admitted key whose windows are clean: they refuse by its view, and a refusal leaves the view or spends a token. -/
theorem runChecks_spec (hrequests : s.requestWindow apiKey = (s.view apiKey config now).requests)
    (htokens : s.tokenWindow apiKey = (s.view apiKey config now).tokens) :
    ((s.runChecks apiKey config now tokensUsed).1.allowed = false ↔ (s.view apiKey config now).Refuses config tokensUsed) ∧
      ((s.view apiKey config now).Refuses config tokensUsed →
        (s.view apiKey config now).Leaves config tokensUsed ((s.runChecks apiKey config now tokensUsed).2.view apiKey config now)) := by
  have hcompare := view_compare s apiKey config now
  unfold runChecks
  dsimp only
  set compared : InMemoryRateLimiter :=
    { s with concurrentRequests := Function.update s.concurrentRequests apiKey (some (s.inFlight apiKey)) } with hcompared
  have hburst := view_checkBurstLimit compared apiKey config now
  rw [hcompare] at hburst
  have hinFlight : compared.inFlight apiKey = (s.view apiKey config now).concurrent := congrArg KeyView.concurrent hcompare
  have hallowed : (compared.checkBurstLimit apiKey config now).1 = decide (0 < (s.view apiKey config now).burstTokens) := by
    rw [← hcompare]
    exact BurstBucket.check_spec.1
  rw [hinFlight]
  by_cases hconcurrent : config.concurrencyLimit ≤ (s.view apiKey config now).concurrent
  · rw [if_pos hconcurrent, hcompare]
    exact ⟨iff_of_true rfl (.inl hconcurrent), fun _ => .inr ⟨fun hspends => not_le.mpr hspends.1 hconcurrent, rfl⟩⟩
  rw [if_neg hconcurrent]
  by_cases hpos : 0 < (s.view apiKey config now).burstTokens
  · have hrequestWindow : (compared.checkBurstLimit apiKey config now).2.requestWindow apiKey = (s.view apiKey config now).requests :=
      hrequests
    have htokenWindow : (compared.checkBurstLimit apiKey config now).2.tokenWindow apiKey = (s.view apiKey config now).tokens := htokens
    have hspent : (s.view apiKey config now).WindowRefuses config tokensUsed →
        (s.view apiKey config now).Leaves config tokensUsed ((compared.checkBurstLimit apiKey config now).2.view apiKey config now) := by
      intro hrefuses
      rw [hburst, if_pos hpos]
      exact .inl ⟨⟨not_le.mp hconcurrent, hpos, hrefuses⟩, rfl⟩
    rw [hallowed, if_pos (decide_eq_true hpos)]
    by_cases hrequestsFull : config.requestsPerMinute ≤ (s.view apiKey config now).requests.length
    · have hresult : ((compared.checkBurstLimit apiKey config now).2.checkRequestLimits apiKey config now).allowed = false := by
        rw [checkRequestLimits_allowed, hrequestWindow, decide_eq_true hrequestsFull, Bool.not_true]
      rw [if_neg (ne_true_of_eq_false hresult)]
      exact ⟨iff_of_true hresult (.inr (.inr (.inl hrequestsFull))), fun _ => hspent (.inl hrequestsFull)⟩
    have hresult : ((compared.checkBurstLimit apiKey config now).2.checkRequestLimits apiKey config now).allowed = true := by
      rw [checkRequestLimits_allowed, hrequestWindow, decide_eq_false hrequestsFull, Bool.not_false]
    rw [if_pos hresult]
    by_cases htokensFull : config.tokensPerMinute < ((s.view apiKey config now).tokens.map Prod.snd).sum + tokensUsed
    · have hresult : ((compared.checkBurstLimit apiKey config now).2.checkTokenLimits apiKey config now tokensUsed).allowed = false := by
        rw [checkTokenLimits_allowed, htokenWindow, decide_eq_true htokensFull, Bool.not_true]
      rw [if_neg (ne_true_of_eq_false hresult)]
      exact ⟨iff_of_true hresult (.inr (.inr (.inr htokensFull))), fun _ => hspent (.inr htokensFull)⟩
    · have hresult : ((compared.checkBurstLimit apiKey config now).2.checkTokenLimits apiKey config now tokensUsed).allowed = true := by
        rw [checkTokenLimits_allowed, htokenWindow, decide_eq_false htokensFull, Bool.not_false]
      have hpasses : ¬(s.view apiKey config now).Refuses config tokensUsed := by
        rintro (hfull | hempty | hrequestsFull' | htokensFull')
        · exact hconcurrent hfull
        · exact not_le.mpr hpos hempty
        · exact hrequestsFull hrequestsFull'
        · exact htokensFull htokensFull'
      rw [if_pos hresult]
      exact ⟨iff_of_false (Ne.symm Bool.false_ne_true) hpasses, fun hrefuses => absurd hrefuses hpasses⟩
  · rw [hallowed, if_neg (by rw [decide_eq_false hpos]; exact Bool.false_ne_true), hburst, if_neg hpos, sub_zero]
    exact ⟨iff_of_true rfl (.inr (.inl (not_lt.mp hpos))), fun _ => .inr ⟨fun hspends => hpos hspends.2.1, rfl⟩⟩

theorem view_refused (s : InMemoryRateLimiter) (apiKey : String) (config : RateLimitConfig) (now : ℚ) (tokensUsed : ℤ) :
    ((s.checkRateLimit apiKey config now tokensUsed).1.allowed = false ↔
      ((s.afterEvictions apiKey now).view apiKey config now).Refuses config tokensUsed) ∧
      (((s.afterEvictions apiKey now).view apiKey config now).Refuses config tokensUsed →
        ((s.afterEvictions apiKey now).view apiKey config now).Leaves config tokensUsed
          ((s.checkRateLimit apiKey config now tokensUsed).2.view apiKey config now)) := by
  obtain ⟨hview, hrequests, htokens⟩ := view_noteKey s apiKey config now
  rw [← hview] at hrequests htokens ⊢
  exact runChecks_spec hrequests htokens

/-- The key is the same after a refusal if the check saw all of it and spent nothing, or if it was evicted and looked like what is left of
a new one. -/
theorem view_kept_iff (s : InMemoryRateLimiter) (apiKey : String) (config : RateLimitConfig) (now : ℚ) (tokensUsed : ℤ) :
    ((s.checkRateLimit apiKey config now tokensUsed).1.allowed = false →
        (s.checkRateLimit apiKey config now tokensUsed).2.view apiKey config now = s.view apiKey config now) ↔
      (¬s.Evicted apiKey now apiKey ∧ ¬(s.view apiKey config now).Spends config tokensUsed) ∨
        (s.Evicted apiKey now apiKey ∧
          ((newView config now).Refuses config tokensUsed → (newView config now).Leaves config tokensUsed (s.view apiKey config now))) := by
  obtain ⟨hallowed, hleaves⟩ := view_refused s apiKey config now tokensUsed
  have hkept_iff : ((s.checkRateLimit apiKey config now tokensUsed).1.allowed = false →
      (s.checkRateLimit apiKey config now tokensUsed).2.view apiKey config now = s.view apiKey config now) ↔
        (((s.afterEvictions apiKey now).view apiKey config now).Refuses config tokensUsed →
          ((s.afterEvictions apiKey now).view apiKey config now).Leaves config tokensUsed (s.view apiKey config now)) := by
    rw [hallowed]
    refine forall_congr' fun hrefuses => ⟨fun heq => heq ▸ hleaves hrefuses, fun h => (hleaves hrefuses).unique h⟩
  rw [hkept_iff]
  by_cases hevicted : s.Evicted apiKey now apiKey
  · rw [view_of_empty (data_afterEvictions.1 hevicted)]
    exact ⟨fun h => .inr ⟨hevicted, h⟩, fun h => (h.resolve_left fun hand => hand.1 hevicted).2⟩
  · rw [view_congr (data_afterEvictions.2 hevicted), KeyView.leaves_self_iff]
    constructor
    · exact fun h => .inl ⟨hevicted, fun hspends => h hspends.refuses hspends⟩
    · exact fun h _ => (h.resolve_right fun hand => hevicted hand.1).2

end InMemoryRateLimiter

end Gatewayz.Limits.Fallback

namespace Gatewayz.Limits

open Fallback (InMemoryRateLimiter)

/-! ## Both limiters -/

/-- **A refused check leaves what the key had** if and only if it is not one that spends a token; in the fallback limiter, if also what
the key had was not evicted, or looked like what the check has left of a new key. -/
theorem refused_keeps_iff (s : Limiter) (fallback : InMemoryRateLimiter) (config : RateLimitConfig) (apiKey : String) (now : ℚ)
    (tokensUsed : ℕ) (acquireConcurrency countRequest : Bool) (fallbackTokens : ℤ) (hclient : s.redisClient = none) :
    (((s.checkRateLimit config apiKey tokensUsed acquireConcurrency countRequest now).1.allowed = false →
        (s.checkRateLimit config apiKey tokensUsed acquireConcurrency countRequest now).2.localView config apiKey now =
          s.localView config apiKey now) ↔
      ¬(countRequest = true ∧ (s.localView config apiKey now).Spends config tokensUsed)) ∧
    (((fallback.checkRateLimit apiKey config now fallbackTokens).1.allowed = false →
        (fallback.checkRateLimit apiKey config now fallbackTokens).2.view apiKey config now = fallback.view apiKey config now) ↔
      (¬fallback.Evicted apiKey now apiKey ∧ ¬(fallback.view apiKey config now).Spends config fallbackTokens) ∨
        (fallback.Evicted apiKey now apiKey ∧
          ((InMemoryRateLimiter.newView config now).Refuses config fallbackTokens →
            (InMemoryRateLimiter.newView config now).Leaves config fallbackTokens (fallback.view apiKey config now)))) :=
  ⟨Limiter.localView_kept_iff hclient, InMemoryRateLimiter.view_kept_iff fallback apiKey config now fallbackTokens⟩

def onePerMinute : RateLimitConfig := { requestsPerMinute := 1 }

theorem refused_keeps_iff_new :
    (((({} : Limiter).checkRateLimit onePerMinute "key" 0 true true 100).1.allowed = false →
        (({} : Limiter).checkRateLimit onePerMinute "key" 0 true true 100).2.localView onePerMinute "key" 100 =
          ({} : Limiter).localView onePerMinute "key" 100) ↔
      ¬(true = true ∧ (({} : Limiter).localView onePerMinute "key" 100).Spends onePerMinute 0)) :=
  (refused_keeps_iff {} {} onePerMinute "key" 100 0 true true 0 rfl).1

def afterOne : Limiter := (({} : Limiter).checkRateLimit onePerMinute "key" 0 true true 100).2

def fallbackAfterOne : InMemoryRateLimiter := (({} : InMemoryRateLimiter).checkRateLimit "key" onePerMinute 100 0).2

/-- The second request of a minute costs a token, on both limiters. -/
theorem second_request_spends :
    ((afterOne.checkRateLimit onePerMinute "key" 0 true true 100).1.allowed = false ∧
        (afterOne.localView onePerMinute "key" 100).burstTokens = 99 ∧
          ((afterOne.checkRateLimit onePerMinute "key" 0 true true 100).2.localView onePerMinute "key" 100).burstTokens = 98) ∧
      (fallbackAfterOne.checkRateLimit "key" onePerMinute 100 0).1.allowed = false ∧
        (fallbackAfterOne.view "key" onePerMinute 100).burstTokens = 99 ∧
          ((fallbackAfterOne.checkRateLimit "key" onePerMinute 100 0).2.view "key" onePerMinute 100).burstTokens = 98 := by
  decide +kernel

end Gatewayz.Limits
