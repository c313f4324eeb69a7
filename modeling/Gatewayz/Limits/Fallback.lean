import Gatewayz.Exec.OrderedKeys
import Gatewayz.Limits.SlidingWindow

/-!
# `Limits.Fallback` — `InMemoryRateLimiter`

The limiter of `services/rate_limiting_fallback.py`, which stands in where there is no Redis. Everything it knows of a key is in six
dictionaries, `keys` are their names in the order of use, and a call begins with evictions: of the keys that were not used for a while,
and, if there are too many, of the ones used longest ago. Keys with a request in flight stay.

Most of the dictionaries make an entry when they are read (`defaultdict`), and so do the definitions here. A call is one event: all of
it happens under a lock.
-/

namespace Gatewayz.Limits.Fallback

open Exec

def maxFallbackKeys : ℕ := 500

def fallbackTtlSeconds : ℚ := 900

/-- The headers of a result before `_populate_rate_limit_headers`. -/
def noHeaders : RateLimitHeaders where
  limitRequests := 0
  limitTokens := 0
  resetRequests := 0
  resetTokens := 0
  burstWindowDescription := ""

structure RateLimitResult where
  allowed : Bool
  reason : Option String := none
  retryAfter : Option ℤ := none
  remainingRequests : ℤ := 0
  remainingTokens : ℤ := 0
  resetTime : Option ℤ := none
  headers : RateLimitHeaders := noHeaders

/-- `_populate_rate_limit_headers`; a reset time of zero counts as none. -/
def populateRateLimitHeaders (result : RateLimitResult) (config : RateLimitConfig) (requestLimit tokenLimit : ℕ) (resetTime : ℤ)
    (now : ℚ) : RateLimitResult :=
  let reset := if resetTime = 0 then int now + 60 else resetTime
  { result with
    headers :=
      { limitRequests := requestLimit
        limitTokens := tokenLimit
        resetRequests := reset
        resetTokens := reset
        burstWindowDescription := toString config.burstLimit ++ " per " ++ toString config.windowSizeSeconds ++ " seconds" } }

/-! ## The bucket of a key -/

/-- `burst_tokens` and `last_burst_refill` of a key; a key that is new has no tokens, and its last refill was at the epoch. -/
structure BurstBucket where
  tokens : ℤ := 0
  lastRefill : ℚ := 0

namespace BurstBucket

def refillAmount (burstLimit : ℕ) (timeSinceRefill : ℚ) : ℤ := min burstLimit (int (timeSinceRefill * burstLimit / 60))

/-- The refill of `_check_burst_limit`. -/
def refill (burstLimit : ℕ) (now : ℚ) (b : BurstBucket) : BurstBucket :=
  if 1 ≤ now - b.lastRefill then
    { tokens := min burstLimit (b.tokens + refillAmount burstLimit (now - b.lastRefill)), lastRefill := now }
  else b

/-- `_check_burst_limit` -/
def check (burstLimit : ℕ) (now : ℚ) (b : BurstBucket) : Bool × BurstBucket :=
  let b := b.refill burstLimit now
  if 0 < b.tokens then (true, { b with tokens := b.tokens - 1 }) else (false, b)

end BurstBucket

/-! ## The limiter -/

structure InMemoryRateLimiter where
  requestWindows : String → Option (List ℚ) := fun _ => none
  tokenWindows : String → Option (List (ℚ × ℤ)) := fun _ => none
  concurrentRequests : String → Option ℕ := fun _ => none
  burstTokens : String → Option ℤ := fun _ => none
  lastBurstRefill : String → Option ℚ := fun _ => none
  keyOrder : OrderedKeys String := {}
  keyLastAccessed : String → Option ℚ := fun _ => none

namespace InMemoryRateLimiter

variable (s : InMemoryRateLimiter) (apiKey : String) (config : RateLimitConfig) (now : ℚ)

/-- `concurrent_requests.get(key, 0)` -/
def inFlight : ℕ := (s.concurrentRequests apiKey).getD 0

/-- The key leaves `_key_order`, and `_remove_key_data`; for every key that `p` holds of. -/
def removeKeys (p : String → Bool) : InMemoryRateLimiter where
  requestWindows key := if p key then none else s.requestWindows key
  tokenWindows key := if p key then none else s.tokenWindows key
  concurrentRequests key := if p key then none else s.concurrentRequests key
  burstTokens key := if p key then none else s.burstTokens key
  lastBurstRefill key := if p key then none else s.lastBurstRefill key
  keyOrder := s.keyOrder.removeAll p
  keyLastAccessed key := if p key then none else s.keyLastAccessed key

/-- A key that was not used for the whole TTL and has no request in flight. -/
def isExpired : Bool := (s.keyLastAccessed apiKey).any (fun last => fallbackTtlSeconds < now - last) && s.inFlight apiKey = 0

def evictExpiredKeys : InMemoryRateLimiter := s.removeKeys fun key => s.isExpired key now

/-- The loop of `check_rate_limit` that comes down to the cap. -/
def evictLeastRecent (s : InMemoryRateLimiter) : InMemoryRateLimiter :=
  if maxFallbackKeys < s.keyOrder.keys.length then
    match h : s.keyOrder.keys.find? fun key => s.inFlight key = 0 with
    | none => s
    | some evictedKey =>
      have : ((s.keyOrder.removeAll fun key => key = evictedKey).keys).length < s.keyOrder.keys.length :=
        List.length_filter_lt_length_iff_exists.mpr ⟨evictedKey, List.mem_of_find?_eq_some h, by simp⟩
      evictLeastRecent (s.removeKeys fun key => key = evictedKey)
  else s
termination_by s.keyOrder.keys.length

/-- The key is the one used last; a new one may be one too many. -/
def trackKey : InMemoryRateLimiter :=
  if apiKey ∈ s.keyOrder.keys then { s with keyOrder := s.keyOrder.touch apiKey }
  else evictLeastRecent { s with keyOrder := s.keyOrder.touch apiKey }

/-- `request_windows[api_key]` -/
def requestWindow : List ℚ := (s.requestWindows apiKey).getD []

/-- `token_windows[api_key]` -/
def tokenWindow : List (ℚ × ℤ) := (s.tokenWindows apiKey).getD []

/-- `burst_tokens[api_key]` and `last_burst_refill[api_key]` -/
def burstBucket : BurstBucket where
  tokens := (s.burstTokens apiKey).getD 0
  lastRefill := (s.lastBurstRefill apiKey).getD 0

/-- What is left of the request window after `_cleanup_old_entries`. -/
def recentRequests : List ℚ := (s.requestWindow apiKey).dropWhile fun t => 60 < now - t

/-- What is left of the token window after `_cleanup_old_entries`. -/
def recentTokens : List (ℚ × ℤ) := (s.tokenWindow apiKey).dropWhile fun e => 60 < now - e.1

def cleanupOldEntries : InMemoryRateLimiter :=
  { s with
    requestWindows := Function.update s.requestWindows apiKey (some (s.recentRequests apiKey now))
    tokenWindows := Function.update s.tokenWindows apiKey (some (s.recentTokens apiKey now)) }

/-- The evictions, and what is noted of the key before it is checked. -/
def noteKey : InMemoryRateLimiter :=
  let s := (s.evictExpiredKeys now).trackKey apiKey
  cleanupOldEntries { s with keyLastAccessed := Function.update s.keyLastAccessed apiKey (some now) } apiKey now

def checkBurstLimit : Bool × InMemoryRateLimiter :=
  let (allowed, bucket) := (s.burstBucket apiKey).check config.burstLimit now
  (allowed,
    { s with
      burstTokens := Function.update s.burstTokens apiKey (some bucket.tokens)
      lastBurstRefill := Function.update s.lastBurstRefill apiKey (some bucket.lastRefill) })

def checkRequestLimits : RateLimitResult :=
  let result : RateLimitResult :=
    if config.requestsPerMinute ≤ (s.requestWindow apiKey).length then
      { allowed := false, reason := some "Request rate limit exceeded", retryAfter := some 60 }
    else { allowed := true }
  populateRateLimitHeaders result config config.requestsPerMinute config.tokensPerMinute (int now + 60) now

def checkTokenLimits (tokensUsed : ℤ) : RateLimitResult :=
  let currentTokens := ((s.tokenWindow apiKey).map Prod.snd).sum
  let result : RateLimitResult :=
    if config.tokensPerMinute < currentTokens + tokensUsed then
      { allowed := false, reason := some "Token rate limit exceeded", retryAfter := some 60 }
    else { allowed := true }
  populateRateLimitHeaders result config config.requestsPerMinute config.tokensPerMinute (int now + 60) now

/-- The counters of a request that passed. -/
def count (tokensUsed : ℤ) : InMemoryRateLimiter :=
  { s with
    requestWindows := Function.update s.requestWindows apiKey (some (s.requestWindow apiKey ++ [now]))
    tokenWindows := Function.update s.tokenWindows apiKey (some (s.tokenWindow apiKey ++ [(now, tokensUsed)]))
    concurrentRequests := Function.update s.concurrentRequests apiKey (some (s.inFlight apiKey + 1)) }

/-- The checks of `check_rate_limit`, on a key that has been admitted. -/
def runChecks (tokensUsed : ℤ) : RateLimitResult × InMemoryRateLimiter :=
  -- the entry is made by the comparison itself
  let s := { s with concurrentRequests := Function.update s.concurrentRequests apiKey (some (s.inFlight apiKey)) }
  if config.concurrencyLimit ≤ s.inFlight apiKey then
    ({ allowed := false, reason := some "Concurrency limit exceeded", retryAfter := some 1 }, s)
  else
    let (burstAllowed, s) := s.checkBurstLimit apiKey config now
    if burstAllowed then
      let requestResult := s.checkRequestLimits apiKey config now
      if requestResult.allowed then
        let tokenResult := s.checkTokenLimits apiKey config now tokensUsed
        if tokenResult.allowed then
          let s := s.count apiKey now tokensUsed
          let resetTime := int (now + config.windowSizeSeconds)
          let result : RateLimitResult :=
            { allowed := true
              remainingRequests := max 0 (config.requestsPerMinute - (s.requestWindow apiKey).length)
              remainingTokens := max 0 (config.tokensPerMinute - ((s.tokenWindow apiKey).map Prod.snd).sum)
              resetTime := some resetTime }
          (populateRateLimitHeaders result config config.requestsPerMinute config.tokensPerMinute resetTime now, s)
        else (tokenResult, s)
      else (requestResult, s)
    else
      (populateRateLimitHeaders { allowed := false, reason := some "Burst limit exceeded", retryAfter := some 1 } config
          config.requestsPerMinute config.tokensPerMinute (int now + 60) now,
        s)

def checkRateLimit (tokensUsed : ℤ) : RateLimitResult × InMemoryRateLimiter := (s.noteKey apiKey now).runChecks apiKey config now tokensUsed

/-- `release_concurrent_request`. The comparison makes an entry for a key that has none. -/
def releaseConcurrentRequest : InMemoryRateLimiter :=
  { s with concurrentRequests := Function.update s.concurrentRequests apiKey (some (s.inFlight apiKey - 1)) }

end InMemoryRateLimiter

end Gatewayz.Limits.Fallback
