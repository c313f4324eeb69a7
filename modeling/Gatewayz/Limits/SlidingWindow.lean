import Mathlib.Data.Rat.Floor

/-!
# `Limits.SlidingWindow` — `SlidingWindowRateLimiter`

The limiter of `services/rate_limiting.py`: how many requests of a key run at once, a bucket of tokens for bursts, and windows for
requests and tokens. Bucket and windows are kept in Redis, or, where there is no client, in the process. The two are written
independently of one another, and here they are two definitions each:

* `redisBurst`, `localBurst` — `_check_burst_limit`;
* `redisWindow`, `localWindow` — `_check_redis_sliding_window`, `_check_local_sliding_window`;

A call is one event at one moment. Moments are seconds since the epoch.
-/

namespace Gatewayz.Limits

/-! ## Configurations, results -/

structure RateLimitConfig where
  requestsPerMinute : ℕ := 250
  requestsPerHour : ℕ := 1000
  requestsPerDay : ℕ := 10000
  tokensPerMinute : ℕ := 10000
  tokensPerHour : ℕ := 100000
  tokensPerDay : ℕ := 1000000
  burstLimit : ℕ := 100
  concurrencyLimit : ℕ := 50
  windowSizeSeconds : ℕ := 60

/-- What `_populate_rate_limit_headers` fills in. -/
structure RateLimitHeaders where
  limitRequests : ℕ
  limitTokens : ℕ
  resetRequests : ℤ
  resetTokens : ℤ
  burstWindowDescription : String

structure RateLimitResult where
  allowed : Bool
  remainingRequests : ℤ
  remainingTokens : ℤ
  resetTime : ℚ
  retryAfter : Option ℤ := none
  reason : Option String := none
  burstRemaining : ℤ := 0
  concurrencyRemaining : ℤ := 0
  headers : RateLimitHeaders

/-- What the check of the concurrency or of a bucket answers. -/
structure LimitCheck where
  allowed : Bool
  remaining : ℤ
  current : ℤ
  limit : ℕ
  retryAfter : Option ℤ := none

structure WindowCheck where
  allowed : Bool
  remainingRequests : ℤ
  remainingTokens : ℤ
  resetTime : ℚ
  retryAfter : Option ℤ := none
  reason : Option String := none

/-- `int`: towards zero. -/
def int (x : ℚ) : ℤ := if 0 ≤ x then ⌊x⌋ else ⌈x⌉

/-- `_populate_rate_limit_headers` -/
def rateLimitHeaders (config : RateLimitConfig) (resetTime : ℚ) : RateLimitHeaders where
  limitRequests := config.requestsPerMinute
  limitTokens := config.tokensPerMinute
  resetRequests := int resetTime
  resetTokens := int resetTime
  burstWindowDescription := toString config.burstLimit ++ " per " ++ toString config.windowSizeSeconds ++ " seconds"

/-! ## Buckets -/

/-- `burst_tokens` and `burst_last_refill` of a key. -/
structure Bucket where
  tokens : ℚ
  lastRefill : ℚ

/-- `burst:{api_key}` in Redis, with its expiry. -/
structure RedisBucket where
  tokens : ℚ
  lastRefill : ℚ
  expiresAt : ℚ

def refilled (config : RateLimitConfig) (tokens lastRefill now : ℚ) : ℚ :=
  min config.burstLimit (tokens + (now - lastRefill) * (config.burstLimit / 60))

/-- `_check_burst_limit` with a client. A bucket that is not there is empty, and a refusal writes nothing. -/
def redisBurst (config : RateLimitConfig) (consume : Bool) (now : ℚ) (stored : Option RedisBucket) : LimitCheck × Option RedisBucket :=
  let stored := stored.filter fun b => now < b.expiresAt
  let currentTokens := refilled config ((stored.map RedisBucket.tokens).getD 0) ((stored.map RedisBucket.lastRefill).getD now) now
  if 1 ≤ currentTokens then
    if consume then
      (⟨true, int (currentTokens - 1), int (currentTokens - 1), config.burstLimit, none⟩, some ⟨currentTokens - 1, now, now + 300⟩)
    else (⟨true, int currentTokens, int currentTokens, config.burstLimit, none⟩, stored)
  else
    (⟨false, 0, int currentTokens, config.burstLimit, some (int ((1 - currentTokens) * 60 / config.burstLimit))⟩, stored)

/-- `_check_burst_limit` without one. A bucket that is not there is full. -/
def localBurst (config : RateLimitConfig) (consume : Bool) (now : ℚ) (stored : Option Bucket) : LimitCheck × Option Bucket :=
  let tokens := refilled config ((stored.map Bucket.tokens).getD config.burstLimit) ((stored.map Bucket.lastRefill).getD now) now
  if 1 ≤ tokens then
    let tokens := if consume then tokens - 1 else tokens
    (⟨true, int tokens, int tokens, config.burstLimit, none⟩, some ⟨tokens, now⟩)
  else (⟨false, 0, int tokens, config.burstLimit, some 60⟩, some ⟨tokens, now⟩)

/-! ## Windows -/

inductive Period where
  | minute
  | hour
  | day
  deriving DecidableEq

namespace Period

/-- In seconds. -/
def length : Period → ℚ
  | minute => 60
  | hour => 3600
  | day => 86400

/-- How long a counter of the period is kept. -/
def ttl : Period → ℚ
  | minute => 120
  | hour => 7200
  | day => 172800

/-- `strftime` down to the period: its number since the epoch. -/
def index (p : Period) (now : ℚ) : ℤ := ⌊now / p.length⌋

def reset (p : Period) (now : ℚ) : ℚ := (p.index now + 1) * p.length

def requestLimit (config : RateLimitConfig) : Period → ℕ
  | minute => config.requestsPerMinute
  | hour => config.requestsPerHour
  | day => config.requestsPerDay

def tokenLimit (config : RateLimitConfig) : Period → ℕ
  | minute => config.tokensPerMinute
  | hour => config.tokensPerHour
  | day => config.tokensPerDay

def title : Period → String
  | minute => "Minute"
  | hour => "Hour"
  | day => "Day"

def retryAfter : Period → ℤ
  | minute => 60
  | hour => 3600
  | day => 86400

end Period

inductive Quantity where
  | requests
  | tokens
  deriving DecidableEq

/-- `rate_limit:{api_key}:{period}:{index}:{unit}`, for one API key. -/
structure CounterKey where
  unit : Quantity
  period : Period
  index : ℤ
  deriving DecidableEq

structure Counter where
  value : ℕ
  expiresAt : Option ℚ

abbrev Counters := CounterKey → Option Counter

namespace Counters

def live (counters : Counters) (now : ℚ) (k : CounterKey) : Option Counter :=
  (counters k).filter fun c => c.expiresAt.all fun t => now < t

/-- `int(pipe.get(key) or 0)` -/
def get (counters : Counters) (now : ℚ) (k : CounterKey) : ℕ := ((counters.live now k).map Counter.value).getD 0

def incrby (counters : Counters) (now : ℚ) (k : CounterKey) (n : ℕ) : Counters :=
  Function.update counters k (some ⟨counters.get now k + n, (counters.live now k).bind Counter.expiresAt⟩)

def expire (counters : Counters) (now : ℚ) (k : CounterKey) (ttl : ℚ) : Counters :=
  Function.update counters k ((counters.live now k).map fun c => { c with expiresAt := some (now + ttl) })

end Counters

/-- `_check_redis_sliding_window`: the first limit that is reached. -/
def redisRefusal (config : RateLimitConfig) (tokensUsed : ℕ) (now : ℚ) (counters : Counters) : List Period → Option WindowCheck
  | [] => none
  | p :: ps =>
    let requests := counters.get now ⟨.requests, p, p.index now⟩
    let tokens := counters.get now ⟨.tokens, p, p.index now⟩
    if p.requestLimit config ≤ requests then
      some ⟨false, 0, 0, p.reset now, some p.retryAfter, some (p.title ++ " request limit exceeded")⟩
    else if p.tokenLimit config < tokens + tokensUsed then
      some
        ⟨false, p.requestLimit config - requests, 0, p.reset now, some p.retryAfter, some (p.title ++ " token limit exceeded")⟩
    else redisRefusal config tokensUsed now counters ps

/-- Everything is counted, for one period. -/
def countPeriod (tokensUsed : ℕ) (countRequest : Bool) (now : ℚ) (p : Period) (counters : Counters) : Counters :=
  let counters := if countRequest then counters.incrby now ⟨.requests, p, p.index now⟩ 1 else counters
  let counters := counters.incrby now ⟨.tokens, p, p.index now⟩ tokensUsed
  (counters.expire now ⟨.requests, p, p.index now⟩ p.ttl).expire now ⟨.tokens, p, p.index now⟩ p.ttl

/-- `_check_redis_sliding_window` -/
def redisWindow (config : RateLimitConfig) (tokensUsed : ℕ) (countRequest : Bool) (now : ℚ) (counters : Counters) :
    WindowCheck × Counters :=
  match redisRefusal config tokensUsed now counters [.minute, .hour, .day] with
  | some refusal => (refusal, counters)
  | none =>
    let minuteRequests := counters.get now ⟨.requests, .minute, Period.minute.index now⟩
    let minuteTokens := counters.get now ⟨.tokens, .minute, Period.minute.index now⟩
    (⟨true, config.requestsPerMinute - minuteRequests - 1, config.tokensPerMinute - minuteTokens - tokensUsed,
        Period.minute.reset now, none, none⟩,
      [Period.minute, .hour, .day].foldl (fun counters p => countPeriod tokensUsed countRequest now p counters) counters)

/-- `local_cache[api_key]`, the oldest first. -/
structure Window where
  requests : List ℚ := []
  tokens : List (ℚ × ℕ) := []

def Window.clean (w : Window) (windowStart : ℚ) : Window where
  requests := w.requests.dropWhile fun t => t < windowStart
  tokens := w.tokens.dropWhile fun e => e.1 < windowStart

/-- `_check_local_sliding_window`. -/
def localWindow (config : RateLimitConfig) (tokensUsed : ℕ) (countRequest : Bool) (now : ℚ) (w : Window) : WindowCheck × Window :=
  let w := w.clean (now - config.windowSizeSeconds)
  let currentRequests := w.requests.length
  let currentTokens := (w.tokens.map Prod.snd).sum
  if config.requestsPerMinute ≤ currentRequests then
    (⟨false, 0, 0, Period.minute.reset now, some 60, some "Minute request limit exceeded"⟩, w)
  else if config.tokensPerMinute < currentTokens + tokensUsed then
    (⟨false, config.requestsPerMinute - currentRequests, 0, Period.minute.reset now, some 60, some "Minute token limit exceeded"⟩, w)
  else
    (⟨true, config.requestsPerMinute - currentRequests - 1, config.tokensPerMinute - currentTokens - tokensUsed,
        Period.minute.reset now, none, none⟩,
      { requests := if countRequest then w.requests ++ [now] else w.requests, tokens := w.tokens ++ [(now, tokensUsed)] })

/-! ## The limiter -/

structure Store where
  buckets : String → Option RedisBucket := fun _ => none
  counters : String → Counters := fun _ _ => none

/-- `SlidingWindowRateLimiter` -/
structure Limiter where
  redisClient : Option Store := none
  concurrentRequests : String → ℕ := fun _ => 0
  bursts : String → Option Bucket := fun _ => none
  localCache : String → Window := fun _ => {}

namespace Limiter

variable (s : Limiter) (config : RateLimitConfig) (apiKey : String)

def checkConcurrencyLimit : LimitCheck :=
  let current := s.concurrentRequests apiKey
  if config.concurrencyLimit ≤ current then ⟨false, 0, current, config.concurrencyLimit, none⟩
  else ⟨true, config.concurrencyLimit - current, current, config.concurrencyLimit, none⟩

def checkBurstLimit (consume : Bool) (now : ℚ) : LimitCheck × Limiter :=
  match s.redisClient with
  | some store =>
    let (check, bucket) := redisBurst config consume now (store.buckets apiKey)
    (check, { s with redisClient := some { store with buckets := Function.update store.buckets apiKey bucket } })
  | none =>
    let (check, bucket) := localBurst config consume now (s.bursts apiKey)
    (check, { s with bursts := Function.update s.bursts apiKey bucket })

def checkSlidingWindow (tokensUsed : ℕ) (countRequest : Bool) (now : ℚ) : WindowCheck × Limiter :=
  match s.redisClient with
  | some store =>
    let (check, counters) := redisWindow config tokensUsed countRequest now (store.counters apiKey)
    (check, { s with redisClient := some { store with counters := Function.update store.counters apiKey counters } })
  | none =>
    let (check, window) := localWindow config tokensUsed countRequest now (s.localCache apiKey)
    (check, { s with localCache := Function.update s.localCache apiKey window })

/-- `increment_concurrent_requests` -/
def increment : Limiter :=
  { s with concurrentRequests := Function.update s.concurrentRequests apiKey (s.concurrentRequests apiKey + 1) }

/-- `release_concurrent_request` -/
def release : Limiter :=
  { s with concurrentRequests := Function.update s.concurrentRequests apiKey (s.concurrentRequests apiKey - 1) }

def checkRateLimit (tokensUsed : ℕ) (acquireConcurrency countRequest : Bool) (now : ℚ) : RateLimitResult × Limiter :=
  let concurrency := s.checkConcurrencyLimit config apiKey
  if concurrency.allowed then
    let (burst, s) := s.checkBurstLimit config apiKey countRequest now
    if burst.allowed then
      let (window, s) := s.checkSlidingWindow config apiKey tokensUsed countRequest now
      let result : RateLimitResult :=
        { allowed := window.allowed, remainingRequests := window.remainingRequests, remainingTokens := window.remainingTokens,
          resetTime := window.resetTime, retryAfter := window.retryAfter, reason := window.reason,
          burstRemaining := burst.remaining, concurrencyRemaining := concurrency.remaining,
          headers := rateLimitHeaders config window.resetTime }
      (result, if window.allowed && acquireConcurrency then s.increment apiKey else s)
    else
      ({ allowed := false, remainingRequests := 0, remainingTokens := 0, resetTime := now + burst.retryAfter.getD 0,
          retryAfter := burst.retryAfter, reason := some "Burst limit exceeded", burstRemaining := burst.remaining,
          headers := rateLimitHeaders config (now + burst.retryAfter.getD 0) },
        s)
  else
    ({ allowed := false, remainingRequests := 0, remainingTokens := 0, resetTime := now + 60, retryAfter := some 60,
        reason := some "Concurrency limit exceeded", headers := rateLimitHeaders config (now + 60) },
      s)

end Limiter

end Gatewayz.Limits
