import Gatewayz.Exec.Machine
import Gatewayz.Exec.Windows
import Gatewayz.Limits.SlidingWindow

/-!
# `Limits.Endpoints` — the limiters of single endpoints

`services/auth_rate_limiting.py` keeps, for an address and a kind of attempt, the moments of the attempts it has let through. This is
what it does without Redis; with Redis, `sliding_window_check` decides. `services/endpoint_rate_limiter.py` counts the requests of a
key to an endpoint, from one multiple of its window to the next.

Moments are seconds since the epoch, and the clock does not go back. A call is one event.
-/

namespace Gatewayz.Limits

open Exec

/-! ## Attempts to sign in -/

inductive AuthRateLimitType where
  | login
  | register
  | passwordReset
  | apiKeyCreate
  deriving DecidableEq

def AuthRateLimitType.value : AuthRateLimitType → String
  | .login => "login"
  | .register => "register"
  | .passwordReset => "password_reset"
  | .apiKeyCreate => "api_key_create"

structure AuthRateLimitConfig where
  loginAttemptsPerWindow : ℕ := 10
  loginWindowSeconds : ℕ := 900
  registerAttemptsPerWindow : ℕ := 3
  registerWindowSeconds : ℕ := 3600
  passwordResetAttemptsPerWindow : ℕ := 3
  passwordResetWindowSeconds : ℕ := 3600
  apiKeyCreateAttemptsPerWindow : ℕ := 10
  apiKeyCreateWindowSeconds : ℕ := 3600

/-- `_config_for`: limit and window. -/
def AuthRateLimitConfig.configFor (config : AuthRateLimitConfig) : AuthRateLimitType → ℕ × ℕ
  | .login => (config.loginAttemptsPerWindow, config.loginWindowSeconds)
  | .register => (config.registerAttemptsPerWindow, config.registerWindowSeconds)
  | .passwordReset => (config.passwordResetAttemptsPerWindow, config.passwordResetWindowSeconds)
  | .apiKeyCreate => (config.apiKeyCreateAttemptsPerWindow, config.apiKeyCreateWindowSeconds)

structure AuthRateLimitResult where
  allowed : Bool
  remaining : ℤ
  retryAfter : Option ℤ := none
  reason : Option String := none
  limitType : AuthRateLimitType

/-- `_local_check` on the moments of one address. With a limit of zero there is no oldest one, and it raises. -/
def localCheck (limit window : ℕ) (limitType : AuthRateLimitType) (record : Bool) (now : ℚ) (timestamps : List ℚ) :
    Option AuthRateLimitResult × List ℚ :=
  let timestamps := timestamps.dropWhile fun ts => ts < now - window
  let count := timestamps.length
  if limit ≤ count then
    (timestamps.head?.map fun oldest =>
      { allowed := false
        remaining := 0
        retryAfter := some (max 1 (int (oldest + window - now) + 1))
        reason := some (limitType.value ++ " rate limit exceeded")
        limitType := limitType }, timestamps)
  else
    (some { allowed := true, remaining := max 0 ((limit : ℤ) - count - if record then 1 else 0), limitType := limitType },
      if record then timestamps ++ [now] else timestamps)

inductive AuthAction where
  | checkRateLimit
  | getRemaining
  | reset

structure AuthCall where
  action : AuthAction
  identifier : String
  limitType : AuthRateLimitType
  now : ℚ

/-- What a call answers, if it does not raise. -/
inductive AuthReply where
  | result (r : Option AuthRateLimitResult)
  | remaining (n : Option ℤ)
  | done

/-- `AuthRateLimiter`, with the clock, and with the attempts that it has let through since the last reset. -/
structure AuthRateLimiter where
  buckets : AuthRateLimitType × String → List ℚ := fun _ => []
  now : ℚ := 0
  admitted : AuthRateLimitType × String → Log := fun _ => []

namespace AuthRateLimiter

def call (config : AuthRateLimitConfig) (s : AuthRateLimiter) (c : AuthCall) : AuthRateLimiter × AuthReply :=
  let key := (c.limitType, c.identifier)
  let check := fun record =>
    localCheck (config.configFor c.limitType).1 (config.configFor c.limitType).2 c.limitType record c.now (s.buckets key)
  match c.action with
  | .checkRateLimit =>
    ({ buckets := Function.update s.buckets key (check true).2
       now := c.now
       admitted := Function.update s.admitted key
        (s.admitted key ++ if (check true).1.any fun r => r.allowed then [(c.now, 1)] else []) }, .result (check true).1)
  | .getRemaining =>
    ({ s with buckets := Function.update s.buckets key (check false).2, now := c.now },
      .remaining ((check false).1.map fun r => if r.allowed then r.remaining else 0))
  | .reset =>
    ({ buckets := Function.update s.buckets key [], now := c.now, admitted := Function.update s.admitted key [] }, .done)

end AuthRateLimiter

def authMachine (config : AuthRateLimitConfig) : Machine AuthRateLimiter AuthCall AuthReply where
  init := {}
  step := fun s c => if s.now ≤ c.now then some (s.call config c) else none

/-! ## Requests to an endpoint -/

/-- What is kept of an endpoint: `_buckets` and `_last_cleanup`. -/
structure EndpointBuckets where
  store : String × ℤ → Option ℕ := fun _ => none
  lastCleanup : ℚ := 0

def bucketId (window : ℕ) (now : ℚ) : ℤ := int now / window

/-- `_cleanup_stale_buckets`. Every two minutes only the current buckets are kept. -/
def cleanupStaleBuckets (window : ℕ) (now : ℚ) (b : EndpointBuckets) : EndpointBuckets :=
  if now - b.lastCleanup < 120 then b
  else { store := fun key => (b.store key).filter fun _ => ¬ key.2 < bucketId window now, lastCleanup := now }

structure EndpointVerdict where
  allowed : Bool
  remaining : ℤ
  retryAfter : ℤ
  deriving DecidableEq

/-- `_check_rate_limit`. The cleanup looks at the clock once more. -/
def checkEndpoint (maxRequests window : ℕ) (apiKey : String) (now cleanupAt : ℚ) (b : EndpointBuckets) :
    EndpointVerdict × EndpointBuckets :=
  let key := (apiKey, bucketId window now)
  let count := (b.store key).getD 0
  if maxRequests ≤ count then (⟨false, 0, max 1 (int ((bucketId window now + 1) * window - now))⟩, b)
  else
    (⟨true, maxRequests - count - 1, 0⟩,
      cleanupStaleBuckets window cleanupAt { b with store := Function.update b.store key (some (count + 1)) })

/-- A request comes with a key, and is let through or not. -/
structure EndpointCall where
  apiKey : String
  now : ℚ
  cleanupAt : ℚ

/-- An endpoint, with the clock, and with the requests of each key that were let through. -/
structure Endpoint where
  buckets : EndpointBuckets := {}
  now : ℚ := 0
  admitted : String → List ℚ := fun _ => []

def endpointMachine (maxRequests window : ℕ) : Machine Endpoint EndpointCall EndpointVerdict where
  init := {}
  step := fun s c =>
    if s.now ≤ c.now ∧ c.now ≤ c.cleanupAt then
      let (verdict, buckets) := checkEndpoint maxRequests window c.apiKey c.now c.cleanupAt s.buckets
      some ({ buckets := buckets
              now := c.cleanupAt
              admitted := if verdict.allowed then Function.update s.admitted c.apiKey (s.admitted c.apiKey ++ [c.now])
                else s.admitted }, verdict)
    else none

end Gatewayz.Limits
