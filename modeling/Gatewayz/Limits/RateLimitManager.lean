import Gatewayz.Exec.Dictionary
import Gatewayz.Limits.SlidingWindow

/-!
# `Limits.RateLimitManager` — `RateLimitManager`

In front of the limiter stands a manager. It knows the configuration of each key, lets admins pass, holds suspicious accounts to
limits of their own, and **remembers what it allowed** for some seconds: a call that is answered from there is neither counted nor
does it take a slot.
-/

namespace Gatewayz.Limits

open Exec.Dictionary

def blockedAccountConfig : RateLimitConfig where
  requestsPerMinute := 1
  requestsPerHour := 5
  requestsPerDay := 10
  tokensPerMinute := 100
  tokensPerHour := 500
  tokensPerDay := 1000
  burstLimit := 1
  concurrencyLimit := 1

def severeRateLimitConfig : RateLimitConfig where
  requestsPerMinute := 5
  requestsPerHour := 20
  requestsPerDay := 50
  tokensPerMinute := 500
  tokensPerHour := 2000
  tokensPerDay := 5000
  burstLimit := 3
  concurrencyLimit := 1

/-- What the manager learns of an account: its tier, and the domain of its address. -/
inductive Account where
  | ordinary
  | admin
  | blockedDomain
  | temporaryDomain
  deriving DecidableEq

/-- `_get_severe_rate_limit_config_with_user` -/
def Account.severeConfig : Account → Option RateLimitConfig
  | ordinary | admin => none
  | blockedDomain => some blockedAccountConfig
  | temporaryDomain => some severeRateLimitConfig

/-- What an admin is answered. -/
def adminResult (now : ℚ) : RateLimitResult where
  allowed := true
  remainingRequests := 2147483647
  remainingTokens := 2147483647
  resetTime := now + 365 * 86400
  reason := some "Admin tier - unlimited access"
  burstRemaining := 2147483647
  concurrencyRemaining := 1000
  headers := ⟨2147483647, 2147483647, int (now + 365 * 86400), int (now + 365 * 86400), "unlimited"⟩

structure RateLimitManager where
  rateLimiter : Limiter := {}
  keyConfigs : String → Option RateLimitConfig := fun _ => none
  resultCache : List (String × RateLimitResult × ℚ) := []

namespace RateLimitManager

def cacheTtl : ℚ := 15

def cacheKey (apiKey : String) (tokensUsed : ℕ) : String := apiKey ++ ":" ++ toString tokensUsed

variable (m : RateLimitManager)

def cached (key : String) (now : ℚ) : Option RateLimitResult :=
  ((m.resultCache.lookup key).filter fun e => now - e.2 < cacheTtl).map Prod.fst

/-- An answer is remembered. The oldest are forgotten, if there are too many. -/
def remember (key : String) (result : RateLimitResult) (now : ℚ) : RateLimitManager :=
  let cache := m.resultCache ++ [(key, result, now)]
  if 1000 < cache.length then
    let old := ((cache.mergeSort fun a b => a.2.2 ≤ b.2.2).take 200).map Prod.fst
    { m with resultCache := cache.filter fun e => e.1 ∉ old }
  else { m with resultCache := cache }

/-- `get_key_config`: what the database has is asked for once. -/
def getKeyConfig (stored : String → RateLimitConfig) (apiKey : String) : RateLimitConfig × RateLimitManager :=
  match m.keyConfigs apiKey with
  | some config => (config, m)
  | none => (stored apiKey, { m with keyConfigs := Function.update m.keyConfigs apiKey (some (stored apiKey)) })

/-- The limiter is asked. -/
def ask (config : RateLimitConfig) (apiKey : String) (tokensUsed : ℕ) (acquireConcurrency countRequest : Bool) (now : ℚ) :
    RateLimitResult × RateLimitManager :=
  let (result, limiter) := m.rateLimiter.checkRateLimit config apiKey tokensUsed acquireConcurrency countRequest now
  (result, { m with rateLimiter := limiter })

/-- `check_rate_limit`, past the cache. -/
def pastCache (stored : String → RateLimitConfig) (account : Account) (apiKey : String) (tokensUsed : ℕ)
    (acquireConcurrency countRequest : Bool) (now : ℚ) : RateLimitResult × RateLimitManager :=
  if account = .admin then (adminResult now, m)
  else
    match account.severeConfig with
    | some config => m.ask config apiKey tokensUsed acquireConcurrency countRequest now
    | none =>
      let (config, m) := m.getKeyConfig stored apiKey
      let (result, m) := m.ask config apiKey tokensUsed acquireConcurrency countRequest now
      if (acquireConcurrency && countRequest) && result.allowed then (result, m.remember (cacheKey apiKey tokensUsed) result now)
      else (result, m)

def checkRateLimit (stored : String → RateLimitConfig) (account : Account) (apiKey : String) (tokensUsed : ℕ)
    (acquireConcurrency countRequest : Bool) (now : ℚ) : RateLimitResult × RateLimitManager :=
  if acquireConcurrency && countRequest then
    match m.cached (cacheKey apiKey tokensUsed) now with
    | some result => (result, m)
    | none =>
      -- what was too old is dropped
      let m := { m with resultCache := pop m.resultCache (cacheKey apiKey tokensUsed) }
      m.pastCache stored account apiKey tokensUsed acquireConcurrency countRequest now
  else m.pastCache stored account apiKey tokensUsed acquireConcurrency countRequest now

def releaseConcurrency (apiKey : String) : RateLimitManager := { m with rateLimiter := m.rateLimiter.release apiKey }

end RateLimitManager

end Gatewayz.Limits
