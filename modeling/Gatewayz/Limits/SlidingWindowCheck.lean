import Gatewayz.Exec.Prog
import Gatewayz.Exec.SortedSet
import Mathlib.Data.String.Basic

/-!
# `Limits.SlidingWindowCheck` — `sliding_window_check`

The primitive of `services/rate_limiting.py` on one sorted set of Redis for each key: what was allowed is a member whose score is
its moment, and a call first removes what has left the window. Where Redis is not there, or fails, a setting says what becomes of
the call.

Moments are milliseconds since the epoch, windows are seconds.
-/

namespace Gatewayz.Limits

open Exec

/-! ## Redis -/

structure StoredSet where
  value : SortedSet String ℕ := {}
  expiresAt : Option ℕ := none

def StoredSet.alive (stored : StoredSet) (now : ℕ) : Bool := stored.expiresAt.all fun t => now ≤ t

structure Redis where
  client : Bool := true
  clock : ℕ := 0
  sets : String → Option StoredSet := fun _ => none

namespace Redis

variable (r : Redis) (key : String)

def live : Option StoredSet := (r.sets key).filter fun stored => stored.alive r.clock

/-- The set under a key; a key that is not there is an empty set. -/
def get : SortedSet String ℕ := ((r.live key).map StoredSet.value).getD {}

/-- A new set under a key. A set that is empty goes with its key. -/
def put (value : SortedSet String ℕ) (expiresAt : Option ℕ) : Redis :=
  { r with sets := Function.update r.sets key (if value.card = 0 then none else some ⟨value, expiresAt⟩) }

def zremrangebyscore (low high : ℤ) : Redis :=
  r.put key ((r.get key).drop fun score => low ≤ score && score ≤ high) ((r.live key).bind StoredSet.expiresAt)

def zcard : ℕ := (r.get key).card

def zadd (member : String) (score : ℕ) : Redis :=
  r.put key ((r.get key).add member score) ((r.live key).bind StoredSet.expiresAt)

def expire (seconds : ℕ) : Redis :=
  { r with
    sets := Function.update r.sets key ((r.live key).map fun stored => ⟨stored.value, some (r.clock + 1000 * seconds)⟩) }

end Redis

/-- What is asked of Redis; a pipeline is one request. -/
inductive RedisStmt where
  | getRedisClient
  | trimAndCount (key : String) (windowStart : ℤ)
  | oldest (key : String)
  | addAndExpire (key member : String) (score seconds : ℕ)

abbrev RedisRes : RedisStmt → Type
  | .getRedisClient => Bool
  | .trimAndCount _ _ => ℕ
  | .oldest _ => Option (String × ℕ)
  | .addAndExpire _ _ _ _ => Unit

/-- Redis answers. -/
def Redis.exec {ξ : Type} (s : RedisStmt) (r : Redis) : Except ξ (RedisRes s) × Redis :=
  match s with
  | .getRedisClient => (.ok r.client, r)
  | .trimAndCount key windowStart =>
    let r := r.zremrangebyscore key 0 windowStart
    (.ok (r.zcard key), r)
  | .oldest key => (.ok (r.get key).lowest, r)
  | .addAndExpire key member score seconds => (.ok (), (r.zadd key member score).expire key seconds)

def askRedis {ξ : Type} (s : RedisStmt) : Prog ξ RedisStmt RedisRes (RedisRes s) := .stmt s

/-! ## The check -/

structure SlidingVerdict where
  allowed : Bool
  remaining : ℕ
  retryAfter : Option ℤ
  deriving DecidableEq

/-- The answer without Redis, which `RATE_LIMIT_FAIL_CLOSED` decides. -/
def withoutRedis (failOpen : Bool) (limit windowSeconds : ℕ) : SlidingVerdict :=
  if failOpen then ⟨true, limit, none⟩ else ⟨false, 0, some windowSeconds⟩

/-- `f"{now_ms}:{count}"` -/
def memberName (nowMs count : ℕ) : String := toString nowMs ++ ":" ++ toString count

/-- When the oldest member will have left the window; it is said in whole seconds. -/
def retryHint (windowSeconds nowMs : ℕ) : Option (String × ℕ) → ℤ
  | some (_, oldestTs) => max 1 (((oldestTs : ℤ) + windowSeconds * 1000 - nowMs).tdiv 1000 + 1)
  | none => windowSeconds

def slidingWindowCheck {ξ : Type} (failOpen : Bool) (nowMs : ℕ) (key : String) (limit windowSeconds : ℕ) :
    Prog ξ RedisStmt RedisRes SlidingVerdict := do
  let client ← (askRedis .getRedisClient).attempt
  match client with
  | .error _ => pure (withoutRedis failOpen limit windowSeconds)
  | .ok false => pure (withoutRedis failOpen limit windowSeconds)
  | .ok true =>
    tryCatch
      (do
        let count ← askRedis (.trimAndCount key ((nowMs : ℤ) - windowSeconds * 1000))
        if limit ≤ count then do
          let oldest ← askRedis (.oldest key)
          pure ⟨false, 0, some (retryHint windowSeconds nowMs oldest)⟩
        else do
          askRedis (.addAndExpire key (memberName nowMs count) nowMs (windowSeconds + 1))
          pure ⟨true, limit - count - 1, none⟩)
      fun _ => pure (withoutRedis failOpen limit windowSeconds)

end Gatewayz.Limits
