import Gatewayz.Limits.SlidingWindow

/-!
# `Correctness.BurstAgrees` — the two token buckets

`_check_burst_limit` takes a bucket that is not in Redis for an empty one, refuses, and writes nothing; so the bucket stays missing
and every later call finds it as empty as the first (`verdicts_redis`). In the process a new bucket is full. From a key that neither
knows the two agree on no call at all.
-/

namespace Gatewayz.Limits

/-- A call of `_check_burst_limit`. -/
structure BurstCall where
  consume : Bool
  now : ℚ

namespace Limiter

variable (config : RateLimitConfig) (apiKey : String)

def verdicts : Limiter → List BurstCall → List Bool
  | _, [] => []
  | s, c :: cs =>
    let (check, s) := s.checkBurstLimit config apiKey c.consume c.now
    check.allowed :: verdicts s cs

def Unknown (s : Limiter) (apiKey : String) : Prop :=
  match s.redisClient with
  | some store => store.buckets apiKey = none
  | none => s.bursts apiKey = none

variable {config : RateLimitConfig} {apiKey : String} {s : Limiter} {store : Store}

/-- An empty bucket refuses, and stays missing. -/
theorem redisBurst_none (config : RateLimitConfig) (consume : Bool) (now : ℚ) :
    (redisBurst config consume now none).1.allowed = false ∧ (redisBurst config consume now none).2 = none := by
  have hempty : refilled config 0 now now ≤ 0 := by
    unfold refilled
    rw [sub_self, zero_mul, add_zero]
    exact min_le_right _ _
  have hrefused : ¬ 1 ≤ refilled config 0 now now := by linarith
  unfold redisBurst
  simp only [Option.filter_none, Option.map_none, Option.getD_none]
  rw [if_neg hrefused]
  exact ⟨rfl, rfl⟩

/-- With Redis every call is refused: by induction on the calls. -/
theorem verdicts_redis (hclient : s.redisClient = some store) (hunknown : store.buckets apiKey = none) (calls : List BurstCall) :
    s.verdicts config apiKey calls = calls.map fun _ => false := by
  induction calls generalizing s store with
  | nil => rfl
  | cons c cs ih =>
    obtain ⟨hverdict, hmissing⟩ := redisBurst_none config c.consume c.now
    have hcheck : s.checkBurstLimit config apiKey c.consume c.now =
        ((redisBurst config c.consume c.now none).1,
          { s with redisClient := some { store with buckets := Function.update store.buckets apiKey none } }) := by
      unfold checkBurstLimit
      rw [hclient]
      dsimp only
      rw [hunknown, hmissing]
    rw [verdicts, hcheck, List.map_cons]
    dsimp only
    rw [hverdict, ih rfl (Function.update_self _ _ _)]

/-- In the process the first call is allowed. -/
theorem verdicts_local (hburst : 1 ≤ config.burstLimit) (hclient : s.redisClient = none) (hunknown : s.bursts apiKey = none)
    (c : BurstCall) (cs : List BurstCall) : ∃ verdicts, s.verdicts config apiKey (c :: cs) = true :: verdicts := by
  have hfull : 1 ≤ refilled config config.burstLimit c.now c.now := by
    unfold refilled
    rw [sub_self, zero_mul, add_zero, min_self]
    exact_mod_cast hburst
  have hcheck : (s.checkBurstLimit config apiKey c.consume c.now).1.allowed = true := by
    unfold checkBurstLimit
    rw [hclient]
    dsimp only
    rw [hunknown]
    unfold localBurst
    simp only [Option.map_none, Option.getD_none]
    rw [if_pos hfull]
  rw [verdicts]
  exact ⟨_, congrArg (· :: _) hcheck⟩

end Limiter

/-- **The buckets agree on the empty sequence only.** -/
theorem burst_agrees_iff (config : RateLimitConfig) (hburst : 1 ≤ config.burstLimit) (apiKey : String) (redis process : Limiter)
    (hredis : redis.redisClient.isSome = true) (hprocess : process.redisClient = none) (hunknown : redis.Unknown apiKey)
    (hunknown' : process.Unknown apiKey) (calls : List BurstCall) :
    redis.verdicts config apiKey calls = process.verdicts config apiKey calls ↔ calls = [] := by
  obtain ⟨store, hclient⟩ := Option.isSome_iff_exists.mp hredis
  unfold Limiter.Unknown at hunknown hunknown'
  rw [hclient] at hunknown
  rw [hprocess] at hunknown'
  constructor
  · intro heq
    cases calls with
    | nil => rfl
    | cons c cs =>
      obtain ⟨verdicts, hallowed⟩ := Limiter.verdicts_local hburst hprocess hunknown' c cs
      rw [Limiter.verdicts_redis hclient hunknown, hallowed, List.map_cons] at heq
      cases heq
  · rintro rfl
    rfl

def threeCalls : List BurstCall := [⟨true, 0⟩, ⟨false, 600⟩, ⟨true, 1200⟩]

theorem burst_agrees_iff_three :
    (({ redisClient := some {} } : Limiter).verdicts {} "k" threeCalls = ({} : Limiter).verdicts {} "k" threeCalls ↔ threeCalls = []) :=
  burst_agrees_iff {} (by decide) "k" { redisClient := some {} } {} rfl rfl rfl rfl threeCalls

/-- Redis refuses them all, however long the bucket had to fill; the process allows them. -/
theorem burst_disagrees :
    ({ redisClient := some {} } : Limiter).verdicts {} "k" threeCalls = [false, false, false] ∧
      ({} : Limiter).verdicts {} "k" threeCalls = [true, true, true] := by
  decide +kernel

end Gatewayz.Limits
