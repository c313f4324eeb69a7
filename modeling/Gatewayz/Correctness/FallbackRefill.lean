import Gatewayz.Correctness.FallbackKeys
import Mathlib.Algebra.BigOperators.Intervals
import Mathlib.Algebra.BigOperators.Ring.Finset

/-!
# `Correctness.FallbackRefill` — what the fallback bucket is credited with

A refill is for the seconds since the last one and brings whole tokens; the fraction is lost, for the clock starts again
(`credited_add_truncated`).

A bucket that is empty still comes back: refills that bring nothing are less than the time of one token apart, so that `burstLimit + 1`
refused calls in a row all fall within a minute (`exists_allowed`).
-/

namespace Gatewayz.Limits.Fallback

open Finset (Ico range)

section Calls

variable (apiKey : String) (config : RateLimitConfig) (times : ℕ → ℚ)

/-- The limiter before a call; the calls are the checks of one key, and the first finds nothing of it. -/
def limiterBefore : ℕ → InMemoryRateLimiter
  | 0 => {}
  | n + 1 => ((limiterBefore n).checkBurstLimit apiKey config (times n)).2

def bucketBefore (n : ℕ) : BurstBucket := (limiterBefore apiKey config times n).burstBucket apiKey

def allowedAt (n : ℕ) : Bool := ((limiterBefore apiKey config times n).checkBurstLimit apiKey config (times n)).1

def tokensAt (n : ℕ) : ℤ := ((bucketBefore apiKey config times n).refill config.burstLimit (times n)).tokens

def creditedAt (n : ℕ) : ℤ := tokensAt apiKey config times n - (bucketBefore apiKey config times n).tokens

def refillBefore : ℕ → ℚ
  | 0 => 0
  | n + 1 => if 1 ≤ times n - refillBefore n then times n else refillBefore n

def truncatedAt (n : ℕ) : ℚ :=
  if 1 ≤ times n - refillBefore times n then Int.fract ((times n - refillBefore times n) * config.burstLimit / 60) else 0

variable {apiKey config times} {n : ℕ}

theorem bucketBefore_succ :
    bucketBefore apiKey config times (n + 1) = ((bucketBefore apiKey config times n).check config.burstLimit (times n)).2 :=
  InMemoryRateLimiter.burstBucket_checkBurstLimit _ apiKey config (times n)

theorem lastRefill_bucketBefore : (bucketBefore apiKey config times n).lastRefill = refillBefore times n := by
  induction n with
  | zero => rfl
  | succ n ih =>
    rw [bucketBefore_succ, BurstBucket.check_lastRefill, BurstBucket.refill, ih, refillBefore]
    split
    · rfl
    · exact ih

theorem tokens_bucketBefore_nonneg : 0 ≤ (bucketBefore apiKey config times n).tokens := by
  induction n with
  | zero => exact le_refl _
  | succ n ih =>
    rw [bucketBefore_succ]
    exact BurstBucket.check_nonneg ih

theorem tokensAt_of_refill (h : 1 ≤ times n - refillBefore times n) : tokensAt apiKey config times n =
      min (config.burstLimit : ℤ) ((bucketBefore apiKey config times n).tokens + int ((times n - refillBefore times n) * config.burstLimit / 60)) := by
  rw [tokensAt, BurstBucket.refill, lastRefill_bucketBefore, if_pos h]
  have htokens : 0 ≤ (bucketBefore apiKey config times n).tokens := tokens_bucketBefore_nonneg
  change min _ (_ + min _ _) = _
  omega

theorem tokensAt_of_recent (h : ¬1 ≤ times n - refillBefore times n) :
    tokensAt apiKey config times n = (bucketBefore apiKey config times n).tokens := by
  rw [tokensAt, BurstBucket.refill_of_recent (by rwa [lastRefill_bucketBefore])]

theorem int_worth (h : 1 ≤ times n - refillBefore times n) :
    int ((times n - refillBefore times n) * config.burstLimit / 60) = ⌊(times n - refillBefore times n) * config.burstLimit / 60⌋ := by
  have hlimit : (0 : ℚ) ≤ config.burstLimit := Nat.cast_nonneg _
  exact if_pos (div_nonneg (mul_nonneg (zero_le_one.trans h) hlimit) (by norm_num))

/-! ## The interval -/

/-- A refill that does not fill the bucket brings what the time since the last one is worth, less a fraction. -/
theorem credited_add_truncated (hfull : tokensAt apiKey config times n < config.burstLimit) :
    (creditedAt apiKey config times n : ℚ) + truncatedAt config times n =
      (refillBefore times (n + 1) - refillBefore times n) * config.burstLimit / 60 := by
  rw [creditedAt, truncatedAt, refillBefore]
  by_cases hrefill : 1 ≤ times n - refillBefore times n
  · rw [tokensAt_of_refill hrefill] at hfull ⊢
    rw [if_pos hrefill, if_pos hrefill, min_eq_right (by omega), add_sub_cancel_left, int_worth hrefill]
    exact Int.floor_add_fract _
  · rw [tokensAt_of_recent hrefill, if_neg hrefill, if_neg hrefill, sub_self, sub_self, zero_mul, zero_div, Int.cast_zero,
      add_zero]

/-- The tokens that the refills of the calls from `m` up to `n` bring. -/
def credited (apiKey : String) (config : RateLimitConfig) (times : ℕ → ℚ) (m n : ℕ) : ℤ := ∑ k ∈ Ico m n, creditedAt apiKey config times k

def truncated (config : RateLimitConfig) (times : ℕ → ℚ) (m n : ℕ) : ℚ := ∑ k ∈ Ico m n, truncatedAt config times k

theorem sum_credited_add_truncated {m : ℕ} (hle : m ≤ n) (hfull : ∀ k ∈ Ico m n, tokensAt apiKey config times k < config.burstLimit) :
    (credited apiKey config times m n : ℚ) + truncated config times m n =
      (refillBefore times n - refillBefore times m) * config.burstLimit / 60 := by
  have hterm : ∀ k ∈ Ico m n, (creditedAt apiKey config times k : ℚ) + truncatedAt config times k =
      refillBefore times (k + 1) * config.burstLimit / 60 - refillBefore times k * config.burstLimit / 60 := by
    intro k hk
    rw [credited_add_truncated (hfull k hk), sub_mul, sub_div]
  rw [credited, truncated, Int.cast_sum, ← Finset.sum_add_distrib, Finset.sum_congr rfl hterm,
    Finset.sum_Ico_sub (fun k => refillBefore times k * config.burstLimit / 60) hle, sub_mul, sub_div]

/-- The rate, less one token, is kept over an interval if and only if less than two tokens are lost: as fractions, and as time that has
passed without a refill at its end and not at its beginning. -/
theorem credited_iff {m : ℕ} (hle : m ≤ n) (hfull : ∀ k ∈ Ico m n, tokensAt apiKey config times k < config.burstLimit) (a e : ℚ) :
    ⌊(e - a) * config.burstLimit / 60⌋ - 1 ≤ credited apiKey config times m n ↔
      truncated config times m n +
        ((e - refillBefore times n) - (a - refillBefore times m)) * config.burstLimit / 60 < 2 := by
  have hsum := sum_credited_add_truncated hle hfull
  have hsplit : (e - a) * config.burstLimit / 60 = credited apiKey config times m n + (truncated config times m n +
      ((e - refillBefore times n) - (a - refillBefore times m)) * config.burstLimit / 60) := by
    rw [← add_assoc, hsum]
    ring
  rw [hsplit, Int.floor_intCast_add, add_sub_assoc, add_le_iff_nonpos_right, sub_nonpos, ← Int.lt_add_one_iff, Int.floor_lt]
  norm_num

/-! ## An empty bucket -/

theorem allowedAt_eq : allowedAt apiKey config times n = decide (0 < tokensAt apiKey config times n) := BurstBucket.check_spec.1

theorem refillBefore_le_succ (hmono : Monotone times) (hepoch : 0 ≤ times 0) : refillBefore times (n + 1) ≤ times n := by
  induction n with
  | zero =>
    rw [refillBefore]
    split
    · exact le_refl _
    · exact hepoch
  | succ n ih =>
    rw [refillBefore]
    split
    · exact le_refl _
    · exact ih.trans (hmono n.le_succ)

theorem elapsed_of_refused (hlimit : 1 ≤ config.burstLimit) (hrefused : allowedAt apiKey config times n = false)
    (hrefill : 1 ≤ times n - refillBefore times n) : (times n - refillBefore times n) * config.burstLimit < 60 := by
  have hempty : ¬0 < tokensAt apiKey config times n := of_decide_eq_false (allowedAt_eq.symm.trans hrefused)
  rw [tokensAt_of_refill hrefill, int_worth hrefill] at hempty
  have hnonneg : 0 ≤ (bucketBefore apiKey config times n).tokens := tokens_bucketBefore_nonneg
  have hfloor : ⌊(times n - refillBefore times n) * config.burstLimit / 60⌋ < 1 := by omega
  have hworth := Int.floor_lt.mp hfloor
  rw [div_lt_iff₀ (by norm_num)] at hworth
  simpa using hworth

/-- Of refills that bring nothing, the first is at the first refused call at the latest, and one follows the other within the time of a
token. -/
theorem refillBefore_of_refused (hmono : Monotone times) (hepoch : 0 ≤ times 0) (hlimit : 1 ≤ config.burstLimit) (k : ℕ)
    (hrefused : ∀ j ≤ k, allowedAt apiKey config times (n + j) = false) :
    (refillBefore times (n + k + 1) - times n) * config.burstLimit ≤ 60 * k := by
  have hnonneg : (0 : ℚ) ≤ config.burstLimit := Nat.cast_nonneg _
  induction k with
  | zero =>
    rw [Nat.cast_zero, mul_zero]
    exact mul_nonpos_of_nonpos_of_nonneg (sub_nonpos.mpr (refillBefore_le_succ hmono hepoch)) hnonneg
  | succ k ih =>
    have hbefore := ih fun j hj => hrefused j (hj.trans k.le_succ)
    rw [Nat.cast_succ, refillBefore]
    split
    · next hrefill =>
      have helapsed := elapsed_of_refused hlimit (hrefused (k + 1) (le_refl _)) hrefill
      have hsum : (times (n + (k + 1)) - times n) * config.burstLimit =
          (times (n + (k + 1)) - refillBefore times (n + (k + 1))) * config.burstLimit +
            (refillBefore times (n + k + 1) - times n) * config.burstLimit := by
        rw [← add_assoc]
        ring
      rw [hsum]
      linarith
    · rw [← add_assoc]
      linarith

theorem refillBefore_of_refused_of_lt (hmono : Monotone times) (hepoch : 0 ≤ times 0) (hlimit : 60 < config.burstLimit) (k : ℕ)
    (hrefused : ∀ j ≤ k, allowedAt apiKey config times (n + j) = false) : refillBefore times (n + k + 1) ≤ times n := by
  induction k with
  | zero => exact refillBefore_le_succ hmono hepoch
  | succ k ih =>
    have hbefore := ih fun j hj => hrefused j (hj.trans k.le_succ)
    have hrecent : ¬1 ≤ times (n + (k + 1)) - refillBefore times (n + (k + 1)) := by
      intro hrefill
      have helapsed := elapsed_of_refused (by omega) (hrefused (k + 1) (le_refl _)) hrefill
      have : (60 : ℚ) < config.burstLimit := by exact_mod_cast hlimit
      nlinarith
    rw [refillBefore, if_neg hrecent]
    exact hbefore

/-- Refused calls in a row, one more than the limit, fall within a minute. -/
theorem span_of_refused (hmono : Monotone times) (hepoch : 0 ≤ times 0) (hlimit : 1 ≤ config.burstLimit)
    (hrefused : ∀ j ≤ config.burstLimit, allowedAt apiKey config times (n + j) = false) :
    times (n + config.burstLimit) - times n < 60 := by
  obtain ⟨k, hk⟩ := Nat.exists_eq_add_of_le' hlimit
  have hfirst : ∀ j ≤ k, allowedAt apiKey config times (n + j) = false := fun j hj => hrefused j (by omega)
  have hlast := elapsed_of_refused hlimit (hrefused config.burstLimit (le_refl _))
  have hindex : n + config.burstLimit = n + k + 1 := by omega
  have hcast : (config.burstLimit : ℚ) = k + 1 := by exact_mod_cast hk
  have hnonneg : (0 : ℚ) ≤ k := Nat.cast_nonneg k
  rw [hindex] at hlast ⊢
  rcases Nat.lt_or_ge 60 config.burstLimit with hlt | hle
  · have hrefill := refillBefore_of_refused_of_lt hmono hepoch hlt k hfirst
    have hsixty : (60 : ℚ) < config.burstLimit := by exact_mod_cast hlt
    by_contra hspan
    have helapsed : 1 ≤ times (n + k + 1) - refillBefore times (n + k + 1) := by linarith
    have := hlast helapsed
    nlinarith
  · have hrefill := refillBefore_of_refused hmono hepoch hlimit k hfirst
    have helapsed : (times (n + k + 1) - refillBefore times (n + k + 1)) * config.burstLimit < 60 := by
      by_cases hsecond : 1 ≤ times (n + k + 1) - refillBefore times (n + k + 1)
      · exact hlast hsecond
      · have hsixty : (config.burstLimit : ℚ) ≤ 60 := by exact_mod_cast hle
        have : (times (n + k + 1) - refillBefore times (n + k + 1)) * config.burstLimit < 1 * config.burstLimit :=
          mul_lt_mul_of_pos_right (not_le.mp hsecond) (by linarith)
        linarith
    have hsum : (times (n + k + 1) - times n) * config.burstLimit < 60 * config.burstLimit := by
      rw [hcast] at hrefill helapsed ⊢
      linarith
    exact lt_of_mul_lt_mul_right hsum (Nat.cast_nonneg _)

/-! ## The promise -/

/-- The calls of an interval: those from `m` up to `n`. -/
structure During (times : ℕ → ℚ) (a e : ℚ) (m n : ℕ) : Prop where
  le : m ≤ n
  before : ∀ k < m, times k ≤ a
  during : ∀ k ∈ Ico m n, a ≤ times k ∧ times k ≤ e
  after : ∀ k, n ≤ k → e ≤ times k

/-- **What the bucket keeps of its rate**: over an interval in which it is not full it is credited with what the rate promises, less one
token, if and only if less than two tokens are lost to fractions and to the time without a refill at the ends. And of `burstLimit + 1` calls
in a row that do not fall within a minute one is allowed. -/
theorem refill_promise (apiKey : String) (config : RateLimitConfig) (times : ℕ → ℚ) (hlimit : 1 ≤ config.burstLimit)
    (hmono : Monotone times) (hepoch : 0 ≤ times 0) :
    (∀ a e m n, During times a e m n → (∀ k ∈ Ico m n, tokensAt apiKey config times k < config.burstLimit) →
      (⌊(e - a) * config.burstLimit / 60⌋ - 1 ≤ credited apiKey config times m n ↔
        truncated config times m n + ((e - refillBefore times n) - (a - refillBefore times m)) * config.burstLimit / 60 < 2)) ∧
      ((∀ n, 60 ≤ times (n + config.burstLimit) - times n) →
        ∀ n, ∃ k ≤ config.burstLimit, allowedAt apiKey config times (n + k) = true) := by
  refine ⟨fun a e m n hduring hfull => credited_iff hduring.le hfull a e, fun hslow n => ?_⟩
  by_contra hnone
  have hrefused : ∀ k ≤ config.burstLimit, allowedAt apiKey config times (n + k) = false := fun k hk =>
    Bool.eq_false_iff.mpr fun hallowed => hnone ⟨k, hk, hallowed⟩
  exact absurd (span_of_refused hmono hepoch hlimit hrefused) (not_lt.mpr (hslow n))

end Calls

def thirtyPerMinute : RateLimitConfig := { burstLimit := 30 }

def callsEvery (pause : ℚ) (n : ℕ) : ℚ := 60 + pause * n

theorem callsEvery_mono {pause : ℚ} (h : 0 ≤ pause) : Monotone (callsEvery pause) := fun _ _ hle =>
  add_le_add_right (mul_le_mul_of_nonneg_left (Nat.cast_le.mpr hle) h) 60

theorem during_callsEvery (pause : ℚ) (h : 0 ≤ pause) {m n : ℕ} (hle : m ≤ n) :
    During (callsEvery pause) (callsEvery pause m) (callsEvery pause n) (m + 1) (n + 1) where
  le := Nat.succ_le_succ hle
  before _ hk := callsEvery_mono h (Nat.lt_succ_iff.mp hk)
  during _ hk :=
    have hk := Finset.mem_Ico.mp hk
    ⟨callsEvery_mono h (Nat.le_of_lt hk.1), callsEvery_mono h (Nat.lt_succ_iff.mp hk.2)⟩
  after _ hk := callsEvery_mono h (Nat.le_of_lt hk)

theorem refill_promise_callsEvery :
    (⌊(callsEvery (19 / 10) 4 - callsEvery (19 / 10) 1) * (30 : ℕ) / 60⌋ - 1 ≤ credited "key" thirtyPerMinute (callsEvery (19 / 10)) 2 5 ↔
        truncated thirtyPerMinute (callsEvery (19 / 10)) 2 5 +
          ((callsEvery (19 / 10) 4 - refillBefore (callsEvery (19 / 10)) 5) -
            (callsEvery (19 / 10) 1 - refillBefore (callsEvery (19 / 10)) 2)) * (30 : ℕ) / 60 < 2) ∧
      ∀ n, ∃ k ≤ 30, allowedAt "key" thirtyPerMinute (callsEvery 2) (n + k) = true := by
  constructor
  · exact (refill_promise "key" thirtyPerMinute (callsEvery (19 / 10)) (by decide) (callsEvery_mono (by norm_num)) (by decide +kernel)).1 _ _
      2 5 (during_callsEvery (19 / 10) (by norm_num) (by norm_num)) (by decide +kernel)
  · refine (refill_promise "key" thirtyPerMinute (callsEvery 2) (by decide) (callsEvery_mono (by norm_num)) (by decide +kernel)).2 fun n => ?_
    change 60 ≤ 60 + 2 * ((n + 30 : ℕ) : ℚ) - (60 + 2 * (n : ℚ))
    push_cast
    linarith

/-- A call every 1.9 seconds: each refill is worth 0.95 tokens and brings none. -/
theorem refill_lost :
    During (callsEvery (19 / 10)) (619 / 10) (676 / 10) 2 5 ∧
      (∀ k ∈ Ico 2 5, tokensAt "key" thirtyPerMinute (callsEvery (19 / 10)) k < thirtyPerMinute.burstLimit) ∧
      credited "key" thirtyPerMinute (callsEvery (19 / 10)) 2 5 = 0 ∧
      ⌊((676 / 10 : ℚ) - 619 / 10) * thirtyPerMinute.burstLimit / 60⌋ - 1 = 1 := by
  refine ⟨?_, by decide +kernel, by decide +kernel, by decide +kernel⟩
  have hduring : During (callsEvery (19 / 10)) (callsEvery (19 / 10) 1) (callsEvery (19 / 10) 4) 2 5 :=
    during_callsEvery (19 / 10) (by norm_num) (by norm_num)
  have hstart : callsEvery (19 / 10) 1 = 619 / 10 := by decide +kernel
  have hend : callsEvery (19 / 10) 4 = 676 / 10 := by decide +kernel
  rwa [hstart, hend] at hduring

end Gatewayz.Limits.Fallback
