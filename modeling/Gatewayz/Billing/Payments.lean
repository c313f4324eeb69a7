import Gatewayz.Billing.Numerals
import Gatewayz.Billing.Users

/-!
# `Billing.Payments` — `db/payments.py`

`db/payments.py` keeps one row per payment. Its functions swallow their errors: a row that could not be read
looks like a row that is not there, and a status that could not be written is not reported.
-/

namespace Gatewayz

open Exec

/-! ## `db/payments.py` -/

/-- `int(amount * 100)`, on doubles: 0.29 gives 28. -/
def centsOf (amount : ℚ) : Int :=
  let product := nearestDouble (nearestDouble amount * 100)
  if 0 ≤ product then ⌊product⌋ else ⌈product⌉

example : centsOf (29 / 100) = 28 ∧ centsOf (2999 / 100) = 2999 := by decide +kernel

def nonempty (text : Option String) : Option String := text.filter (· ≠ "")

/-- `create_payment`: the row, or nothing if that failed. -/
def createPayment (userId : Int) (amount : ℚ) (currency : String) (status : PaymentStatus)
    (stripePaymentIntentId stripeSessionId : Option String) : DbProg (Option Payment) :=
  let paymentData : Payment :=
    { id := 0, userId := userId, amountUsd := amount, amountCents := centsOf amount,
      creditsPurchased := centsOf amount, currency := lower currency, status := status,
      stripePaymentIntentId := nonempty stripePaymentIntentId,
      stripeCheckoutSessionId := nonempty stripeSessionId }
  tryCatch
    (do
      let payment ← executeWithRetry (query (.insertPayment paymentData)) 2
      pure (some payment))
    fun _ => pure none

def getPayment (paymentId : Int) : DbProg (Option Payment) :=
  tryCatch (executeWithRetry (query (.selectPayment paymentId)) 2) fun _ => pure none

/-- `get_payment_by_stripe_intent`: by the intent column, then by the session column. -/
def getPaymentByStripeIntent (stripeId : String) : DbProg (Option Payment) :=
  tryCatch
    (do
      let byIntent ← query (.selectPaymentByIntent stripeId)
      match byIntent with
      | some payment => pure (some payment)
      | none => query (.selectPaymentBySession stripeId))
    fun _ => pure none

/-- `update_payment_status`: the status is overwritten whatever it was. -/
def updatePaymentStatus (paymentId : Int) (status : PaymentStatus)
    (stripePaymentIntentId stripeSessionId : Option String) : DbProg (Option Payment) :=
  let updateData : PaymentPatch :=
    { status := status, stripePaymentIntentId := nonempty stripePaymentIntentId,
      stripeCheckoutSessionId := nonempty stripeSessionId }
  tryCatch (executeWithRetry (query (.updatePayment paymentId updateData)) 2) fun _ => pure none

/-! ## Small helpers of `StripeService` -/

structure PaymentConfig where
  /-- `CREDIT_TOPUP_FEE_RATE`. -/
  topupFeeRate : String := "0.0"

/-- The fee rate: within [0, 0.5], and 0 for a text that is no number. -/
def PaymentConfig.feeRate (config : PaymentConfig) : ℚ :=
  match parseFloat config.topupFeeRate with
  | some (.finite q) => max 0 (min (1 / 2) q)
  | some (.infinite negative) => if negative then 0 else 1 / 2
  | some .nan => 1 / 2
  | none => 0

/-- `_apply_topup_fee`: the rate, the fee and what is granted. -/
def PaymentConfig.applyTopupFee (config : PaymentConfig) (amountDollars : ℚ) : ℚ × ℚ × ℚ :=
  let topupFee := round6 (amountDollars * config.feeRate)
  (config.feeRate, topupFee, round6 (amountDollars - topupFee))

def PaymentConfig.granted (config : PaymentConfig) (amountDollars : ℚ) : ℚ :=
  (config.applyTopupFee amountDollars).2.2

theorem abs_round6_sub_le (q : ℚ) : |round6 q - q| ≤ 1 / 2000000 := by
  have h := abs_roundHalfEven_sub_le (q * 1000000)
  rw [abs_le] at h ⊢
  unfold round6
  constructor <;> linarith [h.1, h.2]

variable (config : PaymentConfig)

theorem PaymentConfig.feeRate_le : config.feeRate ≤ 1 / 2 := by
  unfold feeRate
  split
  · exact max_le (by norm_num) (min_le_left _ _)
  · split <;> norm_num
  · norm_num
  · norm_num

/-- More cents, more credits: the rounding of the fee cannot make up for a cent. -/
theorem PaymentConfig.granted_lt_granted {m n : Int} (h : m < n) :
    config.granted (m / 100) < config.granted (n / 100) := by
  have hcent : (m : ℚ) + 1 ≤ n := by exact_mod_cast h
  have hrate : ((n : ℚ) / 100 - m / 100) * config.feeRate ≤ (n / 100 - m / 100) * (1 / 2) :=
    mul_le_mul_of_nonneg_left config.feeRate_le (by linarith)
  have hfee := fun q : ℚ => abs_le.mp (abs_round6_sub_le q)
  unfold granted applyTopupFee
  simp only
  linarith [(hfee (m / 100 * config.feeRate)).1, (hfee (n / 100 * config.feeRate)).2,
    (hfee (m / 100 - round6 (m / 100 * config.feeRate))).2, (hfee (n / 100 - round6 (n / 100 * config.feeRate))).1]

theorem PaymentConfig.granted_inj {m n : Int} : config.granted (m / 100) = config.granted (n / 100) ↔ m = n := by
  refine ⟨fun h => ?_, fun h => by rw [h]⟩
  rcases lt_trichotomy m n with hlt | heq | hgt
  · exact absurd h (config.granted_lt_granted hlt).ne
  · exact heq
  · exact absurd h (config.granted_lt_granted hgt).ne'

theorem PaymentConfig.granted_pos {n : Int} (h : 0 < n) : 0 < config.granted (n / 100) := by
  have hzero : config.granted ((0 : Int) / 100) = 0 := by
    simp [granted, applyTopupFee, round6, roundHalfEven]
  rw [← hzero]
  exact config.granted_lt_granted h

/-- `_grant_idempotency_key`. The text that is hashed stands for its hash, a version 5 UUID. -/
def grantIdempotencyKey (source : String) : String := "grant:" ++ source

/-- `except stripe.StripeError`: nothing after one; any other exception goes on. -/
def catchStripe {α : Type} (p : DbProg α) : DbProg (Option α) :=
  tryCatch
    (do
      let a ← p
      pure (some a))
    fun e => if e.kind = .stripeError then pure none else throw e

/-- A value that Python code computes, or the exception it raises. -/
def liftPy {α : Type} : Except PyErr α → DbProg α
  | .ok a => pure a
  | .error e => throw e

def getUserById (userId : Int) : DbProg (Option User) :=
  tryCatch (query (.selectUser userId)) fun _ => pure none

end Gatewayz
