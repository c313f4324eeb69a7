import Gatewayz.Billing.Python

/-!
# `Billing.Tables` — the rows the billing code reads and writes

One structure per table, with the columns that some modelled function reads or that a property is about.
Free texts nobody reads back (descriptions, `updated_at`, the metadata copied onto `payments`) are left out.
A nullable column is an `Option`; `NULL` balances count as zero wherever the source writes `… or 0`.

A column update is data (`UserPatch`, `PaymentPatch`, …): a field that is `none` is not part of the update.
-/

namespace Gatewayz

abbrev Time := Nat

/-! ## Users -/

/-- A row of `users`, without its id. -/
structure User where
  username : Option String := none
  email : Option String := none
  tier : Option String := none
  subscriptionStatus : Option String := none
  subscriptionAllowance : Option ℚ := none
  purchasedCredits : Option ℚ := none
  hasMadeFirstPurchase : Option Bool := none
  stripeCustomerId : Option String := none
  stripeSubscriptionId : Option String := none
  stripeProductId : Option String := none
  subscriptionEndDate : Option Time := none
  privyUserId : Option String := none
  deriving DecidableEq

namespace User

/-- `float(row.get("subscription_allowance") or 0)`. -/
def allowance (u : User) : ℚ := u.subscriptionAllowance.getD 0
/-- `float(row.get("purchased_credits") or 0)`. -/
def purchased (u : User) : ℚ := u.purchasedCredits.getD 0
def balance (u : User) : ℚ := u.allowance + u.purchased

end User

/-- The columns an `update` of `users` sets. -/
structure UserPatch where
  tier : Option String := none
  subscriptionStatus : Option String := none
  subscriptionAllowance : Option ℚ := none
  purchasedCredits : Option ℚ := none
  hasMadeFirstPurchase : Option Bool := none
  stripeCustomerId : Option (Option String) := none
  stripeSubscriptionId : Option (Option String) := none
  stripeProductId : Option (Option String) := none
  subscriptionEndDate : Option Time := none
  deriving DecidableEq

/-- The row after an update. -/
def UserPatch.apply (p : UserPatch) (u : User) : User where
  username := u.username
  email := u.email
  tier := p.tier.or u.tier
  subscriptionStatus := p.subscriptionStatus.or u.subscriptionStatus
  subscriptionAllowance := p.subscriptionAllowance.or u.subscriptionAllowance
  purchasedCredits := p.purchasedCredits.or u.purchasedCredits
  hasMadeFirstPurchase := p.hasMadeFirstPurchase.or u.hasMadeFirstPurchase
  stripeCustomerId := p.stripeCustomerId.getD u.stripeCustomerId
  stripeSubscriptionId := p.stripeSubscriptionId.getD u.stripeSubscriptionId
  stripeProductId := p.stripeProductId.getD u.stripeProductId
  subscriptionEndDate := p.subscriptionEndDate.or u.subscriptionEndDate
  privyUserId := u.privyUserId

def UserPatch.KeepsBalance (p : UserPatch) : Prop :=
  p.subscriptionAllowance = none ∧ p.purchasedCredits = none

/-- A row of `api_keys_new`. -/
structure ApiKeyRow where
  apiKey : String
  userId : Int
  isTrial : Bool := false
  trialConverted : Bool := false
  subscriptionStatus : Option String := none
  subscriptionPlan : Option String := none

/-- The columns an `update` of `api_keys_new` sets. -/
structure ApiKeyPatch where
  isTrial : Option Bool := none
  trialConverted : Option Bool := none
  subscriptionStatus : Option String := none
  subscriptionPlan : Option String := none
  deriving DecidableEq

def ApiKeyPatch.apply (p : ApiKeyPatch) (k : ApiKeyRow) : ApiKeyRow :=
  { k with
    isTrial := p.isTrial.getD k.isTrial
    trialConverted := p.trialConverted.getD k.trialConverted
    subscriptionStatus := p.subscriptionStatus.or k.subscriptionStatus
    subscriptionPlan := p.subscriptionPlan.or k.subscriptionPlan }

/-- A row of `plans`. -/
structure Plan where
  id : Int
  planType : String
  tier : Option String := none
  isActive : Bool := true

/-- A row of `subscription_products`. -/
structure SubscriptionProduct where
  productId : String
  tier : String
  allowancePerMonth : Option ℚ := none
  isActive : Bool := true

/-- A row of `user_plans`. -/
structure UserPlan where
  userId : Int
  planId : Int
  isActive : Bool
  deriving DecidableEq

/-! ## The credit ledger -/

/-- `class TransactionType`, and the one type a handler writes besides. -/
inductive TransactionType where
  | trial
  | purchase
  | adminCredit
  | adminDebit
  | apiUsage
  | refund
  | bonus
  | transfer
  | subscriptionRenewal
  | subscriptionCancellation
  | subscriptionUpgrade
  | subscriptionDowngrade
  | firstTopupBonus
  deriving DecidableEq

/-- A row of `credit_transactions`. -/
structure Transaction where
  id : Int
  userId : Int
  amount : ℚ
  transactionType : TransactionType
  balanceBefore : ℚ
  balanceAfter : ℚ
  paymentId : Option Int := none
  requestId : Option String := none
  metadata : Dict := []
  createdBy : Option String := none
  createdAt : Time := 0
  deriving DecidableEq

/-- The row tells the truth about itself: its amount is the difference of its two balances. -/
def Transaction.Explained (t : Transaction) : Prop := t.balanceAfter - t.balanceBefore = t.amount

instance (t : Transaction) : Decidable t.Explained := inferInstanceAs (Decidable (_ = _))

/-! ## Payments and Stripe -/

/-- The status column of `payments`. -/
inductive PaymentStatus where
  | pending
  | processing
  | completed
  | failed
  | refunded
  | canceled
  deriving DecidableEq

/-- A row of `payments`. -/
structure Payment where
  id : Int
  userId : Int
  amountUsd : ℚ
  amountCents : Int
  creditsPurchased : Int
  currency : String := "usd"
  status : PaymentStatus := .pending
  stripePaymentIntentId : Option String := none
  stripeCheckoutSessionId : Option String := none
  deriving DecidableEq

/-- The columns an `update` of `payments` sets. -/
structure PaymentPatch where
  status : PaymentStatus
  stripePaymentIntentId : Option String := none
  stripeCheckoutSessionId : Option String := none
  deriving DecidableEq

def PaymentPatch.apply (p : PaymentPatch) (r : Payment) : Payment :=
  { r with
    status := p.status
    stripePaymentIntentId := p.stripePaymentIntentId.or r.stripePaymentIntentId
    stripeCheckoutSessionId := p.stripeCheckoutSessionId.or r.stripeCheckoutSessionId }

/-- A row of `stripe_webhook_events`. -/
structure WebhookEvent where
  eventId : String
  eventType : String
  userId : Option Int := none
  deriving DecidableEq

/-! ## Balance columns under an update -/

variable (p : UserPatch)

@[simp] theorem UserPatch.apply_subscriptionAllowance (u : User) :
    (p.apply u).subscriptionAllowance = p.subscriptionAllowance.or u.subscriptionAllowance := rfl
@[simp] theorem UserPatch.apply_purchasedCredits (u : User) :
    (p.apply u).purchasedCredits = p.purchasedCredits.or u.purchasedCredits := rfl
@[simp] theorem UserPatch.apply_purchased (u : User) :
    (p.apply u).purchased = (p.purchasedCredits.or u.purchasedCredits).getD 0 := rfl
@[simp] theorem UserPatch.apply_allowance (u : User) :
    (p.apply u).allowance = (p.subscriptionAllowance.or u.subscriptionAllowance).getD 0 := rfl

theorem UserPatch.KeepsBalance.allowance {p : UserPatch} (h : p.KeepsBalance) (u : User) :
    (p.apply u).allowance = u.allowance := by
  rw [apply_allowance, h.1]; rfl
theorem UserPatch.KeepsBalance.purchased {p : UserPatch} (h : p.KeepsBalance) (u : User) :
    (p.apply u).purchased = u.purchased := by
  rw [apply_purchased, h.2]; rfl

end Gatewayz
