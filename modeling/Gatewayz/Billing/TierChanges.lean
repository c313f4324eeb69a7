import Gatewayz.Billing.Subscriptions

/-!
# `Billing.TierChanges` — `upgrade_subscription` and `downgrade_subscription`

The two endpoints of `StripeService` that move a subscription to another tier. They have Stripe change the subscription, write the tier to
`users`, `user_plans` and `api_keys_new`, set the allowance to the new tier's, and log the difference to what was left of the old one. They
are one function, `changeTier`, with what an upgrade and a downgrade do differently (`TierChange`).

What Stripe answers to the change is an argument, and so is a habit of its library: its objects are dictionaries, and the attribute `items`
of a dictionary is a method.
-/

namespace Gatewayz

open Exec

/-- `UpgradeSubscriptionRequest` and `DowngradeSubscriptionRequest`; how Stripe prorates is for Stripe. -/
structure TierChangeRequest where
  newPriceId : String
  newProductId : String

structure InvoiceLine where
  amount : Int
  proration : Bool := false

structure StripeAnswers where
  /-- Is the attribute `items` of a subscription the list of its items? -/
  itemsAttribute : Bool := true
  upcoming : Except PyErr (List InvoiceLine)
  /-- `stripe.Subscription.modify` -/
  modified : Except PyErr Subscription

structure SubscriptionManagementResponse where
  subscriptionId : String
  status : String
  currentTier : String
  message : String
  prorationAmount : Option Int := none

/-! ## Upgrade or downgrade -/

inductive TierChange where
  | upgrade
  | downgrade
  deriving DecidableEq

namespace TierChange

def verb : TierChange → String
  | upgrade => "upgrade"
  | downgrade => "downgrade"

def transactionType : TierChange → TransactionType
  | upgrade => .subscriptionUpgrade
  | downgrade => .subscriptionDowngrade

/-- A downgrade calls forfeited only what is beyond the new allowance. -/
def forfeited (oldRemaining newAllowance : ℚ) : TierChange → ℚ
  | upgrade => oldRemaining
  | downgrade => max 0 (oldRemaining - newAllowance)

def message (newTier : String) : TierChange → String
  | upgrade => "Successfully upgraded to " ++ newTier ++ " tier"
  | downgrade => "Successfully downgraded to " ++ newTier ++ " tier. Credit applied for unused time."

/-- `_get_stripe_proration_amount`; an upgrade alone asks for it. -/
def proration (answers : StripeAnswers) : TierChange → Option ℚ
  | upgrade =>
    match answers.upcoming with
    | .error _ => none
    | .ok lines => some (round2 (((lines.filter InvoiceLine.proration).map InvoiceLine.amount).sum / 100))
  | downgrade => none

end TierChange

/-- `float(user.get(column, 0))` -/
def floatColumn (column : Option ℚ) : Except PyErr ℚ :=
  match column with
  | some value => .ok value
  | none => .error (.typeError "float() argument must be a string or a real number, not 'NoneType'")

/-- What is left of the old allowance, and the purchased credits; nothing of a user who is gone. -/
def remainingCredits (userFresh : Option User) : Except PyErr (ℚ × ℚ) :=
  match userFresh with
  | none => .ok (0, 0)
  | some user => do
    let oldRemaining ← floatColumn user.subscriptionAllowance
    let purchased ← floatColumn user.purchasedCredits
    pure (oldRemaining, purchased)

/-- Raise the exception of a step that is not a round trip. -/
def orRaise {α : Type} (result : Except PyErr α) : DbProg α :=
  match result with
  | .ok a => pure a
  | .error e => throw e

/-- The field `proration_amount` of the response takes whole numbers only. -/
def intField (amount : Option ℚ) : Except PyErr (Option Int) :=
  match amount with
  | none => .ok none
  | some q =>
    if q.den = 1 then .ok (some q.num)
    else .error (.valueError "proration_amount: Input should be a valid integer, got a number with a fractional part")

/-- The row of the ledger about the change. -/
def tierChangeRow (change : TierChange) (now : Time) (userId : Int) (request : TierChangeRequest) (answers : StripeAnswers)
    (updated : Subscription) (currentTier : Option String) (newTier : String) (oldTierAllowance newAllowance oldRemaining purchased : ℚ) :
    Transaction where
  id := 0
  userId := userId
  amount := newAllowance - oldRemaining
  transactionType := change.transactionType
  balanceBefore := oldRemaining + purchased
  balanceAfter := newAllowance + purchased
  metadata :=
    [("from_tier", (currentTier.map PyValue.str).getD .none), ("to_tier", .str newTier), ("old_tier_allowance", .float oldTierAllowance),
      ("old_remaining_allowance", .float oldRemaining), ("old_used_allowance", .float (max 0 (oldTierAllowance - oldRemaining))),
      ("forfeited_allowance", .float (change.forfeited oldRemaining newAllowance)), ("new_allowance", .float newAllowance),
      ("purchased_credits_unchanged", .float purchased), ("proration_method", .str "set_not_increment")] ++
    (if change = .upgrade then [("stripe_proration_amount", ((change.proration answers).map PyValue.float).getD .none)] else []) ++
    [("subscription_id", .str updated.id), ("product_id", .str request.newProductId), ("price_id", .str request.newPriceId),
      ("allowance_handled_at", .str (isoformat now))]
  createdBy := some ("system:subscription_" ++ change.verb)
  createdAt := now

/-- The allowance becomes that of the new tier, and the difference is logged. A tier without an allowance leaves it alone. -/
def resetToNewTier (change : TierChange) (now : Time) (userId : Int) (request : TierChangeRequest) (answers : StripeAnswers)
    (updated : Subscription) (currentTier : Option String) (newTier : String) : DbProg Unit := do
  let newAllowance ← getAllowanceFromTier newTier
  let oldTierAllowance ← getAllowanceFromTier (currentTier.getD "None")
  if 0 < newAllowance then do
    let userFresh ← getUserById userId
    let (oldRemaining, purchased) ← orRaise (remainingCredits userFresh)
    let resetResult ← resetSubscriptionAllowance now userId newAllowance newTier
    if resetResult then do
      let _ ← logCreditTransaction
        (tierChangeRow change now userId request answers updated currentTier newTier oldTierAllowance newAllowance oldRemaining purchased)
      pure ()
    else throw ⟨.other, "Failed to update subscription allowance"⟩
  else pure ()

/-- The subscription of a user who may change its tier. -/
def changeableSubscription (change : TierChange) (userId : Int) (answers : StripeAnswers) : DbProg (User × Subscription) := do
  let user ← getUserById userId
  match user with
  | none => throw (.valueError ("User " ++ toString userId ++ " not found"))
  | some user =>
    match nonempty user.stripeSubscriptionId with
    | none => throw (.valueError ("User does not have an active subscription to " ++ change.verb))
    | some stripeSubscriptionId => do
      let subscription ← query (.retrieveSubscription stripeSubscriptionId)
      if subscription.status ≠ "active" then
        throw (.valueError ("Cannot " ++ change.verb ++ " subscription with status: " ++ subscription.status))
      else if answers.itemsAttribute = false ∨ subscription.items = [] then throw (.valueError "Subscription has no item data")
      else pure (user, subscription)

/-- The body of both endpoints. -/
def changeTier (change : TierChange) (now : Time) (userId : Int) (request : TierChangeRequest) (answers : StripeAnswers) :
    DbProg SubscriptionManagementResponse :=
  tryCatch
    (do
      let (user, _) ← changeableSubscription change userId answers
      let newTier ← getTierFromProductId request.newProductId
      if newTier = "" ∨ newTier = "basic" then
        throw (.valueError ("Invalid product ID for " ++ change.verb ++ ": " ++ request.newProductId ++
          ". Cannot resolve to a valid paid tier."))
      else do
        let updated ← orRaise answers.modified
        let _ ← query (.updateUser userId { tier := some newTier, stripeProductId := some (some request.newProductId) })
        assignPlan userId newTier updated
        query (.updateApiKeys userId { subscriptionPlan := some newTier })
        resetToNewTier change now userId request answers updated user.tier newTier
        let prorationAmount ← orRaise (intField (change.proration answers))
        pure
          { subscriptionId := updated.id, status := updated.status, currentTier := newTier, message := change.message newTier,
            prorationAmount := prorationAmount })
    fun e =>
      if e.kind = .stripeError then throw ⟨.other, "Failed to " ++ change.verb ++ " subscription: " ++ e.text⟩ else throw e

def upgradeSubscription := changeTier .upgrade

def downgradeSubscription := changeTier .downgrade

end Gatewayz
