import Gatewayz.Billing.Payments

/-!
# `Billing.Subscriptions` — the handlers of subscription and invoice events

Three of the five handlers set the user's allowance to the tier's: `handleSubscriptionCreated`,
`handleSubscriptionUpdated` when the status is active, and `handleInvoicePaid`. `handleSubscriptionDeleted`
forfeits it.

The upgrade and downgrade endpoints set the allowance themselves and leave the time in the subscription's metadata
(`allowance_handled_at`), as a text that `fromisoformat` reads back.
-/

namespace Gatewayz

open Exec

/-! ## `datetime.fromisoformat` -/

/-- Exactly `n` digits, and the rest. -/
def takeNumber (n : Nat) (cs : List Char) : Option (Nat × List Char) :=
  if (cs.take n).length = n ∧ (cs.take n).all Char.isDigit then
    some (Nat.ofDigitChars 10 (cs.take n) 0, cs.drop n)
  else none

def skipChar (c : Char) : List Char → Bool × List Char
  | [] => (false, [])
  | d :: cs => if d = c then (true, cs) else (false, d :: cs)

/-- Days from 1970-01-01, by years that begin in March. -/
def daysFromCivil (year month day : Nat) : Int :=
  let y : Nat := if month ≤ 2 then year - 1 else year
  let m : Nat := if month ≤ 2 then month + 9 else month - 3
  (365 * y + y / 4 - y / 100 + y / 400 + (153 * m + 2) / 5 + day - 1 : Int) - 719468

def isLeap (year : Nat) : Bool := year % 4 = 0 && (year % 100 ≠ 0 || year % 400 = 0)

def daysInMonth (year month : Nat) : Nat :=
  if month = 2 then if isLeap year then 29 else 28
  else if month = 4 ∨ month = 6 ∨ month = 9 ∨ month = 11 then 30
  else 31

/-- A week date: the week of the fourth of January is week one. -/
def daysFromWeek (year week day : Nat) : Int :=
  let jan4 := daysFromCivil year 1 4
  -- 1970-01-01 was a Thursday
  let monday := jan4 - (jan4 + 3) % 7
  monday + 7 * (week - 1) + (day - 1)

/-- The date of an ISO text: the days, and the rest of the text. -/
def readDate (cs : List Char) : Option (Int × List Char) := do
  let (year, cs) ← takeNumber 4 cs
  let (dashed, cs) := skipChar '-' cs
  let (weekly, cs) := skipChar 'W' cs
  if weekly then
    let (week, cs) ← takeNumber 2 cs
    let (another, rest) := if dashed then skipChar '-' cs else (true, cs)
    let (day, cs) := if another then (takeNumber 1 rest).getD (1, cs) else (1, cs)
    if 1 ≤ year ∧ 1 ≤ week ∧ week ≤ 53 ∧ 1 ≤ day ∧ day ≤ 7 then some (daysFromWeek year week day, cs) else none
  else
    let (month, cs) ← takeNumber 2 cs
    let (second, cs) := skipChar '-' cs
    let (day, cs) ← takeNumber 2 cs
    if dashed = second ∧ 1 ≤ year ∧ 1 ≤ month ∧ month ≤ 12 ∧ 1 ≤ day ∧ day ≤ daysInMonth year month then
      some (daysFromCivil year month day, cs)
    else none

/-- Hours, and minutes and seconds if they follow; the seconds, the rest, and whether the seconds were there. -/
def readClock (cs : List Char) : Option (Nat × List Char × Bool) := do
  let (hour, cs) ← takeNumber 2 cs
  let (colon, rest) := skipChar ':' cs
  match takeNumber 2 rest with
  | none => if colon then none else some (3600 * hour, cs, false)
  | some (minute, cs) =>
    let (colon', rest) := skipChar ':' cs
    match takeNumber 2 rest with
    | none => if colon' ∨ 60 ≤ minute then none else some (3600 * hour + 60 * minute, cs, false)
    | some (second, rest) =>
      if colon = colon' ∧ minute < 60 ∧ second < 60 then some (3600 * hour + 60 * minute + second, rest, true)
      else none

/-- A fraction of a second, cut after six digits. -/
def readFraction : List Char → Option (ℚ × List Char)
  | [] => some (0, [])
  | c :: cs =>
    if c = '.' ∨ c = ',' then
      let digits := cs.takeWhile Char.isDigit
      if digits = [] then none
      else some ((Nat.ofDigitChars 10 (digits.take 6) 0 : ℚ) / 10 ^ (digits.take 6).length, cs.dropWhile Char.isDigit)
    else some (0, c :: cs)

/-- `datetime.fromisoformat(text)` as seconds since the epoch. Nothing for a text that it refuses, or one without
    an offset: such a time cannot be subtracted from one in UTC. -/
def fromisoformat (text : String) : Option ℚ := do
  let (days, cs) ← readDate text.toList
  let (clock, cs, seconds) ← readClock (cs.drop 1)
  let (fraction, cs) ← if seconds then readFraction cs else some (0, cs)
  let offset : ℚ ←
    match cs with
    | ['Z'] => some 0
    | '+' :: cs => do
      let (offset, cs, _) ← readClock cs
      if cs = [] then some (offset : ℚ) else none
    | '-' :: cs => do
      let (offset, cs, _) ← readClock cs
      if cs = [] then some (-(offset : ℚ)) else none
    | _ => none
  if clock < 86400 then some (days * 86400 + clock + fraction - offset) else none

example : fromisoformat "2026-07-05T00:00:00.250000+00:00" = some (1783209600 + 1 / 4) ∧
    fromisoformat "2026-W27-7T01:00+01:00" = some 1783209600 ∧ fromisoformat "2026-07-05" = none := by
  decide +kernel

/-! ## Reading a subscription -/

/-- `_get_subscription_period_end`: the field of the older API, then the items. -/
def Subscription.periodEnd (s : Subscription) : Option Nat :=
  (s.currentPeriodEnd.filter (· ≠ 0)).or
    (s.items.findSome? fun item => item.currentPeriodEnd.filter (· ≠ 0))

/-- `_get_invoice_subscription_id`: the older field, then the places of the newer API. -/
def Invoice.subscriptionId (i : Invoice) : Option String :=
  ((nonempty i.subscription).or (nonempty i.parentSubscription)).or (i.lineSubscriptions.findSome? nonempty)

/-- `metadata.get(key)` if it is set. -/
def Dict.text? (d : Dict) (key : String) : Option String :=
  if (d.get key).truthy then some (d.get key).text else none

/-- `get_tier_from_product_id`; a failed query counts as not found. -/
def getTierFromProductId (productId : String) : DbProg String :=
  tryCatch
    (do
      let tier ← query (.selectTierOfProduct productId)
      pure (tier.getD "basic"))
    fun _ => pure "basic"

/-- `get_allowance_from_tier`; a failed query counts as none. -/
def getAllowanceFromTier (tier : String) : DbProg ℚ :=
  tryCatch
    (do
      let allowance ← query (.selectAllowanceOfTier tier)
      pure (allowance.getD 0))
    fun _ => pure 0

/-- `get_plan_id_by_tier`; a failed query counts as none. -/
def getPlanIdByTier (tier : String) : DbProg (Option Int) :=
  tryCatch (query (.selectPlanIdByTier tier)) fun _ => pure none

def Subscription.firstProduct (s : Subscription) : Option String := nonempty (s.items.head?.bind SubscriptionItem.product)

/-- The tier of the first item's product. -/
def Subscription.productTier (s : Subscription) : DbProg String :=
  match s.firstProduct with
  | some product => getTierFromProductId product
  | none => pure "basic"

/-- `_resolve_tier_from_subscription`: the tier and the product it was looked up by. -/
def resolveTierFromSubscription (subscription : Subscription) (metadataTier : Option String) :
    DbProg (String × Option String) := do
  let known := metadataTier.filter (· ≠ "basic")
  match known with
  | some tier => pure (tier, none)
  | none => do
    let lookedUp ← subscription.productTier
    if lookedUp ≠ "" ∧ lookedUp ≠ "basic" then pure (lookedUp, subscription.firstProduct)
    else if subscription.status = "active" then pure ("pro", subscription.firstProduct)
    else pure ("basic", subscription.firstProduct)

def lookupUserByStripeCustomer (customerId : String) : DbProg (Option Int) :=
  tryCatch (query (.selectUserByCustomer customerId)) fun _ => pure none

/-- `_extract_user_id_from_subscription`: from the metadata, then by the Stripe customer. -/
def extractUserIdFromSubscription (subscription : Subscription) : DbProg (Option Int) :=
  let fromMetadata := if (subscription.metadata.get "user_id").truthy then intOf (subscription.metadata.get "user_id") else none
  match fromMetadata with
  | some userId => pure (some userId)
  | none =>
    match nonempty subscription.customer with
    | some customerId => do
      let userId ← lookupUserByStripeCustomer customerId
      pure (userId.filter (· ≠ 0))
    | none => pure none

/-- The user of a subscription, or the error every handler raises without one. -/
def requireUser (subscription : Subscription) (label id : String) : DbProg Int := do
  let userId ← extractUserIdFromSubscription subscription
  match userId with
  | some userId => pure userId
  | none =>
    throw (.valueError
      ("Missing user_id in subscription metadata and no fallback found (" ++ label ++ "=" ++ id ++ ")"))

/-! ## Steps the handlers share -/

/-- The last second `datetime.fromtimestamp` takes. -/
def maxTimestamp : Nat := 253402300799

/-- The plan of the tier becomes the user's only active plan. -/
def assignPlan (userId : Int) (tier : String) (subscription : Subscription) : DbProg Unit := do
  let planId ← getPlanIdByTier tier
  match planId.filter (· ≠ 0) with
  | none => pure ()
  | some planId => do
    query (.deactivateUserPlans userId)
    if subscription.periodEnd.any (maxTimestamp < ·) then throw (.valueError "year is out of range")
    else query (.insertUserPlan { userId := userId, planId := planId, isActive := true })

/-- Set the allowance of the tier, if it has one. -/
def resetTierAllowance (now : Time) (userId : Int) (tier : String) (onFailure : ℚ → PyErr) : DbProg Unit := do
  let allowance ← getAllowanceFromTier tier
  if 0 < allowance then do
    let done ← resetSubscriptionAllowance now userId allowance tier
    if done then pure () else throw (onFailure allowance)
  else pure ()

/-- Did an endpoint set the allowance less than two minutes ago? -/
def Subscription.allowanceJustHandled (now : Time) (s : Subscription) : Bool :=
  ((s.metadata.text? "allowance_handled_at").bind fromisoformat).any fun handled => (now : ℚ) - handled < 120

/-! ## The handlers -/

def handleSubscriptionCreated (now : Time) (subscription : Subscription) : DbProg Unit := do
  let userId ← requireUser subscription "subscription_id" subscription.id
  let (tier, resolvedProduct) ← resolveTierFromSubscription subscription (subscription.metadata.text? "tier")
  let _ ← query (.updateUser userId
    { subscriptionStatus := some "active", tier := some tier, stripeSubscriptionId := some (some subscription.id),
      stripeProductId := some ((subscription.metadata.text? "product_id").or resolvedProduct),
      stripeCustomerId := some subscription.customer, subscriptionEndDate := subscription.periodEnd })
  assignPlan userId tier subscription
  query (.updateApiKeys userId
    { isTrial := some false, trialConverted := some true, subscriptionStatus := some "active",
      subscriptionPlan := some tier })
  resetTierAllowance now userId tier fun _ =>
    .runtimeError
      ("Failed to set initial allowance for user " ++ toString userId ++ " (" ++ tier ++
        " tier). Webhook will be retried by Stripe.")

def handleSubscriptionUpdated (now : Time) (subscription : Subscription) : DbProg Unit := do
  let userId ← requireUser subscription "subscription_id" subscription.id
  let status := subscription.status
  let (tier, _) ← resolveTierFromSubscription subscription (subscription.metadata.text? "tier")
  let newTier := if status = "canceled" ∨ status = "past_due" ∨ status = "unpaid" then "basic" else tier
  let _ ← query (.updateUser userId
    { subscriptionStatus := some status, tier := some newTier, subscriptionEndDate := subscription.periodEnd })
  if status = "active" then do
    assignPlan userId tier subscription
    query (.updateApiKeys userId
      { isTrial := some false, trialConverted := some true, subscriptionStatus := some "active",
        subscriptionPlan := some tier })
    if subscription.allowanceJustHandled now then pure ()
    else
      resetTierAllowance now userId tier fun _ =>
        ⟨.other, "Failed to update subscription allowance for user " ++ toString userId⟩
  else pure ()

def handleSubscriptionDeleted (now : Time) (subscription : Subscription) : DbProg Unit := do
  let userId ← requireUser subscription "subscription_id" subscription.id
  if subscription.periodEnd.any (maxTimestamp < ·) then throw (.valueError "year is out of range")
  else do
    let effectiveDate := isoformat (subscription.periodEnd.getD now)
    let _ ← getUserById userId
    let _ ← forfeitSubscriptionAllowance now userId true (some effectiveDate) (some "period_end_webhook")
    let _ ← query (.updateUser userId
      { subscriptionStatus := some "canceled", tier := some "basic", stripeSubscriptionId := some none })
    query (.updateApiKeys userId { subscriptionStatus := some "canceled", subscriptionPlan := some "basic" })

def handleInvoicePaid (now : Time) (invoice : Invoice) : DbProg Unit :=
  match invoice.subscriptionId with
  | none => pure ()
  | some subscriptionId =>
    if invoice.billingReason = some "subscription_update" then pure ()
    else do
      let subscription ← query (.retrieveSubscription subscriptionId)
      let userId ← requireUser subscription "invoice_id" invoice.id
      if subscription.allowanceJustHandled now then pure ()
      else do
        let (tier, _) ← resolveTierFromSubscription subscription (subscription.metadata.text? "tier")
        resetTierAllowance now userId tier fun _ =>
          .runtimeError
            ("Failed to reset allowance for user " ++ toString userId ++ " (" ++ tier ++
              " tier) on invoice payment. Webhook will be retried by Stripe.")

def handleInvoicePaymentFailed (invoice : Invoice) : DbProg Unit :=
  match invoice.subscriptionId with
  | none => pure ()
  | some subscriptionId => do
    let subscription ← query (.retrieveSubscription subscriptionId)
    let userId ← requireUser subscription "invoice_id" invoice.id
    let _ ← query (.updateUser userId { subscriptionStatus := some "past_due", tier := some "basic" })
    query (.updateApiKeys userId { subscriptionStatus := some "past_due", subscriptionPlan := some "basic" })

end Gatewayz
