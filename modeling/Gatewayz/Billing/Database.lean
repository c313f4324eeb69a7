import Gatewayz.Billing.Stripe
import Gatewayz.Exec.Prog

/-!
# `Billing.Database` — the statements, and what the database does with them

`World` is the content of the tables, and of Stripe next to them. `Stmt` lists the round trips the billing code makes, `Res` their
answers and `exec` their meaning. One statement is atomic.

The two stored procedures are translated from their migrations, branch by branch:

* `atomicAddCredits` locks the row, looks the `request_id` up, updates the balance and inserts the ledger row;
  a unique violation undoes the update and is answered as an idempotent success;
* `atomicDeductCredits` locks the row, checks the balance and its two components, updates and inserts.

Unique indexes: `credit_transactions.request_id`, and `credit_transactions.payment_id` among the rows of type
`purchase`; `stripe_webhook_events.event_id`.
-/

namespace Gatewayz

open Exec

structure World where
  users : Int → Option User := fun _ => none
  /-- The ids of `users` in the order of the table. -/
  userIds : List Int := []
  /-- The legacy `users.api_key` column, as a lookup. -/
  userByApiKey : String → Option Int := fun _ => none
  apiKeysNew : List ApiKeyRow := []
  plans : List Plan := []
  userPlans : List UserPlan := []
  subscriptionProducts : List SubscriptionProduct := []
  creditTransactions : List Transaction := []
  payments : List Payment := []
  webhookEvents : List WebhookEvent := []
  stripe : Stripe := {}

namespace World

/-- The user's allowance; nothing for a user who does not exist. -/
def allowance (w : World) (u : Int) : ℚ := ((w.users u).map User.allowance).getD 0
def purchased (w : World) (u : Int) : ℚ := ((w.users u).map User.purchased).getD 0
def balance (w : World) (u : Int) : ℚ := w.allowance u + w.purchased u
def columns (w : World) (u : Int) : ℚ × ℚ := (w.allowance u, w.purchased u)

def activePlanTypes (w : World) (u : Int) : List String :=
  (w.userPlans.filter (fun up => up.userId = u ∧ up.isActive)).filterMap fun up =>
    (w.plans.find? (fun p => p.id = up.planId)).map Plan.planType

/-- The user a key of `api_keys_new` belongs to. -/
def keyUser (w : World) (apiKey : String) : Option Int :=
  (w.apiKeysNew.find? (fun r => r.apiKey = apiKey)).map ApiKeyRow.userId

def userByCustomer (w : World) (customer : String) : Option Int :=
  w.userIds.find? fun u => (w.users u).any (fun row => row.stripeCustomerId = some customer)

def planIdByTier (w : World) (tier : String) : Option Int :=
  (w.plans.find? (fun p => p.tier = some tier ∧ p.isActive)).map Plan.id

def setUser (w : World) (u : Int) (row : User) : World :=
  { w with users := Function.update w.users u (some row) }

def payment? (w : World) (id : Int) : Option Payment := w.payments.find? (fun p => p.id = id)

def transactionByRequestId (w : World) (r : String) : Option Transaction :=
  w.creditTransactions.find? (fun t => t.requestId = some r)

/-- The negative amounts of the user's ledger rows from a time on. -/
def usageSince (w : World) (u : Int) (start : Time) : List ℚ :=
  (w.creditTransactions.filter (fun t => t.userId = u ∧ start ≤ t.createdAt ∧ t.amount < 0)).map
    Transaction.amount

/-- `idx_credit_transactions_purchase_payment_uniq` already holds a row for this payment. -/
def hasPurchase (w : World) (payment : Int) : Bool :=
  w.creditTransactions.any (fun t => t.transactionType = .purchase ∧ t.paymentId = some payment)

end World

/-! ## Inserting a ledger row -/

/-- The texts PostgreSQL answers a violated constraint with. -/
def uniqueViolation (index : String) : PyErr :=
  ⟨.apiError "23505", "duplicate key value violates unique constraint \"" ++ index ++ "\""⟩
def foreignKeyViolation (constraint : String) : PyErr :=
  ⟨.apiError "23503", "insert or update violates foreign key constraint \"" ++ constraint ++ "\""⟩
def checkViolation (constraint : String) : PyErr :=
  ⟨.apiError "23514", "new row violates check constraint \"" ++ constraint ++ "\""⟩

/-- The constraint that refuses a new ledger row, if any. The id of the row is the database's. -/
def World.refusesTransaction (w : World) (t : Transaction) : Option PyErr :=
  if (w.users t.userId).isNone then some (foreignKeyViolation "fk_user")
  else if t.paymentId.any (fun p => (w.payment? p).isNone) then some (foreignKeyViolation "fk_payment")
  else if t.requestId.any (fun r => (w.transactionByRequestId r).isSome) then
    some (uniqueViolation "idx_credit_transactions_request_id")
  else if t.transactionType = .purchase ∧ t.paymentId.any w.hasPurchase then
    some (uniqueViolation "idx_credit_transactions_purchase_payment_uniq")
  else none

def World.storedTransaction (w : World) (t : Transaction) : Transaction :=
  { t with id := w.creditTransactions.length + 1 }

def World.appendTransaction (w : World) (t : Transaction) : World :=
  { w with creditTransactions := w.creditTransactions ++ [w.storedTransaction t] }

/-- `insert` into `credit_transactions`. -/
def insertTransactionRow (t : Transaction) (w : World) : Except PyErr Transaction × World :=
  match w.refusesTransaction t with
  | some e => (.error e, w)
  | none => (.ok (w.storedTransaction t), w.appendTransaction t)

/-! ## `atomic_add_credits` -/

inductive CreditTarget where
  | purchased
  | allowance
  deriving DecidableEq

def CreditTarget.text : CreditTarget → String
  | .purchased => "purchased"
  | .allowance => "allowance"

structure AddCreditsParams where
  userId : Int
  credits : ℚ
  transactionType : TransactionType
  target : CreditTarget := .purchased
  paymentId : Option Int := none
  metadata : Dict := []
  requestId : Option String := none
  createdBy : Option String := none
  now : Time := 0
  deriving DecidableEq

structure RpcResult where
  success : Bool
  idempotent : Bool := false
  error : Option String := none
  transactionId : Option Int := none
  newAllowance : Option ℚ := none
  newPurchased : Option ℚ := none
  newBalance : Option ℚ := none

def RpcResult.failure (error : String) : RpcResult := { success := false, error := some error }

/-- The answer with the row's balances and a transaction. -/
def RpcResult.grant (idempotent : Bool) (id : Option Int) (row : User) : RpcResult where
  success := true
  idempotent := idempotent
  transactionId := id
  newAllowance := some row.allowance
  newPurchased := some row.purchased
  newBalance := some row.balance

/-- The user row after the grant. -/
def AddCreditsParams.granted (p : AddCreditsParams) (row : User) : User :=
  { row with
    subscriptionAllowance := some (if p.target = .allowance then row.allowance + p.credits else row.allowance)
    purchasedCredits := some (if p.target = .allowance then row.purchased else row.purchased + p.credits) }

/-- The ledger row of the grant. -/
def AddCreditsParams.ledgerRow (p : AddCreditsParams) (row : User) : Transaction where
  id := 0
  userId := p.userId
  amount := p.credits
  transactionType := p.transactionType
  balanceBefore := row.balance
  balanceAfter := (p.granted row).balance
  paymentId := p.paymentId
  requestId := p.requestId
  metadata :=
    (p.metadata.update
      [("target", .str p.target.text),
        ("allowance_before", .float row.allowance),
        ("allowance_after", .float (p.granted row).allowance),
        ("purchased_before", .float row.purchased),
        ("purchased_after", .float (p.granted row).purchased),
        ("atomic_procedure", .bool true)]).update
      (match p.createdBy with
        | some c => [("created_by", .str c)]
        | none => [])
  createdAt := p.now

/-- The stored procedure `atomic_add_credits`. -/
def atomicAddCredits (p : AddCreditsParams) (w : World) : RpcResult × World :=
  if p.credits ≤ 0 then (.failure "credits must be positive", w)
  else
    match w.users p.userId with
    | none => (.failure "user_not_found", w)
    | some row =>
      match p.requestId.bind w.transactionByRequestId with
      | some t => (.grant true (some t.id) row, w)
      | none =>
        match insertTransactionRow (p.ledgerRow row) (w.setUser p.userId (p.granted row)) with
        | (.ok t, w') => (.grant false (some t.id) (p.granted row), w')
        | (.error e, _) =>
          if e.kind = .apiError "23505" then
            -- `WHEN unique_violation`: the update is rolled back with the insert
            (.grant true ((p.requestId.bind w.transactionByRequestId).map Transaction.id) row, w)
          else (.failure e.text, w)

/-! ## `atomic_deduct_credits` -/

structure DeductCreditsParams where
  userId : Int
  tokensAmount : ℚ
  fromAllowance : ℚ
  fromPurchased : ℚ
  transactionType : TransactionType
  metadata : Dict := []
  requestId : Option String := none
  now : Time := 0
  deriving DecidableEq

/-- The user row after the deduction. -/
def DeductCreditsParams.charged (p : DeductCreditsParams) (row : User) : User :=
  { row with
    subscriptionAllowance := some (row.allowance - p.fromAllowance)
    purchasedCredits := some (row.purchased - p.fromPurchased) }

/-- The ledger row of the deduction; the request id goes into its metadata only. -/
def DeductCreditsParams.ledgerRow (p : DeductCreditsParams) (row : User) : Transaction where
  id := 0
  userId := p.userId
  amount := -p.tokensAmount
  transactionType := p.transactionType
  balanceBefore := row.balance
  balanceAfter := (p.charged row).balance
  metadata :=
    (p.metadata.update
      [("from_allowance", .float p.fromAllowance),
        ("from_purchased", .float p.fromPurchased),
        ("allowance_before", .float row.allowance),
        ("allowance_after", .float (p.charged row).allowance),
        ("purchased_before", .float row.purchased),
        ("purchased_after", .float (p.charged row).purchased),
        ("atomic_procedure", .bool true)]).update
      (match p.requestId with
        | some r => [("request_id", .str r)]
        | none => [])
  createdAt := p.now

/-- An error answer that carries the balances found. -/
def RpcResult.refusal (error : String) (row : User) : RpcResult where
  success := false
  error := some error
  newAllowance := some row.allowance
  newPurchased := some row.purchased
  newBalance := some row.balance

/-- The stored procedure `atomic_deduct_credits`. -/
def atomicDeductCredits (p : DeductCreditsParams) (w : World) : RpcResult × World :=
  if p.tokensAmount ≤ 0 then (.failure "tokens_amount must be positive", w)
  else if p.fromAllowance < 0 ∨ p.fromPurchased < 0 then
    (.failure "from_allowance and from_purchased must be non-negative", w)
  else if 1 / 1000000 < |p.fromAllowance + p.fromPurchased - p.tokensAmount| then
    (.failure "from_allowance + from_purchased must equal tokens_amount", w)
  else
    match w.users p.userId with
    | none => (.failure "user_not_found", w)
    | some row =>
      if row.balance < p.tokensAmount then (.refusal "insufficient_credits" row, w)
      else if row.allowance < p.fromAllowance then (.refusal "insufficient_allowance" row, w)
      else if row.purchased < p.fromPurchased then (.refusal "insufficient_purchased_credits" row, w)
      else
        match insertTransactionRow (p.ledgerRow row) (w.setUser p.userId (p.charged row)) with
        | (.ok t, w') => (.grant false (some t.id) (p.charged row), w')
        | (.error e, _) => (.failure e.text, w)

/-! ## Statements -/

inductive Stmt where
  /-- `api_keys_new`: the user id of a key. -/
  | selectApiKey (apiKey : String)
  | selectUser (u : Int)
  /-- `users` by the legacy `api_key` column; the row comes with its id. -/
  | selectUserByApiKey (apiKey : String)
  | selectUsersIn (ids : List Int)
  | updateUser (u : Int) (patch : UserPatch)
  /-- An update guarded by both balance columns. -/
  | updateUserIf (u : Int) (allowance purchased : ℚ) (patch : UserPatch)
  | updateApiKeys (u : Int) (patch : ApiKeyPatch)
  /-- `user_plans` joined with `plans`: the plan types of the user's active plans. -/
  | selectActivePlanTypes (u : Int)
  | rpcAtomicAddCredits (p : AddCreditsParams)
  | rpcAtomicDeductCredits (p : DeductCreditsParams)
  | selectTransactionByRequestId (requestId : String)
  /-- The negative amounts of a user's ledger rows from a time on. -/
  | selectUsageSince (u : Int) (start : Time)
  /-- The positive amounts of `admin_credit` rows by one creator from a time on. -/
  | selectAdminGrantsSince (createdBy : String) (start : Time)
  | insertTransaction (t : Transaction)
  | selectPayment (id : Int)
  | selectPaymentByIntent (intent : String)
  | selectPaymentBySession (session : String)
  | insertPayment (p : Payment)
  | updatePayment (id : Int) (patch : PaymentPatch)
  | insertWebhookEvent (e : WebhookEvent)
  | deleteWebhookEvent (eventId : String)
  /-- `users` by `stripe_customer_id`: the id. -/
  | selectUserByCustomer (customer : String)
  | selectPlanIdByTier (tier : String)
  /-- `subscription_products`: the tier of an active product. -/
  | selectTierOfProduct (product : String)
  /-- `subscription_products`: the monthly allowance of an active product of the tier. -/
  | selectAllowanceOfTier (tier : String)
  | deactivateUserPlans (u : Int)
  | insertUserPlan (p : UserPlan)
  | retrieveSession (id : String)
  | retrieveIntent (id : String)
  | retrieveSubscription (id : String)
  | createSession (p : SessionParams)
  | createIntent (p : IntentParams)
  | attemptSession (id : String) (succeeds : Bool)
  | attemptIntent (id : String) (succeeds : Bool)
  /-- Stripe's event at a place of its list. -/
  | selectEvent (position : Nat)
  deriving DecidableEq

/-- The answer to a statement. For an update it is the updated row, if a row matched. -/
@[reducible] def Res : Stmt → Type
  | .selectApiKey _ => Option Int
  | .selectUser _ => Option User
  | .selectUserByApiKey _ => Option (Int × User)
  | .selectUsersIn _ => List (Int × User)
  | .updateUser _ _ => Option User
  | .updateUserIf _ _ _ _ => Option User
  | .updateApiKeys _ _ => Unit
  | .selectActivePlanTypes _ => List String
  | .rpcAtomicAddCredits _ => RpcResult
  | .rpcAtomicDeductCredits _ => RpcResult
  | .selectTransactionByRequestId _ => Option Transaction
  | .selectUsageSince _ _ => List ℚ
  | .selectAdminGrantsSince _ _ => List ℚ
  | .insertTransaction _ => Transaction
  | .selectPayment _ => Option Payment
  | .selectPaymentByIntent _ => Option Payment
  | .selectPaymentBySession _ => Option Payment
  | .insertPayment _ => Payment
  | .updatePayment _ _ => Option Payment
  | .insertWebhookEvent _ => Unit
  | .deleteWebhookEvent _ => Unit
  | .selectUserByCustomer _ => Option Int
  | .selectPlanIdByTier _ => Option Int
  | .selectTierOfProduct _ => Option String
  | .selectAllowanceOfTier _ => Option ℚ
  | .deactivateUserPlans _ => Unit
  | .insertUserPlan _ => Unit
  | .retrieveSession _ => CheckoutSession
  | .retrieveIntent _ => PaymentIntent
  | .retrieveSubscription _ => Subscription
  | .createSession _ => CheckoutSession
  | .createIntent _ => PaymentIntent
  | .attemptSession _ _ => Unit
  | .attemptIntent _ _ => Unit
  | .selectEvent _ => Option Event

/-- `update` of one user row. -/
def updateUserRow (u : Int) (patch : UserPatch) (w : World) : Option User × World :=
  match w.users u with
  | none => (none, w)
  | some row => (some (patch.apply row), w.setUser u (patch.apply row))

def outOfRange : PyErr := ⟨.apiError "22003", "integer out of range"⟩

/-- `insert` into `payments`. The ids are 64-bit numbers. -/
def insertPaymentRow (p : Payment) (w : World) : Except PyErr Payment × World :=
  if (w.users p.userId).isNone then (.error (foreignKeyViolation "payments_user_id_fkey"), w)
  else if p.amountUsd < 0 then (.error (checkViolation "payments_amount_usd_check"), w)
  else if p.amountCents < 0 then (.error (checkViolation "payments_amount_cents_check"), w)
  else if p.creditsPurchased < 0 then (.error (checkViolation "payments_credits_purchased_check"), w)
  else if 2 ^ 63 ≤ w.payments.length + 1 then (.error outOfRange, w)
  else
    (.ok { p with id := w.payments.length + 1 },
      { w with payments := w.payments ++ [{ p with id := w.payments.length + 1 }] })

/-- `insert` into `stripe_webhook_events`. The user id is a 32-bit number. -/
def insertWebhookEventRow (e : WebhookEvent) (w : World) : Except PyErr Unit × World :=
  if e.userId.any (fun u => u < -2 ^ 31 ∨ 2 ^ 31 ≤ u) then (.error outOfRange, w)
  else if w.webhookEvents.any (fun r => r.eventId = e.eventId) then
    (.error (uniqueViolation "stripe_webhook_events_pkey"), w)
  else (.ok (), { w with webhookEvents := w.webhookEvents ++ [e] })

/-- `insert` into `user_plans`. -/
def insertUserPlanRow (p : UserPlan) (w : World) : Except PyErr Unit × World :=
  if (w.users p.userId).isNone then (.error (foreignKeyViolation "user_plans_user_id_fkey"), w)
  else if (w.plans.find? (fun q => q.id = p.planId)).isNone then
    (.error (foreignKeyViolation "user_plans_plan_id_fkey"), w)
  else (.ok (), { w with userPlans := w.userPlans ++ [p] })

/-- The answer about a Stripe object. -/
def retrieved {α : Type} (found : Option α) : Except PyErr α :=
  match found with
  | some a => .ok a
  | none => .error (stripeError "resource_missing")

/-- What the database or Stripe does with a statement. -/
def exec : (s : Stmt) → World → Except PyErr (Res s) × World
  | .selectApiKey k, w => (.ok (w.keyUser k), w)
  | .selectUser u, w => (.ok (w.users u), w)
  | .selectUserByApiKey k, w =>
    (.ok ((w.userByApiKey k).bind fun u => (w.users u).map fun row => (u, row)), w)
  | .selectUsersIn ids, w => (.ok (ids.filterMap fun u => (w.users u).map fun row => (u, row)), w)
  | .updateUser u patch, w => (.ok (updateUserRow u patch w).1, (updateUserRow u patch w).2)
  | .updateUserIf u a p patch, w =>
    -- a guard on a `NULL` column matches nothing
    if (w.users u).any (fun row => row.subscriptionAllowance = some a ∧ row.purchasedCredits = some p) then
      (.ok (updateUserRow u patch w).1, (updateUserRow u patch w).2)
    else (.ok none, w)
  | .updateApiKeys u patch, w =>
    (.ok (), { w with apiKeysNew := w.apiKeysNew.map fun r => if r.userId = u then patch.apply r else r })
  | .selectActivePlanTypes u, w => (.ok (w.activePlanTypes u), w)
  | .rpcAtomicAddCredits p, w => (.ok (atomicAddCredits p w).1, (atomicAddCredits p w).2)
  | .rpcAtomicDeductCredits p, w => (.ok (atomicDeductCredits p w).1, (atomicDeductCredits p w).2)
  | .selectTransactionByRequestId r, w => (.ok (w.transactionByRequestId r), w)
  | .selectUsageSince u start, w => (.ok (w.usageSince u start), w)
  | .selectAdminGrantsSince c start, w =>
    (.ok ((w.creditTransactions.filter
      (fun t => t.transactionType = .adminCredit ∧ t.createdBy = some c ∧ start ≤ t.createdAt ∧
        0 < t.amount)).map Transaction.amount), w)
  | .insertTransaction t, w => insertTransactionRow t w
  | .selectPayment id, w => (.ok (w.payment? id), w)
  | .selectPaymentByIntent i, w => (.ok (w.payments.find? (fun p => p.stripePaymentIntentId = some i)), w)
  | .selectPaymentBySession s, w =>
    (.ok (w.payments.find? (fun p => p.stripeCheckoutSessionId = some s)), w)
  | .insertPayment p, w => insertPaymentRow p w
  | .updatePayment id patch, w =>
    (.ok ((w.payment? id).map patch.apply),
      { w with payments := w.payments.map fun r => if r.id = id then patch.apply r else r })
  | .insertWebhookEvent e, w => insertWebhookEventRow e w
  | .deleteWebhookEvent id, w =>
    (.ok (), { w with webhookEvents := w.webhookEvents.filter (fun r => r.eventId ≠ id) })
  | .selectUserByCustomer c, w => (.ok (w.userByCustomer c), w)
  | .selectPlanIdByTier tier, w => (.ok (w.planIdByTier tier), w)
  | .selectTierOfProduct product, w =>
    (.ok ((w.subscriptionProducts.find? (fun p => p.productId = product ∧ p.isActive)).map
      SubscriptionProduct.tier), w)
  | .selectAllowanceOfTier tier, w =>
    (.ok ((w.subscriptionProducts.find? (fun p => p.tier = tier ∧ p.isActive)).bind
      SubscriptionProduct.allowancePerMonth), w)
  | .deactivateUserPlans u, w =>
    (.ok (), { w with userPlans := w.userPlans.map fun p => if p.userId = u then { p with isActive := false } else p })
  | .insertUserPlan p, w => insertUserPlanRow p w
  | .retrieveSession id, w => (retrieved (w.stripe.session? id), w)
  | .retrieveIntent id, w => (retrieved (w.stripe.intent? id), w)
  | .retrieveSubscription id, w => (retrieved (w.stripe.subscription? id), w)
  | .createSession p, w => ((w.stripe.createSession p).1, { w with stripe := (w.stripe.createSession p).2 })
  | .createIntent p, w => ((w.stripe.createIntent p).1, { w with stripe := (w.stripe.createIntent p).2 })
  | .attemptSession id succeeds, w => (.ok (), { w with stripe := w.stripe.attemptSession id succeeds })
  | .attemptIntent id succeeds, w => (.ok (), { w with stripe := w.stripe.attemptIntent id succeeds })
  | .selectEvent position, w => (.ok w.stripe.events[position]?, w)

abbrev DbProg := Prog PyErr Stmt Res

def query (s : Stmt) : DbProg (Res s) := Prog.stmt s

end Gatewayz
