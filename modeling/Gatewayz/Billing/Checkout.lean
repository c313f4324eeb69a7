import Gatewayz.Billing.Payments

/-!
# `Billing.Checkout` — the handlers of one-time payments

`handleCheckoutCompleted` has two halves. `resolveCheckout` finds out who paid what: from the session's metadata,
and where those are missing from the session at Stripe, the payment intent, the `payments` row, the amount on the
session, and last a `payments` row made on the spot.

`handlePaymentSucceeded` works from the `payments` row alone. It writes the status *before* the grant and
swallows every exception.
-/

namespace Gatewayz

open Exec

/-! ## Metadata that may be missing -/

/-- `_hydrate_payment_intent_metadata_from_id`. -/
def hydratePaymentIntentMetadata (paymentIntentId : Option String) : DbProg Dict :=
  match nonempty paymentIntentId with
  | none => pure []
  | some id => do
    let intent ← catchStripe (query (.retrieveIntent id))
    pure ((intent.map PaymentIntent.metadata).getD [])

/-- `_hydrate_checkout_session_metadata`: the session to go on with, and its metadata. -/
def hydrateCheckoutSessionMetadata (session : CheckoutSession) : DbProg (CheckoutSession × Dict) :=
  if session.metadata ≠ [] then pure (session, session.metadata)
  else
    match nonempty session.id with
    | none => pure (session, [])
    | some sessionId => do
      let refreshed ← catchStripe (query (.retrieveSession sessionId))
      match refreshed.filter (fun s => s.metadata ≠ []) with
      | some refreshed => pure (refreshed, refreshed.metadata)
      | none => do
        let sessionForIntent := refreshed.getD session
        let intentMetadata ← hydratePaymentIntentMetadata sessionForIntent.paymentIntent
        pure (sessionForIntent, intentMetadata)

/-- `metadata.setdefault` for every entry. -/
def Dict.setDefaults (d entries : Dict) : Dict :=
  entries.foldl (fun acc e => if acc.any (fun a => a.1 = e.1) then acc else acc ++ [e]) d

/-- One attempt of `_lookup_payment_record`. -/
def lookupAttempt (stripeId : Option String) : DbProg (Option Payment) :=
  match nonempty stripeId with
  | some stripeId => getPaymentByStripeIntent stripeId
  | none => pure none

/-- `_lookup_payment_record`: by the intent, then by the session. -/
def lookupPaymentRecord (session : CheckoutSession) : DbProg (Option Payment) := do
  let byIntent ← lookupAttempt session.paymentIntent
  match byIntent with
  | some payment => pure (some payment)
  | none => if session.id = session.paymentIntent then pure none else lookupAttempt session.id

def createFallbackPaymentRecord (userId creditsCents : Int) (session : CheckoutSession) : DbProg (Option Payment) :=
  createPayment userId (creditsCents / 100) ((nonempty session.currency).getD "usd") .pending session.paymentIntent
    session.id

/-- `credits_cents` of the metadata, or else `credits`. -/
def creditsOfMetadata (metadata : Dict) : Except PyErr (Option Int) :=
  match coerceToInt (metadata.get "credits_cents") with
  | .ok none => coerceToInt (metadata.get "credits")
  | answer => answer

structure ResolvedCheckout where
  sessionId : Option String
  paymentIntentId : Option String
  userId : Int
  paymentId : Int
  creditsCents : Int

/-- `str(x)` of an optional number in a message. -/
def optText : Option Int → String
  | some n => toString n
  | none => "None"

/-- The user, the payment and the credits as far as the metadata tell. -/
structure CheckoutContext where
  userId : Option Int
  paymentId : Option Int
  creditsCents : Option Int

/-- The user of the metadata, or else the one of `client_reference_id`. -/
def CheckoutSession.userOr (session : CheckoutSession) : Option Int → Except PyErr (Option Int)
  | some userId => .ok (some userId)
  | none => coerceToInt ((session.clientReferenceId.map PyValue.str).getD .none)

/-- What the metadata tell; the user also by `client_reference_id`. -/
def CheckoutContext.read (session : CheckoutSession) (metadata : Dict) : Except PyErr CheckoutContext := do
  let userId ← coerceToInt (metadata.get "user_id")
  let paymentId ← coerceToInt (metadata.get "payment_id")
  let creditsCents ← creditsOfMetadata metadata
  let userId ← session.userOr userId
  pure ⟨userId, paymentId, creditsCents⟩

def CheckoutContext.complete (c : CheckoutContext) : Bool :=
  c.userId.isSome && c.paymentId.isSome && c.creditsCents.isSome

/-- The gaps filled from the `payments` row … -/
def CheckoutContext.fillFromRecord (c : CheckoutContext) (record : Payment) : CheckoutContext where
  userId := c.userId.or (some record.userId)
  paymentId := c.paymentId.or (some record.id)
  creditsCents := c.creditsCents.or (some record.creditsPurchased)

/-- … and from the amounts on the session. -/
def CheckoutContext.fillFromSession (c : CheckoutContext) (session : CheckoutSession) : CheckoutContext :=
  { c with creditsCents := (c.creditsCents.or session.amountTotal).or session.amountSubtotal }

/-- The metadata of the intent for what is missing on the session. -/
def backfillMetadata (session : CheckoutSession) (metadata : Dict) : DbProg Dict :=
  let missingKeys := ["user_id", "payment_id", "credits_cents"].filter fun key => ¬ (metadata.get key).truthy
  if missingKeys ≠ [] then do
    let intentMetadata ← hydratePaymentIntentMetadata session.paymentIntent
    pure (metadata.setDefaults intentMetadata)
  else pure metadata

/-- The `payments` row, if the metadata leave something open. -/
def CheckoutContext.record (c : CheckoutContext) (session : CheckoutSession) : DbProg (Option Payment) :=
  if c.complete then pure none else lookupPaymentRecord session

/-- A `payments` row made on the spot, if there is none. -/
def CheckoutContext.withFallbackRecord (c : CheckoutContext) (session : CheckoutSession) (record : Option Payment) :
    DbProg CheckoutContext :=
  match c.userId, c.paymentId, c.creditsCents, record with
  | some userId, none, some creditsCents, none => do
    let fallback ← createFallbackPaymentRecord userId creditsCents session
    pure { c with paymentId := fallback.map Payment.id }
  | _, _, _, _ => pure c

/-- Everything is known, or the handler raises. -/
def CheckoutContext.resolve (c : CheckoutContext) (session : CheckoutSession) : Except PyErr ResolvedCheckout :=
  match c.userId, c.paymentId, c.creditsCents with
  | some userId, some paymentId, some creditsCents =>
    .ok
      { sessionId := session.id, paymentIntentId := session.paymentIntent, userId := userId,
        paymentId := paymentId, creditsCents := creditsCents }
  | _, _, _ =>
    .error (.valueError
      ("Checkout session missing required metadata (session_id=" ++ session.id.getD "None" ++ ", user_id=" ++
        optText c.userId ++ ", payment_id=" ++ optText c.paymentId ++ ", credits_cents=" ++
        optText c.creditsCents ++ ")"))

/-- What is known of the checkout from the metadata, the `payments` row and the session. -/
def resolveFrom (session : CheckoutSession) (metadata : Dict) : DbProg ResolvedCheckout := do
  let metadata ← backfillMetadata session metadata
  let context ← liftPy (CheckoutContext.read session metadata)
  let record ← context.record session
  let context ←
    (((record.map context.fillFromRecord).getD context).fillFromSession session).withFallbackRecord session record
  liftPy (context.resolve session)

/-- `_handle_checkout_completed` up to its idempotency guard; nothing for a subscription checkout. -/
def resolveCheckout (session : CheckoutSession) : DbProg (Option ResolvedCheckout) := do
  let (session, metadata) ← hydrateCheckoutSessionMetadata session
  if session.id.isNone ∧ metadata = [] then
    throw (.valueError "Checkout session payload is missing metadata and session id; cannot process payment")
  else if session.mode = some "subscription" then pure none
  else do
    let resolved ← resolveFrom session metadata
    pure (some resolved)

/-! ## Settling -/

/-- `except Exception: log`. -/
def swallow (p : DbProg Unit) : DbProg Unit := tryCatch p fun _ => pure ()

/-- A trial user, or one of the basic tier, becomes one without a subscription. -/
def endTrial (userId : Int) (currentStatus currentTier : Option String) : DbProg Unit :=
  if currentStatus = some "trial" ∨ currentStatus = some "expired" ∨ currentTier = some "basic" then do
    let _ ← query (.updateUser userId { subscriptionStatus := some "inactive" })
    pure ()
  else pure ()

/-- The buyer is no trial user any more. -/
def clearTrialStatus (userId : Int) : DbProg Unit :=
  swallow do
    let user ← query (.selectUser userId)
    let currentStatus := user.bind User.subscriptionStatus
    endTrial userId currentStatus (user.bind User.tier)
    query (.updateApiKeys userId
      { isTrial := some false, trialConverted := some true,
        subscriptionStatus := if currentStatus = some "active" then none else some "inactive" })

namespace ResolvedCheckout

variable (r : ResolvedCheckout)

def amountDollars : ℚ := r.creditsCents / 100

def sessionKey (kind : String) : String := grantIdempotencyKey (kind ++ ":" ++ r.sessionId.getD "None")

/-- The grant of the purchase. -/
def purchase (config : PaymentConfig) (now : Time) : AddCreditsParams where
  userId := r.userId
  credits := config.granted r.amountDollars
  transactionType := .purchase
  paymentId := some r.paymentId
  metadata :=
    [("stripe_session_id", (r.sessionId.map PyValue.str).getD .none),
      ("stripe_payment_intent_id", (r.paymentIntentId.map PyValue.str).getD .none),
      ("amount_paid", .float r.amountDollars), ("topup_fee_rate", .float (config.applyTopupFee r.amountDollars).1),
      ("topup_fee", .float (config.applyTopupFee r.amountDollars).2.1)]
  requestId := some (r.sessionKey "cs")
  now := now

/-- The grant of the bonus for a first top-up. -/
def bonus (now : Time) : AddCreditsParams where
  userId := r.userId
  credits := 5
  transactionType := .firstTopupBonus
  metadata :=
    [("stripe_session_id", (r.sessionId.map PyValue.str).getD .none), ("trigger_amount", .float r.amountDollars)]
  requestId := some (r.sessionKey "bonus")
  now := now

def grantBonus (now : Time) : DbProg Unit :=
  if 5 ≤ r.amountDollars then addCreditsToUser (r.bonus now) else pure ()

/-- The bonus for a first top-up, and the mark that the first purchase was made. -/
def firstTopupBonus (now : Time) : DbProg Unit :=
  swallow do
    let user ← query (.selectUser r.userId)
    match user with
    | none => pure ()
    | some user =>
      if user.hasMadeFirstPurchase.getD false then pure ()
      else do
        r.grantBonus now
        let _ ← query (.updateUser r.userId { hasMadeFirstPurchase := some true })
        pure ()

/-- The grant and the status, for a payment that the guard let through. -/
def grant (config : PaymentConfig) (now : Time) : DbProg Unit := do
  addCreditsToUser (r.purchase config now)
  let _ ← updatePaymentStatus r.paymentId .completed r.paymentIntentId r.sessionId
  pure ()

/-- `_handle_checkout_completed` from its idempotency guard on. -/
def settle (config : PaymentConfig) (now : Time) : DbProg Unit := do
  let existingPayment ← getPayment r.paymentId
  if existingPayment.any (fun p => p.status = .completed) then pure ()
  else do
    r.grant config now
    clearTrialStatus r.userId
    r.firstTopupBonus now

end ResolvedCheckout

def handleCheckoutCompleted (config : PaymentConfig) (now : Time) (session : CheckoutSession) : DbProg Unit := do
  let resolved ← resolveCheckout session
  match resolved with
  | none => pure ()
  | some r => r.settle config now

/-- `reconcile_checkout_session`: did this call grant the credits? -/
def reconcileCheckoutSession (config : PaymentConfig) (now : Time) (session : CheckoutSession) : DbProg Bool := do
  let (_, metadata) ← hydrateCheckoutSessionMetadata session
  match metadata.get "payment_id" with
  | .none => pure false
  | value =>
    match intOf value with
    | none => pure false
    | some paymentId => do
      let existing ← getPayment paymentId
      if existing.any (fun p => p.status = .completed) then pure false
      else do
        handleCheckoutCompleted config now session
        pure true

/-! ## Payment intents -/

/-- The grant of `_handle_payment_succeeded`. -/
def Payment.purchase (config : PaymentConfig) (now : Time) (payment : Payment) (intent : String) :
    AddCreditsParams where
  userId := payment.userId
  credits := config.granted payment.amountUsd
  transactionType := .purchase
  paymentId := some payment.id
  metadata :=
    [("stripe_payment_intent_id", .str intent), ("amount_paid", .float payment.amountUsd),
      ("topup_fee_rate", .float (config.applyTopupFee payment.amountUsd).1),
      ("topup_fee", .float (config.applyTopupFee payment.amountUsd).2.1)]
  requestId := some (grantIdempotencyKey ("pi:" ++ intent))
  now := now

/-- `_handle_payment_succeeded`: the status first, then the grant. -/
def handlePaymentSucceeded (config : PaymentConfig) (now : Time) (intent : PaymentIntent) : DbProg Unit :=
  swallow do
    let payment ← getPaymentByStripeIntent intent.id
    match payment with
    | none => pure ()
    | some payment =>
      if payment.status = .completed then pure ()
      else do
        let _ ← updatePaymentStatus payment.id .completed none none
        addCreditsToUser (payment.purchase config now intent.id)

def handlePaymentFailed (intent : PaymentIntent) : DbProg Unit :=
  swallow do
    let payment ← getPaymentByStripeIntent intent.id
    match payment with
    | none => pure ()
    | some payment => do
      let _ ← updatePaymentStatus payment.id .failed none none
      pure ()

end Gatewayz
