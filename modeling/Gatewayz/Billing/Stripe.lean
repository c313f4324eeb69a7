import Gatewayz.Billing.Tables

/-!
# `Billing.Stripe` — what Stripe keeps and sends

Stripe is a second store next to the database. It keeps the objects the backend makes there, lets the customer
try to pay for them, and keeps a list of **events**, each with the object as it was when the event happened.

* `CheckoutSession`, `PaymentIntent`, `Subscription`, `Invoice` — the objects, with the fields the handlers
  read; a field may be missing, and `retrieve_checkout_session` passes on fewer fields than a webhook does;
* `Stripe.createSession`, `Stripe.createIntent`, `Stripe.attemptSession`, `Stripe.attemptIntent` — what changes
  them.
-/

namespace Gatewayz

/-! ## Objects -/

/-- What an object was made for. No handler reads this; the properties are stated with it. -/
structure Origin where
  userId : Int
  /-- The row of `payments` made for the object. -/
  paymentId : Int
  amount : Int
  creditValue : Option ℚ := none
  deriving DecidableEq

structure CheckoutSession where
  id : Option String
  metadata : Dict := []
  paymentIntent : Option String := none
  mode : Option String := none
  clientReferenceId : Option String := none
  amountTotal : Option Int := none
  amountSubtotal : Option Int := none
  currency : Option String := none
  customerEmail : Option String := none
  paymentStatus : Option String := none
  status : Option String := none
  /-- The intent that Stripe shows from the first attempt to pay. -/
  ownIntent : Option String := none
  madeFor : Option Origin := none

structure PaymentIntent where
  id : String
  metadata : Dict := []
  amount : Int := 0
  currency : String := "usd"
  status : String := "requires_payment_method"
  madeFor : Option Origin := none

structure SubscriptionItem where
  currentPeriodEnd : Option Nat := none
  product : Option String := none

structure Subscription where
  id : String
  customer : Option String := none
  status : String := "active"
  metadata : Dict := []
  /-- The field of the older API generation. -/
  currentPeriodEnd : Option Nat := none
  items : List SubscriptionItem := []

structure Invoice where
  id : String
  /-- The three places an invoice may name its subscription in. -/
  subscription : Option String := none
  parentSubscription : Option String := none
  lineSubscriptions : List (Option String) := []
  billingReason : Option String := none
  metadata : Dict := []

/-! ## Events -/

/-- `event["type"]` with `event["data"]["object"]`. -/
inductive EventData where
  | checkoutSessionCompleted (session : CheckoutSession)
  | paymentIntentSucceeded (intent : PaymentIntent)
  | paymentIntentPaymentFailed (intent : PaymentIntent)
  | customerSubscriptionCreated (subscription : Subscription)
  | customerSubscriptionUpdated (subscription : Subscription)
  | customerSubscriptionDeleted (subscription : Subscription)
  | invoicePaid (invoice : Invoice)
  | invoicePaymentFailed (invoice : Invoice)
  | other (type : String) (metadata : Dict)

namespace EventData

def type : EventData → String
  | .checkoutSessionCompleted _ => "checkout.session.completed"
  | .paymentIntentSucceeded _ => "payment_intent.succeeded"
  | .paymentIntentPaymentFailed _ => "payment_intent.payment_failed"
  | .customerSubscriptionCreated _ => "customer.subscription.created"
  | .customerSubscriptionUpdated _ => "customer.subscription.updated"
  | .customerSubscriptionDeleted _ => "customer.subscription.deleted"
  | .invoicePaid _ => "invoice.paid"
  | .invoicePaymentFailed _ => "invoice.payment_failed"
  | .other type _ => type

/-- `event["data"]["object"].get("metadata")`. -/
def metadata : EventData → Dict
  | .checkoutSessionCompleted session => session.metadata
  | .paymentIntentSucceeded intent | .paymentIntentPaymentFailed intent => intent.metadata
  | .customerSubscriptionCreated subscription | .customerSubscriptionUpdated subscription
  | .customerSubscriptionDeleted subscription => subscription.metadata
  | .invoicePaid invoice | .invoicePaymentFailed invoice => invoice.metadata
  | .other _ metadata => metadata

end EventData

structure Event where
  id : String
  data : EventData

/-! ## The store -/

structure Stripe where
  sessions : List CheckoutSession := []
  intents : List PaymentIntent := []
  subscriptions : List Subscription := []
  events : List Event := []

def stripeError (text : String) : PyErr := ⟨.stripeError, text⟩

/-- Metadata as Stripe keeps it: texts, without the entries that are `None`. -/
def echoed (d : Dict) : Dict := (d.filter (fun e => e.2 ≠ .none)).map fun e => (e.1, .str e.2.text)

/-- What the backend sends to make a session; the same metadata goes to its intent. -/
structure SessionParams where
  metadata : Dict
  clientReferenceId : String
  amount : Int
  currency : String
  customerEmail : Option String
  madeFor : Origin
  deriving DecidableEq

structure IntentParams where
  metadata : Dict
  amount : Int
  currency : String
  madeFor : Origin
  deriving DecidableEq

/-- The parameters of the intent behind a session. -/
def SessionParams.intent (p : SessionParams) : IntentParams where
  metadata := p.metadata
  amount := p.amount
  currency := p.currency
  madeFor := p.madeFor

/-- The session after an attempt to pay. -/
def CheckoutSession.attempted (c : CheckoutSession) (succeeds : Bool) : CheckoutSession :=
  { c with
    paymentIntent := c.ownIntent
    paymentStatus := if succeeds then some "paid" else c.paymentStatus
    status := if succeeds then some "complete" else c.status }

def PaymentIntent.attempted (i : PaymentIntent) (succeeds : Bool) : PaymentIntent :=
  { i with status := if succeeds then "succeeded" else i.status }

namespace Stripe

def session? (s : Stripe) (id : String) : Option CheckoutSession := s.sessions.find? (fun c => c.id = some id)
def intent? (s : Stripe) (id : String) : Option PaymentIntent := s.intents.find? (fun i => i.id = id)
def subscription? (s : Stripe) (id : String) : Option Subscription := s.subscriptions.find? (fun c => c.id = id)

def nextIntentId (s : Stripe) : String := "pi_" ++ toString (s.intents.length + 1)
def nextSessionId (s : Stripe) : String := "cs_" ++ toString (s.sessions.length + 1)

def emit (s : Stripe) (data : EventData) : Stripe :=
  { s with events := s.events ++ [⟨"evt_" ++ toString (s.events.length + 1), data⟩] }

/-- The intent for `PaymentIntent.create`, or behind a new session. -/
def newIntent (s : Stripe) (p : IntentParams) : PaymentIntent where
  id := s.nextIntentId
  metadata := echoed p.metadata
  amount := p.amount
  currency := p.currency
  madeFor := some p.madeFor

/-- `stripe.PaymentIntent.create`. An id is given once. -/
def createIntent (s : Stripe) (p : IntentParams) : Except PyErr PaymentIntent × Stripe :=
  if (s.intent? s.nextIntentId).isSome then (.error (stripeError "id is taken"), s)
  else (.ok (s.newIntent p), { s with intents := s.intents ++ [s.newIntent p] })

/-- The session for `checkout.Session.create`. -/
def newSession (s : Stripe) (p : SessionParams) : CheckoutSession where
  id := some s.nextSessionId
  metadata := echoed p.metadata
  mode := some "payment"
  clientReferenceId := some p.clientReferenceId
  amountTotal := some p.amount
  amountSubtotal := some p.amount
  currency := some p.currency
  customerEmail := p.customerEmail
  paymentStatus := some "unpaid"
  status := some "open"
  ownIntent := some s.nextIntentId
  madeFor := some p.madeFor

/-- `stripe.checkout.Session.create`. -/
def createSession (s : Stripe) (p : SessionParams) : Except PyErr CheckoutSession × Stripe :=
  if (s.session? s.nextSessionId).isSome ∨ (s.intent? s.nextIntentId).isSome then
    (.error (stripeError "id is taken"), s)
  else
    (.ok (s.newSession p),
      { s with
        sessions := s.sessions ++ [s.newSession p]
        intents := s.intents ++ [s.newIntent p.intent] })

/-- The customer tries to pay an intent that has not succeeded. -/
def attemptIntent (s : Stripe) (id : String) (succeeds : Bool) : Stripe :=
  match s.intent? id with
  | none => s
  | some i =>
    if i.status = "succeeded" then s
    else
      let tried : Stripe :=
        { s with intents := s.intents.map fun j => if j.id = id then j.attempted succeeds else j }
      tried.emit
        (if succeeds then .paymentIntentSucceeded (i.attempted true)
          else .paymentIntentPaymentFailed (i.attempted false))

/-- The customer tries to pay an open session, and with it the session's intent. -/
def attemptSession (s : Stripe) (id : String) (succeeds : Bool) : Stripe :=
  match s.session? id with
  | none => s
  | some c =>
    if c.paymentStatus = some "paid" then s
    else
      let tried : Stripe :=
        { s with sessions := s.sessions.map fun d => if d.id = some id then d.attempted succeeds else d }
      let reported := if succeeds then tried.emit (.checkoutSessionCompleted (c.attempted true)) else tried
      match c.ownIntent with
      | none => reported
      | some i => reported.attemptIntent i succeeds

end Stripe

end Gatewayz
