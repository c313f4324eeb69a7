import Gatewayz.Billing.Checkout
import Gatewayz.Billing.Subscriptions

/-!
# `Billing.Webhooks` — `db/webhook_events.py` and the dispatch

An event is **claimed** by inserting its id into `stripe_webhook_events`; the unique index turns a second insert
into an answer that it is a duplicate. A handler that raises **releases** the claim, so that the event can be
processed again. The insert is retried after a connection error, although the database may have carried the first
one out.
-/

namespace Gatewayz

open Exec

/-! ## `db/webhook_events.py` -/

/-- `_is_duplicate_error`. The text of a database error contains its code. -/
def isDuplicateError (e : PyErr) : Bool :=
  e.kind = .apiError "23505" ||
    ["23505", "duplicate key", "already exists", "unique constraint"].any fun t => textContains t (lower e.text)

/-- The answers of `claim_event`. -/
inductive Claim where
  | claimed
  | duplicate
  /-- The table could not be reached: process without a claim. -/
  | unavailable

def claimEvent (event : WebhookEvent) : DbProg Claim :=
  tryCatch
    (do
      executeWithRetry (query (.insertWebhookEvent event)) 2
      pure .claimed)
    fun e => pure (if isDuplicateError e then .duplicate else .unavailable)

/-- `release_event`: a failure is only logged. -/
def releaseEvent (eventId : String) : DbProg Unit :=
  tryCatch (executeWithRetry (query (.deleteWebhookEvent eventId)) 2) fun _ => pure ()

/-! ## `handle_webhook` -/

structure WebhookProcessingResult where
  success : Bool
  eventType : String
  eventId : String
  message : String
  deriving DecidableEq

/-- The user id in the metadata of the event's object, if it is a number. -/
def Event.userId (event : Event) : Option Int :=
  if (event.data.metadata.get "user_id").truthy then intOf (event.data.metadata.get "user_id") else none

def Event.claimRow (event : Event) : WebhookEvent :=
  { eventId := event.id, eventType := event.data.type, userId := event.userId }

def Event.duplicateResult (event : Event) : WebhookProcessingResult :=
  { success := true, eventType := event.data.type, eventId := event.id,
    message := "Event " ++ event.id ++ " already processed (duplicate)" }

def Event.processedResult (event : Event) : WebhookProcessingResult :=
  { success := true, eventType := event.data.type, eventId := event.id,
    message := "Event " ++ event.data.type ++ " processed successfully" }

/-- `except Exception`: release the claim, if there is one, and raise again. -/
def Claim.giveBack (claim : Claim) (eventId : String) (e : PyErr) : DbProg Unit :=
  match claim with
  | .claimed => do
    releaseEvent eventId
    throw e
  | _ => throw e

def underClaim (claim : Claim) (event : Event) (handler : DbProg Unit) : DbProg WebhookProcessingResult := do
  tryCatch handler (claim.giveBack event.id)
  pure event.processedResult

/-- Claim the event, run the handler, release the claim if the handler raises. -/
def withClaim (event : Event) (handler : DbProg Unit) : DbProg WebhookProcessingResult := do
  let claim ← claimEvent event.claimRow
  match claim with
  | .duplicate => pure event.duplicateResult
  | _ => underClaim claim event handler

/-- The handler of the event's type. -/
def EventData.handler (config : PaymentConfig) (now : Time) : EventData → DbProg Unit
  | .checkoutSessionCompleted session => handleCheckoutCompleted config now session
  | .paymentIntentSucceeded intent => handlePaymentSucceeded config now intent
  | .paymentIntentPaymentFailed intent => handlePaymentFailed intent
  | .customerSubscriptionCreated subscription => handleSubscriptionCreated now subscription
  | .customerSubscriptionUpdated subscription => handleSubscriptionUpdated now subscription
  | .customerSubscriptionDeleted subscription => handleSubscriptionDeleted now subscription
  | .invoicePaid invoice => handleInvoicePaid now invoice
  | .invoicePaymentFailed invoice => handleInvoicePaymentFailed invoice
  | .other _ _ => pure ()

/-- `handle_webhook`, from the verified event on. -/
def handleWebhook (config : PaymentConfig) (now : Time) (event : Event) : DbProg WebhookProcessingResult :=
  withClaim event (event.data.handler config now)

end Gatewayz
