import Gatewayz.Billing.Rules
import Gatewayz.Billing.Webhooks

/-!
# `Billing.PaymentRules` — what the payment functions do, one rule each

* `…_claimFree` — no handler touches the claims of `stripe_webhook_events`; only `withClaim` does;
* `wp_resolveCheckout` — for a session whose metadata names a payment, the first half of `handleCheckoutCompleted`
  only reads and ends with that payment;
* `wp_resolveCheckout_known` — for any session, it ends with a payment that has its row, if all metadata name only
  such payments;
-/

namespace Gatewayz

open Exec

/-! ## No handler touches the claims -/

theorem only_executeWithRetry {P : Stmt → Prop} {α : Type} {operation : DbProg α} (h : operation.Only P)
    (retries : Nat) : (executeWithRetry operation retries).Only P := by
  induction retries with
  | zero => exact h
  | succ retries ih =>
    refine only_tryCatch h fun e => ?_
    split
    · exact ih
    · exact only_fail e

theorem only_liftPy {P : Stmt → Prop} {α : Type} (r : Except PyErr α) : (liftPy r).Only P := by
  cases r with
  | ok a => exact only_ret a
  | error e => exact only_fail e

theorem liftPy_ok {α : Type} (a : α) : (liftPy (.ok a) : DbProg α) = .ret a := rfl

theorem only_catchStripe {P : Stmt → Prop} {α : Type} {p : DbProg α} (h : p.Only P) : (catchStripe p).Only P := by
  refine only_tryCatch (only_bind h fun a => only_ret _) fun e => ?_
  split
  · exact only_ret _
  · exact only_fail e

variable {p : DbProg Unit}

theorem only_swallow {P : Stmt → Prop} (h : p.Only P) : (swallow p).Only P :=
  only_tryCatch h fun _ => only_ret _

variable {id : String} {session : CheckoutSession}

section Handlers

variable {P : Stmt → Prop}

theorem logCreditTransaction_only {t : Transaction} (h : P (.insertTransaction t.logged)) :
    (logCreditTransaction t).Only P :=
  only_tryCatch (only_bind (only_executeWithRetry (only_query h) 2) fun _ => only_ret _) fun _ => only_ret _

/-- What a ledger row says: whose it is, of which type, how much and when. -/
structure Transaction.Says (t : Transaction) (userId : Int) (transactionType : TransactionType) (amount : ℚ) (now : Time) : Prop where
  userId : t.userId = userId
  transactionType : t.transactionType = transactionType
  amount : t.amount = amount
  createdAt : t.createdAt = now

/-- The statements `add_credits_to_user` issues. -/
structure AddCreditsParams.Issues (P : Stmt → Prop) (p : AddCreditsParams) : Prop where
  procedure : P (.rpcAtomicAddCredits p.forRpc)
  select : P (.selectUser p.userId)
  update : ∀ q, P (.updateUser p.userId { purchasedCredits := some q })
  insert : ∀ t : Transaction, P (.insertTransaction t)

/-- The same, for the ledger row of the grant. -/
theorem addCreditsToUser_only_row {p : AddCreditsParams} (hprocedure : P (.rpcAtomicAddCredits p.forRpc))
    (hselect : P (.selectUser p.userId)) (hupdate : ∀ q, P (.updateUser p.userId { purchasedCredits := some q }))
    (hinsert : ∀ t : Transaction, 0 < p.credits → t.Says p.userId p.transactionType p.credits p.now → P (.insertTransaction t)) :
    (addCreditsToUser p).Only P := by
  unfold addCreditsToUser
  split
  · exact only_fail _
  rename_i hcredits
  refine only_tryCatch (only_bind ?_ fun result => ?_) fun _ => only_fail _
  · refine only_bind (only_attempt (only_query hprocedure)) fun answer => ?_
    repeat' split
    all_goals first | exact only_ret _ | exact only_fail _
  · cases result with
    | some _ => exact only_ret _
    | none =>
      refine only_bind (only_query hselect) fun row => ?_
      cases row with
      | none => exact only_fail _
      | some row =>
        simp only
        split
        · exact only_fail _
        · refine only_bind (only_query (hupdate _)) fun updated => ?_
          cases updated with
          | none => exact only_fail _
          | some _ =>
            refine only_bind (logCreditTransaction_only ?_) fun _ => only_ret _
            exact hinsert _ (lt_of_not_ge hcredits) ⟨rfl, rfl, rfl, rfl⟩

theorem addCreditsToUser_only {p : AddCreditsParams} (h : p.Issues P) : (addCreditsToUser p).Only P :=
  addCreditsToUser_only_row h.procedure h.select h.update fun t _ _ => h.insert t

theorem addCreditsToUser_claimFree (p : AddCreditsParams) : (addCreditsToUser p).Only Stmt.ClaimFree :=
  addCreditsToUser_only ⟨trivial, trivial, fun _ => trivial, fun _ => trivial⟩

variable {now : Time} {u : Int} {amount : ℚ}

/-- `reset_subscription_allowance`: a read, a write, a row. -/
theorem resetSubscriptionAllowance_only_row (tier : String) (hselect : P (.selectUser u))
    (hupdate : P (.updateUser u { subscriptionAllowance := some amount }))
    (hinsert : ∀ t : Transaction, t.Says u .subscriptionRenewal amount now → P (.insertTransaction t)) :
    (resetSubscriptionAllowance now u amount tier).Only P := by
  refine only_tryCatch (only_bind (only_query hselect) fun row => ?_) fun _ => only_ret _
  cases row with
  | none => exact only_ret _
  | some row =>
    refine only_bind (only_query hupdate) fun updated => ?_
    cases updated with
    | none => exact only_ret _
    | some _ => exact only_bind (logCreditTransaction_only (hinsert _ ⟨rfl, rfl, rfl, rfl⟩)) fun _ => only_ret _

/-- `forfeit_subscription_allowance`: the same, for an allowance that was not used up. -/
theorem forfeitSubscriptionAllowance_only_row (raiseOnError : Bool)
    (effectiveDate cancellationContext : Option String) (hselect : P (.selectUser u))
    (hupdate : P (.updateUser u { subscriptionAllowance := some 0 }))
    (hinsert : ∀ (t : Transaction) (forfeited : ℚ), 0 < forfeited → t.Says u .subscriptionCancellation (-forfeited) now →
      P (.insertTransaction t)) :
    (forfeitSubscriptionAllowance now u raiseOnError effectiveDate cancellationContext).Only P := by
  refine only_tryCatch (only_bind (only_query hselect) fun row => ?_) fun e => ?_
  · cases row with
    | none =>
      simp only
      split
      · exact only_fail _
      · exact only_ret _
    | some row =>
      simp only
      split
      · rename_i hforfeited
        refine only_bind (only_query hupdate) fun updated => ?_
        cases updated with
        | none =>
          simp only
          split
          · exact only_fail _
          · exact only_ret _
        | some _ =>
          exact only_bind (logCreditTransaction_only (hinsert _ _ hforfeited ⟨rfl, rfl, rfl, rfl⟩)) fun _ => only_ret _
      · exact only_ret _
  · split
    · exact only_fail _
    · exact only_ret _

structure Deduction.Issues (P : Stmt → Prop) (d : Deduction) : Prop where
  procedure : P (.rpcAtomicDeductCredits d.rpcParams)
  guarded : P (.updateUserIf d.userId d.allowanceBefore d.purchasedBefore d.chargePatch)
  select : P (.selectUser d.userId)
  insert : P (.insertTransaction d.legacyRow)
  rollback : P (.updateUser d.userId d.rollbackPatch)

theorem pay_only {d : Deduction} (h : d.Issues P) : d.pay.Only P := by
  refine only_bind ?_ fun used => ?_
  · unfold Deduction.atomicPath
    refine only_tryCatch (only_bind (only_query h.procedure) fun result => ?_) fun e => ?_
    · cases d.readRpcResult result with
      | ok used => exact only_ret _
      | error e => exact only_fail _
    · split
      · exact only_fail _
      · exact only_ret _
  · cases used with
    | true => exact only_ret _
    | false =>
      show Prog.Only _ d.legacyPath
      unfold Deduction.legacyPath
      split
      · exact only_fail _
      refine only_bind (only_query h.guarded) fun result => ?_
      cases result with
      | none => exact only_bind (only_query h.select) fun _ => only_fail _
      | some _ =>
        refine only_bind (logCreditTransaction_only h.insert) fun row => ?_
        cases row with
        | some _ => exact only_ret _
        | none =>
          refine only_bind (only_attempt (only_query h.rollback)) fun written => ?_
          cases written with
          | ok _ => exact only_fail _
          | error _ => exact only_fail _

/-- A deduction reads until it pays. -/
theorem deductCredits_only {apiKey : String} {tokens : ℚ} {metadata : Option Dict}
    {requestId : Option String} (hread : ∀ s : Stmt, s.Reads → P s)
    (hpay : ∀ d : Deduction, d.now = now → d.tokens = tokens → 1 / 1000000 ≤ tokens → d.pay.Only P) :
    (deductCredits now apiKey tokens metadata requestId).Only P := by
  unfold deductCredits
  split
  · exact only_fail _
  split
  · exact only_ret _
  rename_i hmin
  refine only_tryCatch (only_bind ?_ fun existing => ?_) fun _ => only_fail _
  · unfold alreadyCharged
    split
    · exact only_ret _
    · exact only_bind (only_mono hread (getTransactionByRequestId_reads _)) fun _ => only_ret _
  split
  · exact only_ret _
  refine only_bind ?_ fun found => ?_
  · refine only_bind (only_query (hread _ trivial)) fun keyResult => ?_
    cases keyResult with
    | some u => exact only_bind (only_query (hread _ trivial)) fun _ => only_ret _
    | none => exact only_query (hread _ trivial)
  cases found with
  | none => exact only_fail _
  | some found =>
    refine only_bind (only_mono hread (isAdminTierUser_reads _)) fun admin => ?_
    split
    · exact only_ret _
    refine only_bind (only_tryCatch (only_mono hread (enforceDailyUsageLimit_reads _ _ _)) fun e => ?_) fun _ =>
      hpay _ rfl rfl (le_of_not_gt hmin)
    split
    · exact only_fail _
    · exact only_fail _

theorem getPayment_only {id : Int} (h : P (.selectPayment id)) : (getPayment id).Only P :=
  only_tryCatch (only_executeWithRetry (only_query h) 2) fun _ => only_ret _

theorem getPaymentByStripeIntent_only (hi : P (.selectPaymentByIntent id))
    (hs : P (.selectPaymentBySession id)) : (getPaymentByStripeIntent id).Only P := by
  refine only_tryCatch (only_bind (only_query hi) fun byIntent => ?_) fun _ => only_ret _
  cases byIntent with
  | some payment => exact only_ret _
  | none => exact only_query hs

variable {status : PaymentStatus}

theorem updatePaymentStatus_only {id : Int} {intent session : Option String} (h : P (.updatePayment id

          { status := status, stripePaymentIntentId := nonempty intent, stripeCheckoutSessionId := nonempty session })) :
    (updatePaymentStatus id status intent session).Only P :=
  only_tryCatch (only_executeWithRetry (only_query h) 2) fun _ => only_ret _

theorem createPayment_only {userId : Int} {currency : String} {intent session : Option String}
    (h : ∀ p : Payment, p.status = status → P (.insertPayment p)) :
    (createPayment userId amount currency status intent session).Only P :=
  only_tryCatch (only_bind (only_executeWithRetry (only_query (h _ rfl)) 2) fun _ => only_ret _) fun _ => only_ret _

theorem hydratePaymentIntentMetadata_only {id : Option String} (h : ∀ i, P (.retrieveIntent i)) :
    (hydratePaymentIntentMetadata id).Only P := by
  unfold hydratePaymentIntentMetadata
  split
  · exact only_ret _
  · exact only_bind (only_catchStripe (only_query (h _))) fun _ => only_ret _

theorem hydrateCheckoutSessionMetadata_only (hs : ∀ i, P (.retrieveSession i))
    (hi : ∀ i, P (.retrieveIntent i)) : (hydrateCheckoutSessionMetadata session).Only P := by
  unfold hydrateCheckoutSessionMetadata
  split
  · exact only_ret _
  split
  · exact only_ret _
  refine only_bind (only_catchStripe (only_query (hs _))) fun refreshed => ?_
  split
  · exact only_ret _
  · exact only_bind (hydratePaymentIntentMetadata_only hi) fun _ => only_ret _

theorem lookupAttempt_only {id : Option String} (hi : ∀ i, P (.selectPaymentByIntent i))
    (hs : ∀ i, P (.selectPaymentBySession i)) : (lookupAttempt id).Only P := by
  unfold lookupAttempt
  split
  · exact getPaymentByStripeIntent_only (hi _) (hs _)
  · exact only_ret _

theorem lookupPaymentRecord_only (hi : ∀ i, P (.selectPaymentByIntent i))
    (hs : ∀ i, P (.selectPaymentBySession i)) : (lookupPaymentRecord session).Only P := by
  refine only_bind (lookupAttempt_only hi hs) fun byIntent => ?_
  split
  · exact only_ret _
  split
  · exact only_ret _
  · exact lookupAttempt_only hi hs

/-- What `resolveCheckout` issues: `select`s, and the insert of a fallback row. -/
theorem resolveCheckout_only (hread : ∀ s : Stmt, s.Reads → P s)
    (hinsert : ∀ p : Payment, p.status = .pending → P (.insertPayment p)) (session : CheckoutSession) :
    (resolveCheckout session).Only P := by
  refine only_bind (hydrateCheckoutSessionMetadata_only (fun _ => hread _ trivial) fun _ => hread _ trivial) ?_
  rintro ⟨session, metadata⟩
  simp only
  split
  · exact only_fail _
  split
  · exact only_ret _
  refine only_bind (only_bind ?_ fun metadata => only_bind (only_liftPy _) fun context => only_bind ?_ fun record =>
    only_bind ?_ fun _ => only_liftPy _) fun _ => only_ret _
  · unfold backfillMetadata
    simp only
    split
    · exact only_bind (hydratePaymentIntentMetadata_only fun _ => hread _ trivial) fun _ => only_ret _
    · exact only_ret _
  · unfold CheckoutContext.record
    split
    · exact only_ret _
    · exact lookupPaymentRecord_only (fun _ => hread _ trivial) fun _ => hread _ trivial
  · unfold CheckoutContext.withFallbackRecord
    split
    · exact only_bind (createPayment_only hinsert) fun _ => only_ret _
    · exact only_ret _

theorem clearTrialStatus_only (hselect : P (.selectUser u))
    (hend : P (.updateUser u { subscriptionStatus := some "inactive" }))
    (hkeys : ∀ patch, P (.updateApiKeys u patch)) : (clearTrialStatus u).Only P := by
  refine only_swallow (only_bind (only_query hselect) fun user => only_bind ?_ fun _ => only_query (hkeys _))
  unfold endTrial
  split
  · exact only_bind (only_query hend) fun _ => only_ret _
  · exact only_ret _

theorem firstTopupBonus_only {r : ResolvedCheckout} (hbonus : (r.bonus now).Issues P)
    (hmark : P (.updateUser r.userId { hasMadeFirstPurchase := some true })) :
    (r.firstTopupBonus now).Only P := by
  refine only_swallow (only_bind (only_query hbonus.select) fun user => ?_)
  split
  · exact only_ret _
  split
  · exact only_ret _
  refine only_bind ?_ fun _ => only_bind (only_query hmark) fun _ => only_ret _
  unfold ResolvedCheckout.grantBonus
  split
  · exact addCreditsToUser_only hbonus
  · exact only_ret _

variable (config : PaymentConfig)

theorem handleCheckoutCompleted_claimFree (now : Time) (session : CheckoutSession) :
    (handleCheckoutCompleted config now session).Only Stmt.ClaimFree := by
  refine only_bind (resolveCheckout_only (fun _ h => claimFree_of_reads h) (fun _ _ => trivial) session) fun resolved => ?_
  cases resolved with
  | none => exact only_ret _
  | some r =>
    refine only_bind (getPayment_only trivial) fun existing => ?_
    split
    · exact only_ret _
    refine only_bind (only_bind (addCreditsToUser_claimFree _) fun _ =>
      only_bind (updatePaymentStatus_only trivial) fun _ => only_ret _) fun _ => ?_
    exact only_bind (clearTrialStatus_only trivial trivial fun _ => trivial) fun _ =>
      firstTopupBonus_only ⟨trivial, trivial, fun _ => trivial, fun _ => trivial⟩ trivial

theorem handlePaymentSucceeded_claimFree (now : Time) (intent : PaymentIntent) :
    (handlePaymentSucceeded config now intent).Only Stmt.ClaimFree := by
  refine only_swallow (only_bind (getPaymentByStripeIntent_only trivial trivial) fun payment => ?_)
  split
  · exact only_ret _
  split
  · exact only_ret _
  · exact only_bind (updatePaymentStatus_only trivial) fun _ => addCreditsToUser_claimFree _

theorem handlePaymentFailed_claimFree (intent : PaymentIntent) : (handlePaymentFailed intent).Only Stmt.ClaimFree := by
  refine only_swallow (only_bind (getPaymentByStripeIntent_only trivial trivial) fun payment => ?_)
  split
  · exact only_ret _
  · exact only_bind (updatePaymentStatus_only trivial) fun _ => only_ret _

/-! ### Subscriptions -/

theorem requireUser_reads (s : Subscription) (label id : String) : (requireUser s label id).Only Stmt.Reads := by
  refine only_bind ?_ fun userId => ?_
  · unfold extractUserIdFromSubscription
    simp only
    repeat' split
    all_goals first
      | exact only_ret _
      | exact only_bind (only_tryCatch (only_query trivial) fun _ => only_ret _) fun _ => only_ret _
  · cases userId with
    | none => exact only_fail _
    | some u => exact only_ret _

theorem getTierFromProductId_reads (product : String) : (getTierFromProductId product).Only Stmt.Reads :=
  only_tryCatch (only_bind (only_query trivial) fun _ => only_ret _) fun _ => only_ret _

theorem getAllowanceFromTier_reads (tier : String) : (getAllowanceFromTier tier).Only Stmt.Reads :=
  only_tryCatch (only_bind (only_query trivial) fun _ => only_ret _) fun _ => only_ret _

theorem resolveTier_reads (s : Subscription) (tier : Option String) :
    (resolveTierFromSubscription s tier).Only Stmt.Reads := by
  unfold resolveTierFromSubscription
  simp only
  split
  · exact only_ret _
  refine only_bind ?_ fun lookedUp => ?_
  · unfold Subscription.productTier
    split
    · exact getTierFromProductId_reads _
    · exact only_ret _
  · repeat' split
    all_goals exact only_ret _

theorem only_of_reads {α : Type} {p : DbProg α} (h : p.Only Stmt.Reads) : p.Only Stmt.OfSubscription :=
  only_mono (fun _ => ofSubscription_of_reads) h

theorem assignPlan_only_of {P : Stmt → Prop} {tier : String} {s : Subscription}
    (hselect : P (.selectPlanIdByTier tier)) (hdeactivate : P (.deactivateUserPlans u))
    (hinsert : ∀ p, P (.insertUserPlan p)) : (assignPlan u tier s).Only P := by
  refine only_bind (only_tryCatch (only_query hselect) fun _ => only_ret _) fun planId => ?_
  split
  · exact only_ret _
  refine only_bind (only_query hdeactivate) fun _ => ?_
  split
  · exact only_fail _
  · exact only_query (hinsert _)

theorem assignPlan_only (u : Int) (tier : String) (s : Subscription) : (assignPlan u tier s).Only Stmt.OfSubscription :=
  assignPlan_only_of trivial trivial fun _ => trivial

theorem resetSubscriptionAllowance_only (now : Time) (u : Int) (amount : ℚ) (tier : String) :
    (resetSubscriptionAllowance now u amount tier).Only Stmt.OfSubscription :=
  resetSubscriptionAllowance_only_row tier trivial trivial fun t ht => by
    rw [Stmt.OfSubscription, ht.transactionType]
    nofun

theorem resetTierAllowance_only (now : Time) (u : Int) (tier : String) (onFailure : ℚ → PyErr) :
    (resetTierAllowance now u tier onFailure).Only Stmt.OfSubscription := by
  refine only_bind (only_of_reads (getAllowanceFromTier_reads tier)) fun allowance => ?_
  split
  · refine only_bind (resetSubscriptionAllowance_only now u allowance tier) fun done => ?_
    split
    · exact only_ret _
    · exact only_fail _
  · exact only_ret _

theorem forfeitSubscriptionAllowance_only (now : Time) (u : Int) (raiseOnError : Bool) (date context : Option String) :
    (forfeitSubscriptionAllowance now u raiseOnError date context).Only Stmt.OfSubscription :=
  forfeitSubscriptionAllowance_only_row raiseOnError date context trivial trivial fun t _ _ ht => by
    rw [Stmt.OfSubscription, ht.transactionType]
    nofun

theorem handleSubscriptionCreated_only (now : Time) (s : Subscription) :
    (handleSubscriptionCreated now s).Only Stmt.OfSubscription := by
  refine only_bind (only_of_reads (requireUser_reads _ _ _)) fun u => ?_
  refine only_bind (only_of_reads (resolveTier_reads _ _)) ?_
  rintro ⟨tier, product⟩
  exact only_bind (only_query trivial) fun _ => only_bind (assignPlan_only _ _ _) fun _ =>
    only_bind (only_query trivial) fun _ => resetTierAllowance_only _ _ _ _

theorem handleSubscriptionUpdated_only (now : Time) (s : Subscription) :
    (handleSubscriptionUpdated now s).Only Stmt.OfSubscription := by
  refine only_bind (only_of_reads (requireUser_reads _ _ _)) fun u => ?_
  refine only_bind (only_of_reads (resolveTier_reads _ _)) ?_
  rintro ⟨tier, product⟩
  refine only_bind (only_query trivial) fun _ => ?_
  split
  · refine only_bind (assignPlan_only _ _ _) fun _ => only_bind (only_query trivial) fun _ => ?_
    split
    · exact only_ret _
    · exact resetTierAllowance_only _ _ _ _
  · exact only_ret _

theorem handleSubscriptionDeleted_only (now : Time) (s : Subscription) :
    (handleSubscriptionDeleted now s).Only Stmt.OfSubscription := by
  refine only_bind (only_of_reads (requireUser_reads _ _ _)) fun u => ?_
  split
  · exact only_fail _
  refine only_bind (only_tryCatch (only_query trivial) fun _ => only_ret _) fun _ => ?_
  exact only_bind (forfeitSubscriptionAllowance_only _ _ _ _ _) fun _ =>
    only_bind (only_query trivial) fun _ => only_query trivial

theorem handleInvoicePaid_only (now : Time) (i : Invoice) : (handleInvoicePaid now i).Only Stmt.OfSubscription := by
  unfold handleInvoicePaid
  split
  · exact only_ret _
  split
  · exact only_ret _
  refine only_bind (only_query trivial) fun s => only_bind (only_of_reads (requireUser_reads _ _ _)) fun u => ?_
  split
  · exact only_ret _
  refine only_bind (only_of_reads (resolveTier_reads _ _)) ?_
  rintro ⟨tier, product⟩
  exact resetTierAllowance_only _ _ _ _

theorem handleInvoicePaymentFailed_only (i : Invoice) : (handleInvoicePaymentFailed i).Only Stmt.OfSubscription := by
  unfold handleInvoicePaymentFailed
  split
  · exact only_ret _
  exact only_bind (only_query trivial) fun s => only_bind (only_of_reads (requireUser_reads _ _ _)) fun u =>
    only_bind (only_query trivial) fun _ => only_query trivial

/-- No handler touches the claims. -/
theorem EventData.handler_claimFree (now : Time) (data : EventData) :
    (data.handler config now).Only Stmt.ClaimFree := by
  have hsubscription : ∀ {p : DbProg Unit}, p.Only Stmt.OfSubscription → p.Only Stmt.ClaimFree :=
    only_mono fun s h => by cases s <;> trivial
  cases data with
  | checkoutSessionCompleted session => exact handleCheckoutCompleted_claimFree config now session
  | paymentIntentSucceeded intent => exact handlePaymentSucceeded_claimFree config now intent
  | paymentIntentPaymentFailed intent => exact handlePaymentFailed_claimFree intent
  | customerSubscriptionCreated subscription => exact hsubscription (handleSubscriptionCreated_only now subscription)
  | customerSubscriptionUpdated subscription => exact hsubscription (handleSubscriptionUpdated_only now subscription)
  | customerSubscriptionDeleted subscription => exact hsubscription (handleSubscriptionDeleted_only now subscription)
  | invoicePaid invoice => exact hsubscription (handleInvoicePaid_only now invoice)
  | invoicePaymentFailed invoice => exact hsubscription (handleInvoicePaymentFailed_only invoice)
  | other type metadata => exact only_ret _

end Handlers

/-! ## Reads -/

section Reads

variable {γ α : Type} {note : γ → (s : Stmt) → Except PyErr (Res s) → World → World → γ}
variable {allow : γ → Stmt → Outcome PyErr → World → Prop} {K : Contract Stmt World}
variable {J : γ → World → Prop} {E : PyErr → γ → World → Prop}

def MayFail (allow : γ → Stmt → Outcome PyErr → World → Prop) (s : Stmt) : Prop :=
  ∃ g o w, o ≠ .served ∧ allow g s o w

/-- One `select`, with the reason of a failure. -/
theorem wp_select (hJ : Steady note allow K J) {s : Stmt} (hs : s.Reads) {Q : Res s → γ → World → Prop} {g : γ}
    {w : World} (h : J g w)
    (hok : ∀ a g' w', J g' w' → (exec s w').1 = .ok a → (∃ g₀, J g₀ w' ∧ allow g₀ s .served w') → Q a g' w')
    (herr : ∀ e g' w', J g' w' → (exec s w').1 = .error e ∨ MayFail allow s → E e g' w') :
    (query s).wp (setting note allow) K Q E g w := by
  refine wp_stmt (C := setting note allow) fun w₁ hr hi o ho => ?_
  have hj₁ := hJ.rely g w w₁ hr h
  obtain ⟨hg, hj'⟩ := hJ.read s hs g o w₁ hi ho hj₁
  rw [answer_reads hs]
  refine ⟨hi, hg, ?_⟩
  cases o with
  | served =>
    simp only [answer_served] at hj' ⊢
    cases ha : (exec s w₁).1 with
    | ok a => rw [ha] at hj'; exact hok a _ w₁ hj' ha ⟨g, hj₁, ho⟩
    | error e => rw [ha] at hj'; exact herr e _ w₁ hj' (.inl ha)
  | dropped e => exact herr e _ w₁ hj' (.inr ⟨g, .dropped e, w₁, nofun, ho⟩)
  | lost e => exact herr e _ w₁ hj' (.inr ⟨g, .lost e, w₁, nofun, ho⟩)

theorem wp_getPayment (hJ : Steady note allow K J) {id : Int} {Q : Option Payment → γ → World → Prop} {g : γ}
    {w : World} (h : J g w) (hread : ∀ g' w', J g' w' → Q (w'.payment? id) g' w')
    (hfail : MayFail allow (.selectPayment id) → ∀ g' w', J g' w' → Q none g' w') :
    (getPayment id).wp (setting note allow) K Q E g w := by
  unfold getPayment
  rw [wp_tryCatch]
  refine wp_executeWithRetry (I := J) (E := fun _ g' w' => Q none g' w') (fun g' w' hj => ?_) h
  refine wp_select hJ (s := .selectPayment id) trivial hj ?_ ?_
  · intro row g₁ w₁ hj₁ hrow _
    obtain rfl : w₁.payment? id = row := by simpa [exec] using hrow
    exact hread g₁ w₁ hj₁
  · intro e g₁ w₁ hj₁ hwhy
    exact ⟨hj₁, hfail (hwhy.resolve_left (by simp [exec])) g₁ w₁ hj₁⟩

/-- The row `get_payment_by_stripe_intent` finds. -/
def World.paymentByStripeId (w : World) (id : String) : Option Payment :=
  (w.payments.find? fun p => p.stripePaymentIntentId = some id).or
    (w.payments.find? fun p => p.stripeCheckoutSessionId = some id)

theorem wp_getPaymentByStripeIntent (hJ : Steady note allow K J) {id : String}
    {Q : Option Payment → γ → World → Prop} {g : γ} {w : World} (h : J g w)
    (hbyIntent : ∀ p g' w', J g' w' → (w'.payments.find? fun p => p.stripePaymentIntentId = some id) = some p →
      (∃ g₀, J g₀ w' ∧ allow g₀ (.selectPaymentByIntent id) .served w') → Q (some p) g' w')
    (hbySession : ∀ row g' w', J g' w' →
      (w'.payments.find? fun p => p.stripeCheckoutSessionId = some id) = row →
      (∃ g₀, J g₀ w' ∧ allow g₀ (.selectPaymentBySession id) .served w') → Q row g' w')
    (hfail : ∀ g' w', J g' w' →
      MayFail allow (.selectPaymentByIntent id) ∨ MayFail allow (.selectPaymentBySession id) → Q none g' w') :
    (getPaymentByStripeIntent id).wp (setting note allow) K Q E g w := by
  unfold getPaymentByStripeIntent
  simp only [wp_tryCatch, wp_bind]
  refine wp_select hJ (s := .selectPaymentByIntent id) trivial h ?_ ?_
  · intro row g₁ w₁ hj₁ hrow hallow
    have hrow : (w₁.payments.find? fun p => p.stripePaymentIntentId = some id) = row := by simpa [exec] using hrow
    cases row with
    | some p => exact hbyIntent p g₁ w₁ hj₁ hrow hallow
    | none =>
      refine wp_select hJ (s := .selectPaymentBySession id) trivial hj₁ ?_ ?_
      · intro row g₂ w₂ hj₂ hrow hallow
        exact hbySession row g₂ w₂ hj₂ (by simpa [exec] using hrow) hallow
      · intro e g₂ w₂ hj₂ hwhy
        exact hfail g₂ w₂ hj₂ (.inr (hwhy.resolve_left (by simp [exec])))
  · intro e g₁ w₁ hj₁ hwhy
    exact hfail g₁ w₁ hj₁ (.inl (hwhy.resolve_left (by simp [exec])))

end Reads

/-! ## The claim around a handler -/

theorem wp_swallow {γ : Type} {C : Setting PyErr Stmt Res γ World} {K : Contract Stmt World} {p : DbProg Unit}
    {Q : Unit → γ → World → Prop} {E : PyErr → γ → World → Prop} {g : γ} {w : World}
    (h : p.wp C K Q (fun _ => Q ()) g w) : (swallow p).wp C K Q E g w := by
  unfold swallow
  rw [wp_tryCatch]
  exact h

theorem wp_swallowed {γ : Type} {C : Setting PyErr Stmt Res γ World} {K : Contract Stmt World} {p : DbProg Unit}
    {Q : Unit → γ → World → Prop} {E E' : PyErr → γ → World → Prop} {g : γ} {w : World}
    (h : (swallow p).wp C K Q E' g w) : (swallow p).wp C K Q E g w := by
  unfold swallow at h ⊢
  rw [wp_tryCatch] at h ⊢
  exact h

section Claiming

variable {γ : Type} {note : γ → (s : Stmt) → Except PyErr (Res s) → World → World → γ}
variable {allow : γ → Stmt → Outcome PyErr → World → Prop} {K : Contract Stmt World} {J : γ → World → Prop}

theorem claimEvent_only (event : WebhookEvent) : (claimEvent event).Only Stmt.OnClaims :=
  only_tryCatch (only_bind (only_executeWithRetry (only_query trivial) 2) fun _ => only_ret _) fun _ => only_ret _

theorem duplicateResult_ne (event : Event) : event.duplicateResult ≠ event.processedResult := by
  intro h
  have htext := congrArg (fun r => r.message.toList.getLast?) h
  simp [Event.duplicateResult, Event.processedResult, List.getLast?_cons, List.getLast?_append] at htext

/-- A delivery: it is a duplicate, or its handler runs; `R` is what holds where the handler raises. -/
theorem wp_withClaim {R : γ → World → Prop} (hJ : Kept note allow K Stmt.OnClaims J)
    (hR : Kept note allow K Stmt.OnClaims R) {event : Event} {handler : DbProg Unit}
    {Q : WebhookProcessingResult → γ → World → Prop} (hhandler : ∀ g w, J g w →
      handler.wp (setting note allow) K (fun _ => Q event.processedResult) (fun _ => R) g w)
    (hdup : ∀ g w, J g w → Q event.duplicateResult g w) {g : γ} {w : World} (hstart : J g w)
    (hraise : ∀ g w, J g w → R g w) : (withClaim event handler).wp (setting note allow) K Q (fun _ => R) g w := by
  have hunder : ∀ (claim : Claim) (g : γ) (w : World), J g w →
      (underClaim claim event handler).wp (setting note allow) K Q (fun _ => R) g w := by
    intro claim g w hj
    simp only [underClaim, wp_bind, wp_tryCatch]
    refine wp_mono (fun _ _ _ hq => hq) (fun e g' w' hr => ?_) (hhandler g w hj)
    -- the handler has raised, and so does the release
    have hgive : (claim.giveBack event.id e).wp (setting note allow) K (fun _ _ _ => False) (fun _ => R) g' w' := by
      cases claim with
      | claimed =>
        simp only [Claim.giveBack, releaseEvent, wp_bind, wp_tryCatch]
        have hrelease := hR.wp (only_executeWithRetry (only_query (s := .deleteWebhookEvent event.id) trivial) 2) hr
        exact wp_mono (fun _ _ _ h => h) (fun _ _ _ h => h) hrelease
      | duplicate => exact hr
      | unavailable => exact hr
    exact wp_post (fun _ _ _ hf => hf.elim) hgive
  unfold withClaim
  rw [wp_bind]
  refine wp_mono (fun claim g' w' hj' => ?_) (fun _ _ _ hj' => hraise _ _ hj')
    (hJ.wp (claimEvent_only event.claimRow) hstart)
  cases claim with
  | duplicate => exact hdup g' w' hj'
  | claimed => exact hunder .claimed g' w' hj'
  | unavailable => exact hunder .unavailable g' w' hj'

end Claiming

/-! ## Checkouts whose metadata name a payment -/

def CheckoutSession.Names (session : CheckoutSession) (paymentId : Int) : Prop :=
  coerceToInt (session.metadata.get "payment_id") = .ok (some paymentId)

instance (session : CheckoutSession) (paymentId : Int) : Decidable (session.Names paymentId) :=
  inferInstanceAs (Decidable (_ = _))

/-- The resolved checkout of a session that names its payment. -/
structure ResolvedCheckout.Of (r : ResolvedCheckout) (session : CheckoutSession) (paymentId : Int) : Prop where
  sessionId : r.sessionId = session.id
  paymentIntentId : r.paymentIntentId = session.paymentIntent
  paymentId : r.paymentId = paymentId
  userId : ∀ u, coerceToInt (session.metadata.get "user_id") = .ok (some u) → r.userId = u
  creditsCents : ∀ c, coerceToInt (session.metadata.get "credits_cents") = .ok (some c) → r.creditsCents = c

def Dict.Extends (d e : Dict) : Prop := ∀ key, e.get key ≠ .none → d.get key = e.get key

variable {d : Dict} {key : String}

theorem Dict.get_append_of_ne (h : d.get key ≠ .none) (e : Dict) : Dict.get (d ++ e) key = d.get key := by
  induction d with
  | nil => exact absurd rfl h
  | cons a d ih =>
    obtain ⟨k, v⟩ := a
    by_cases hk : k = key
    · simp [get, hk]
    · simp only [List.cons_append, get, if_neg hk] at h ⊢
      exact ih h

theorem Dict.setDefaults_extends (d e : Dict) : (d.setDefaults e).Extends d := by
  unfold setDefaults
  induction e generalizing d with
  | nil => exact fun _ _ => rfl
  | cons a e ih =>
    intro key hkey
    simp only [List.foldl_cons]
    have hone : Dict.get (if d.any (fun b => b.1 = a.1) then d else d ++ [a]) key = d.get key := by
      split
      · rfl
      · exact get_append_of_ne hkey [a]
    rw [← hone]
    exact ih _ key (by rw [hone]; exact hkey)

theorem get_ne_none_of_coerce {n : Int} (h : coerceToInt (d.get key) = .ok (some n)) : d.get key ≠ .none := by
  intro hnone
  rw [hnone] at h
  cases h

theorem Dict.Extends.coerce {d e : Dict} (h : d.Extends e) {n : Int}
    (hn : coerceToInt (e.get key) = .ok (some n)) : coerceToInt (d.get key) = .ok (some n) := by
  rw [h key (get_ne_none_of_coerce hn), hn]

/-- What is read from the metadata. -/
theorem CheckoutContext.read_eq {metadata : Dict} {c : CheckoutContext}
    (h : CheckoutContext.read session metadata = .ok c) :
    (∀ u, coerceToInt (metadata.get "user_id") = .ok (some u) → c.userId = some u) ∧
      coerceToInt (metadata.get "payment_id") = .ok c.paymentId ∧
      (∀ n, coerceToInt (metadata.get "credits_cents") = .ok (some n) → c.creditsCents = some n) := by
  obtain ⟨u, hu, h⟩ := bind_eq_ok.mp h
  obtain ⟨p, hp, h⟩ := bind_eq_ok.mp h
  obtain ⟨n, hn, h⟩ := bind_eq_ok.mp h
  obtain ⟨v, hv, h⟩ := bind_eq_ok.mp h
  cases h
  refine ⟨fun u' hu' => ?_, hp, fun n' hn' => ?_⟩
  · rw [hu] at hu'
    cases hu'
    cases hv
    rfl
  · rw [creditsOfMetadata, hn'] at hn
    cases hn
    rfl

section Resolve

variable {γ : Type} {note : γ → (s : Stmt) → Except PyErr (Res s) → World → World → γ}
variable {allow : γ → Stmt → Outcome PyErr → World → Prop} {K : Contract Stmt World}
variable {J : γ → World → Prop} {E : PyErr → γ → World → Prop}

/-- A checkout that names its payment: `resolveCheckout` only reads, and ends with that payment. -/
theorem wp_resolveCheckout (hJ : Steady note allow K J) {session : CheckoutSession} {paymentId : Int}
    (hname : session.Names paymentId) {Q : Option ResolvedCheckout → γ → World → Prop} {g : γ} {w : World}
    (h : J g w) (hnone : session.mode = some "subscription" → ∀ g' w', J g' w' → Q none g' w')
    (hsome : session.mode ≠ some "subscription" → ∀ r : ResolvedCheckout, r.Of session paymentId →
      ∀ g' w', J g' w' → Q (some r) g' w')
    (herr : ∀ e g' w', J g' w' → E e g' w') :
    (resolveCheckout session).wp (setting note allow) K Q E g w := by
  have hmeta : session.metadata ≠ [] := by
    intro hnil
    have := get_ne_none_of_coerce hname
    rw [hnil] at this
    exact this rfl
  unfold resolveCheckout hydrateCheckoutSessionMetadata
  simp only [if_pos hmeta, Prog.pure_eq, Prog.ret_bind]
  rw [if_neg (by simp [hmeta])]
  split
  · rename_i hmode
    exact hnone hmode g w h
  rename_i hmode
  unfold resolveFrom
  simp only [wp_bind]
  have hbackfill : (backfillMetadata session session.metadata).wp (setting note allow) K
      (fun d g' w' => d.Extends session.metadata ∧ J g' w') E g w := by
    unfold backfillMetadata
    simp only
    split
    · rw [wp_bind]
      refine wp_mono (fun d g' w' hj => ?_) (fun e g' w' hj => herr e g' w' hj)
        (hJ.keeps (hydratePaymentIntentMetadata_only fun _ => trivial) h)
      exact ⟨session.metadata.setDefaults_extends d, hj⟩
    · exact ⟨fun _ _ => rfl, h⟩
  refine wp_mono ?_ (fun _ _ _ he => he) hbackfill
  rintro metadata g₁ w₁ ⟨hext, hj₁⟩
  cases hread : CheckoutContext.read session metadata with
  | error e => exact herr e g₁ w₁ hj₁
  | ok c =>
    obtain ⟨huser, hpayment, hcredits⟩ := CheckoutContext.read_eq hread
    rw [hext.coerce hname] at hpayment
    have hpayment : c.paymentId = some paymentId := by simpa using hpayment.symm
    simp only [liftPy, Prog.pure_eq, Prog.ret_bind, wp_bind]
    have hrecord : (c.record session).Only Stmt.Reads := by
      unfold CheckoutContext.record
      split
      · exact only_ret _
      · exact lookupPaymentRecord_only (fun _ => trivial) fun _ => trivial
    refine wp_mono (fun record g₂ w₂ hj₂ => ?_) (fun e g₂ w₂ hj₂ => herr e g₂ w₂ hj₂) (hJ.keeps hrecord hj₁)
    -- the row only fills gaps, and the payment is no gap
    generalize hfilled : ((record.map c.fillFromRecord).getD c).fillFromSession session = filled
    have hfilledPayment : filled.paymentId = some paymentId := by
      rw [← hfilled]
      cases record <;> simp [CheckoutContext.fillFromSession, CheckoutContext.fillFromRecord, hpayment]
    have hfilledUser : ∀ u, c.userId = some u → filled.userId = some u := by
      intro u hu
      rw [← hfilled]
      cases record <;> simp [CheckoutContext.fillFromSession, CheckoutContext.fillFromRecord, hu]
    have hfilledCredits : ∀ n, c.creditsCents = some n → filled.creditsCents = some n := by
      intro n hn
      rw [← hfilled]
      cases record <;> simp [CheckoutContext.fillFromSession, CheckoutContext.fillFromRecord, hn]
    have hsame : filled.withFallbackRecord session record = Prog.ret filled := by
      unfold CheckoutContext.withFallbackRecord
      rw [hfilledPayment]
      split
      · rename_i hnone _
        cases hnone
      · rfl
    rw [hsame, Prog.ret_bind]
    unfold CheckoutContext.resolve
    cases hu : filled.userId with
    | none => exact herr _ g₂ w₂ hj₂
    | some u =>
      cases hc : filled.creditsCents with
      | none => rw [hfilledPayment]; exact herr _ g₂ w₂ hj₂
      | some n =>
        rw [hfilledPayment]
        refine hsome hmode _ ⟨rfl, rfl, rfl, ?_, ?_⟩ g₂ w₂ hj₂
        · intro v hv
          have := hfilledUser v (huser v (hext.coerce hv))
          rw [hu] at this
          exact Option.some.inj this
        · intro m hm
          have := hfilledCredits m (hcredits m (hext.coerce hm))
          rw [hc] at this
          exact Option.some.inj this

end Resolve

/-! ## Checkouts whose metadata name known payments -/

def Dict.NamesKnown (d : Dict) (w : World) : Prop :=
  ∀ e ∈ d, e.1 = "payment_id" → ∀ q ∈ (coerceToInt e.2).toOption.join, (w.payment? q).isSome

instance (d : Dict) (w : World) : Decidable (d.NamesKnown w) :=
  inferInstanceAs (Decidable (∀ e ∈ d, _ → ∀ q ∈ _, _))

def World.StripeNamesKnown (w : World) : Prop :=
  (∀ c ∈ w.stripe.sessions, c.metadata.NamesKnown w) ∧ ∀ i ∈ w.stripe.intents, i.metadata.NamesKnown w

instance (w : World) : Decidable w.StripeNamesKnown := inferInstanceAs (Decidable (_ ∧ _))

/-- The session is of a known payment: it names one, or it names no other and neither does anything at Stripe. -/
def CheckoutSession.Known (session : CheckoutSession) (w : World) : Prop :=
  (∃ q ∈ (coerceToInt (session.metadata.get "payment_id")).toOption.join, (w.payment? q).isSome) ∨
    session.metadata.NamesKnown w ∧ w.StripeNamesKnown

instance (session : CheckoutSession) (w : World) : Decidable (session.Known w) :=
  inferInstanceAs (Decidable ((∃ q ∈ _, _) ∨ _))

theorem Dict.namesKnown_nil (w : World) : Dict.NamesKnown [] w := nofun

theorem Dict.NamesKnown.stay {w w' : World} (h : d.NamesKnown w) (hstay : PaymentsStay w w') :
    d.NamesKnown w' := fun e he hk q hq => hstay q (h e he hk q hq)

theorem World.StripeNamesKnown.stay {w w' : World} (h : w.StripeNamesKnown) (hstay : PaymentsStay w w')
    (hsame : w'.stripe = w.stripe) : w'.StripeNamesKnown := by
  refine ⟨fun c hc => ?_, fun i hi => ?_⟩
  · exact (h.1 c (hsame ▸ hc)).stay hstay
  · exact (h.2 i (hsame ▸ hi)).stay hstay

theorem Dict.mem_setDefaults {d e : Dict} {a : String × PyValue} (h : a ∈ d.setDefaults e) : a ∈ d ∨ a ∈ e := by
  induction e generalizing d with
  | nil => exact .inl h
  | cons b e ih =>
    rcases ih h with hacc | he
    · simp only at hacc
      split at hacc
      · exact .inl hacc
      · rcases List.mem_append.mp hacc with hd | hb
        · exact .inl hd
        · exact .inr (List.mem_cons.mpr (.inl (List.mem_singleton.mp hb)))
    · exact .inr (List.mem_cons_of_mem b he)

variable {w : World}

theorem Dict.NamesKnown.setDefaults {d e : Dict} (hd : d.NamesKnown w) (he : e.NamesKnown w) :
    (d.setDefaults e).NamesKnown w := fun a ha => (mem_setDefaults ha).elim (hd a) (he a)

theorem Dict.mem_of_get (h : d.get key ≠ .none) : (key, d.get key) ∈ d := by
  induction d with
  | nil => exact absurd rfl h
  | cons a d ih =>
    obtain ⟨k, v⟩ := a
    by_cases hk : k = key
    · subst hk
      simp [get]
    · simp only [get, if_neg hk] at h ⊢
      exact List.mem_cons_of_mem _ (ih h)

theorem Dict.NamesKnown.coerce (h : d.NamesKnown w) {q : Int}
    (hq : coerceToInt (d.get "payment_id") = .ok (some q)) : (w.payment? q).isSome :=
  h _ (mem_of_get (get_ne_none_of_coerce hq)) rfl q (by rw [hq]; rfl)

theorem names_of_mem {q : Int} (h : q ∈ (coerceToInt (session.metadata.get "payment_id")).toOption.join) :
    session.Names q := by
  unfold CheckoutSession.Names
  revert h
  cases coerceToInt (session.metadata.get "payment_id") with
  | error e => simp [Except.toOption]
  | ok n => simp [Except.toOption]

theorem World.payment?_of_mem {p : Payment} (h : p ∈ w.payments) : (w.payment? p.id).isSome := by
  rw [World.payment?, List.find?_isSome]
  exact ⟨p, h, by simp⟩

section Known

variable {γ α : Type} {note : γ → (s : Stmt) → Except PyErr (Res s) → World → World → γ}
variable {allow : γ → Stmt → Outcome PyErr → World → Prop} {K : Contract Stmt World}
variable {J : γ → World → Prop} {E : PyErr → γ → World → Prop}

/-- Stripe's objects, or nothing after a `StripeError`. -/
theorem wp_catchStripe_read (hJ : Steady note allow K J) {s : Stmt} (hs : s.Reads)
    {Q : Option (Res s) → γ → World → Prop} {g : γ} {w : World} (h : J g w)
    (hsome : ∀ a g' w', J g' w' → (exec s w').1 = .ok a → Q (some a) g' w') (hnone : ∀ g' w', J g' w' → Q none g' w')
    (herr : ∀ e g' w', J g' w' → E e g' w') : (catchStripe (query s)).wp (setting note allow) K Q E g w := by
  unfold catchStripe
  simp only [wp_tryCatch, wp_bind]
  refine wp_select hJ hs h (fun a g' w' hj ha _ => hsome a g' w' hj ha) fun e g' w' hj _ => ?_
  by_cases hk : e.kind = .stripeError
  · rw [if_pos hk]; exact hnone g' w' hj
  · rw [if_neg hk]; exact herr e g' w' hj

theorem exec_retrieveSession {c : CheckoutSession} (h : (exec (.retrieveSession id) w).1 = .ok c) :
    c ∈ w.stripe.sessions := by
  simp only [exec, retrieved] at h
  split at h
  · rename_i found hfound
    cases h
    exact List.mem_of_find?_eq_some hfound
  · cases h

theorem exec_retrieveIntent {i : PaymentIntent} (h : (exec (.retrieveIntent id) w).1 = .ok i) :
    i ∈ w.stripe.intents := by
  simp only [exec, retrieved] at h
  split at h
  · rename_i found hfound
    cases h
    exact List.mem_of_find?_eq_some hfound
  · cases h

theorem wp_hydratePaymentIntentMetadata (hJ : Steady note allow K J) {id : Option String}
    {Q : Dict → γ → World → Prop} {g : γ} {w : World} (h : J g w)
    (hknown : ∀ g w, J g w → w.StripeNamesKnown) (hok : ∀ d g' w', J g' w' → d.NamesKnown w' → Q d g' w')
    (herr : ∀ e g' w', J g' w' → E e g' w') : (hydratePaymentIntentMetadata id).wp (setting note allow) K Q E g w := by
  unfold hydratePaymentIntentMetadata
  split
  · exact hok [] g w h (Dict.namesKnown_nil w)
  rw [wp_bind]
  refine wp_catchStripe_read hJ (s := .retrieveIntent _) trivial h ?_ ?_ herr
  · intro i g₁ w₁ hj₁ hi
    exact hok _ g₁ w₁ hj₁ ((hknown g₁ w₁ hj₁).2 i (exec_retrieveIntent hi))
  · exact fun g₁ w₁ hj₁ => hok [] g₁ w₁ hj₁ (Dict.namesKnown_nil w₁)

theorem wp_hydrateCheckoutSessionMetadata (hJ : Steady note allow K J) {session : CheckoutSession}
    {Q : CheckoutSession × Dict → γ → World → Prop} {g : γ} {w : World} (h : J g w)
    (hknown : ∀ g w, J g w → w.StripeNamesKnown ∧ session.metadata.NamesKnown w)
    (hok : ∀ c d g' w', J g' w' → d.NamesKnown w' → Q (c, d) g' w') (herr : ∀ e g' w', J g' w' → E e g' w') :
    (hydrateCheckoutSessionMetadata session).wp (setting note allow) K Q E g w := by
  unfold hydrateCheckoutSessionMetadata
  split
  · exact hok _ _ g w h (hknown g w h).2
  split
  · exact hok _ _ g w h (Dict.namesKnown_nil w)
  rw [wp_bind]
  -- without fresh metadata from the session, those of the intent
  have hintent : ∀ (refreshed : Option CheckoutSession) (g' : γ) (w' : World), J g' w' →
      Prog.wp (setting note allow) K Q E (do
        let sessionForIntent := refreshed.getD session
        let intentMetadata ← hydratePaymentIntentMetadata sessionForIntent.paymentIntent
        pure (sessionForIntent, intentMetadata)) g' w' := by
    intro refreshed g' w' hj
    simp only [wp_bind]
    exact wp_hydratePaymentIntentMetadata hJ hj (fun g w hj => (hknown g w hj).1)
      (fun d g₁ w₁ hj₁ hd => hok _ d g₁ w₁ hj₁ hd) herr
  refine wp_catchStripe_read hJ (s := .retrieveSession _) trivial h ?_ ?_ herr
  · intro c g₁ w₁ hj₁ hc
    split
    · rename_i refreshed hsome
      obtain ⟨heq, -⟩ := Option.filter_eq_some_iff.mp hsome
      cases heq
      exact hok _ _ g₁ w₁ hj₁ ((hknown g₁ w₁ hj₁).1.1 c (exec_retrieveSession hc))
    · exact hintent (some c) g₁ w₁ hj₁
  · intro g₁ w₁ hj₁
    exact hintent none g₁ w₁ hj₁

theorem wp_lookupAttempt (hJ : Steady note allow K J) {id : Option String} {Q : Option Payment → γ → World → Prop}
    {g : γ} {w : World} (h : J g w) (hok : ∀ row g' w', J g' w' → (∀ p ∈ row, p ∈ w'.payments) → Q row g' w') :
    (lookupAttempt id).wp (setting note allow) K Q E g w := by
  unfold lookupAttempt
  split
  · refine wp_getPaymentByStripeIntent hJ h ?_ ?_ fun g' w' hj' _ => hok none g' w' hj' (by simp)
    · intro p g' w' hj' hfound _
      refine hok (some p) g' w' hj' fun q hq => ?_
      cases hq
      exact List.mem_of_find?_eq_some hfound
    · intro row g' w' hj' hfound _
      exact hok row g' w' hj' fun q hq => List.mem_of_find?_eq_some (hfound.trans hq)
  · exact hok none g w h (by simp)

theorem wp_lookupPaymentRecord (hJ : Steady note allow K J) {session : CheckoutSession}
    {Q : Option Payment → γ → World → Prop} {g : γ} {w : World} (h : J g w)
    (hok : ∀ row g' w', J g' w' → (∀ p ∈ row, p ∈ w'.payments) → Q row g' w') :
    (lookupPaymentRecord session).wp (setting note allow) K Q E g w := by
  unfold lookupPaymentRecord
  rw [wp_bind]
  refine wp_lookupAttempt hJ h fun row g₁ w₁ hj₁ hrow => ?_
  cases row with
  | some p => exact hok (some p) g₁ w₁ hj₁ hrow
  | none =>
    simp only
    split
    · exact hok none g₁ w₁ hj₁ (by simp)
    · exact wp_lookupAttempt hJ hj₁ hok

theorem wp_createPayment {userId : Int} {amount : ℚ} {currency : String} {status : PaymentStatus}
    {intent session : Option String} {Q : Option Payment → γ → World → Prop} {g : γ} {w : World} (h : J g w)
    (hinsert : ∀ p g' w', J g' w' → (query (.insertPayment p)).wp (setting note allow) K
      (fun row => Q (some row)) (fun _ g₁ w₁ => J g₁ w₁ ∧ Q none g₁ w₁) g' w') :
    (createPayment userId amount currency status intent session).wp (setting note allow) K Q E g w := by
  unfold createPayment
  simp only [wp_tryCatch, wp_bind]
  exact wp_executeWithRetry (E := fun _ g' w' => Q none g' w') (fun g' w' hj => hinsert _ g' w' hj) h

/-- Any checkout: `resolveCheckout` ends with a payment that has its row. -/
theorem wp_resolveCheckout_known (hJ : Steady note allow K J) (hstay : ∀ w w', K.rely w w' → PaymentsStay w w')
    {session : CheckoutSession} (hknown : ∀ g w, J g w → w.StripeNamesKnown ∧ session.metadata.NamesKnown w)
    {Q : Option ResolvedCheckout → γ → World → Prop} {g : γ} {w : World} (h : J g w)
    (hinsert : ∀ p g' w', J g' w' → (query (.insertPayment p)).wp (setting note allow) K
      (fun row g₁ w₁ => J g₁ w₁ ∧ (w₁.payment? row.id).isSome) (fun _ g₁ w₁ => J g₁ w₁) g' w')
    (hnone : ∀ g' w', J g' w' → Q none g' w')
    (hsome : ∀ (r : ResolvedCheckout) g' w', J g' w' → (w'.payment? r.paymentId).isSome → Q (some r) g' w')
    (herr : ∀ e g' w', J g' w' → E e g' w') :
    (resolveCheckout session).wp (setting note allow) K Q E g w := by
  -- a condition with a payment known so far is steady
  have hwith : ∀ P : World → Prop, (∀ w w', PaymentsStay w w' → P w → P w') →
      Steady note allow K fun g w => J g w ∧ P w := by
    intro P hP
    refine ⟨fun g w w' hr hj => ⟨hJ.rely g w w' hr hj.1, hP w w' (hstay w w' hr) hj.2⟩, ?_⟩
    intro s hs g o w hi ho hj
    obtain ⟨hg, hj'⟩ := hJ.read s hs g o w hi ho hj.1
    exact ⟨hg, hj', hj.2⟩
  have hresolve : ∀ (c : CheckoutContext) (session : CheckoutSession) (g' : γ) (w' : World), J g' w' →
      (∀ q ∈ c.paymentId, (w'.payment? q).isSome) →
      Prog.wp (setting note allow) K (fun r => Q (some r)) E (liftPy (c.resolve session)) g' w' := by
    intro c session g' w' hj hq
    unfold CheckoutContext.resolve
    split
    · rename_i u q n hu hp hc
      exact hsome _ g' w' hj (hq q hp)
    · exact herr _ g' w' hj
  unfold resolveCheckout
  rw [wp_bind]
  refine wp_hydrateCheckoutSessionMetadata hJ h hknown ?_ herr
  intro session metadata g₁ w₁ hj₁ hmeta
  simp only
  split
  · exact herr _ g₁ w₁ hj₁
  split
  · exact hnone g₁ w₁ hj₁
  unfold resolveFrom
  simp only [wp_bind]
  have hbackfill : (backfillMetadata session metadata).wp (setting note allow) K
      (fun d g' w' => J g' w' ∧ d.NamesKnown w') E g₁ w₁ := by
    unfold backfillMetadata
    simp only
    split
    · rw [wp_bind]
      refine wp_hydratePaymentIntentMetadata (hwith _ fun w w' hs hd => Dict.NamesKnown.stay hd hs) ⟨hj₁, hmeta⟩
        (fun g w hj => (hknown g w hj.1).1) ?_ fun e g' w' hj => herr e g' w' hj.1
      exact fun d g' w' hj hd => ⟨hj.1, hj.2.setDefaults hd⟩
    · exact ⟨hj₁, hmeta⟩
  refine wp_mono ?_ (fun _ _ _ he => he) hbackfill
  rintro metadata g₂ w₂ ⟨hj₂, hmeta⟩
  cases hread : CheckoutContext.read session metadata with
  | error e => exact herr e g₂ w₂ hj₂
  | ok c =>
    have hpayment := (CheckoutContext.read_eq hread).2.1
    have hc : ∀ q ∈ c.paymentId, (w₂.payment? q).isSome := fun q hq => hmeta.coerce (hpayment.trans (by rw [hq]))
    simp only [liftPy_ok, Prog.pure_eq, Prog.ret_bind, wp_bind]
    have hsteady := hwith (fun w => ∀ q ∈ c.paymentId, (w.payment? q).isSome) fun w w' hs hc q hq => hs q (hc q hq)
    have hrecord : (c.record session).wp (setting note allow) K
        (fun record g' w' => J g' w' ∧
          ∀ q ∈ ((record.map c.fillFromRecord).getD c).paymentId, (w'.payment? q).isSome) E g₂ w₂ := by
      unfold CheckoutContext.record
      split
      · exact ⟨hj₂, hc⟩
      refine wp_lookupPaymentRecord hsteady ⟨hj₂, hc⟩ ?_
      rintro row g' w' ⟨hj, hc⟩ hrow
      refine ⟨hj, ?_⟩
      cases row with
      | none => exact hc
      | some p =>
        intro q hq
        simp only [Option.map_some, Option.getD_some, CheckoutContext.fillFromRecord] at hq
        cases hcp : c.paymentId with
        | some q' => rw [hcp] at hq; exact hc q (by rw [hcp]; exact hq)
        | none =>
          rw [hcp] at hq
          cases hq
          exact World.payment?_of_mem (hrow p rfl)
    refine wp_mono ?_ (fun _ _ _ he => he) hrecord
    rintro record g₃ w₃ ⟨hj₃, hq₃⟩
    generalize hfilled : ((record.map c.fillFromRecord).getD c).fillFromSession session = filled
    have hknown : ∀ q ∈ filled.paymentId, (w₃.payment? q).isSome := hfilled ▸ hq₃
    unfold CheckoutContext.withFallbackRecord
    split
    · simp only [wp_bind]
      refine wp_createPayment hj₃ fun p g' w' hj => wp_mono ?_ ?_ (hinsert p g' w' hj)
      · rintro row g₄ w₄ ⟨hj₄, hrow⟩
        refine hresolve _ session g₄ w₄ hj₄ fun q hq => ?_
        cases hq
        exact hrow
      · exact fun e g₄ w₄ hj₄ => ⟨hj₄, hresolve _ session g₄ w₄ hj₄ nofun⟩
    · exact hresolve filled session g₃ w₃ hj₃ hknown

/-- A grant while the procedure is there: no statement but the procedure writes. -/
theorem wp_addCreditsToUser_available {p : AddCreditsParams} {Q : Unit → γ → World → Prop} {g : γ} {w : World}
    (h : (query (.rpcAtomicAddCredits p.forRpc)).wp (setting note allow) K
      (fun result g' w' => (result.success = true → Q () g' w') ∧
        (result.success = false → result.error = some "user_not_found" ∧ ∀ e, E e g' w')) (fun _ _ _ => False) g w)
    (hpos : p.credits ≤ 0 → ∀ e, E e g w) : (addCreditsToUser p).wp (setting note allow) K Q E g w := by
  unfold addCreditsToUser
  split
  · rename_i hcredits
    exact hpos hcredits _
  simp only [wp_tryCatch, wp_bind, atomicAddCreditsRpc, wp_attempt]
  refine wp_mono ?_ (fun _ _ _ hf => hf.elim) h
  rintro result g' w' ⟨hyes, hno⟩
  cases hs : result.success with
  | true => simpa [hs] using hyes hs
  | false =>
    obtain ⟨herror, he⟩ := hno hs
    simp only [Bool.false_eq_true, if_false, if_pos herror]
    exact he _

end Known

/-! ## A small payment -/

/-- User 1 is about to pay 10 dollars by intent `pi_1`. -/
def onePayment : World :=
  { oneUser 0 0 with
    payments :=
      [{ id := 1, userId := 1, amountUsd := 10, amountCents := 1000, creditsPurchased := 1000,
          stripePaymentIntentId := some "pi_1", stripeCheckoutSessionId := some "cs_1" }] }

/-- The session of the payment, paid. -/
def paidSession : CheckoutSession where
  id := some "cs_1"
  metadata := [("user_id", .str "1"), ("payment_id", .str "1"), ("credits_cents", .str "1000")]
  paymentIntent := some "pi_1"
  mode := some "payment"
  amountTotal := some 1000
  paymentStatus := some "paid"

end Gatewayz
