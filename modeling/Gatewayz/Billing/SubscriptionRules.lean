import Gatewayz.Billing.Deliveries

/-!
# `Billing.SubscriptionRules` — what a served subscription event does to its user

The handlers of subscription events find the user, and the user's tier, from the subscription at hand. `rowAfter` is
what they then make of the user's row; no handler looks at the row's `stripe_subscription_id`.

* `subscriber`, `resolvedTier`, `tierAllowance`, `planRefused` — what the handlers look up, as functions of the tables;
* `RowIs` — the user's row, with the tables the lookups depend on as they were;
* `handler_row` — a served handler leaves the user with `rowAfter`;
* `Report.row` — and so does the delivery of a new event.
-/

namespace Gatewayz

open Exec

/-! ## What is looked up -/

/-- The user a subscription is for: by its metadata, or else by its customer. -/
def World.subscriber (w : World) (s : Subscription) : Option Int :=
  match (if (s.metadata.get "user_id").truthy then intOf (s.metadata.get "user_id") else none) with
  | some userId => some userId
  | none => (nonempty s.customer).bind fun customer => (w.userByCustomer customer).filter (· ≠ 0)

/-- The tier of a subscription's product. -/
def World.productTier (w : World) (s : Subscription) : String :=
  match s.firstProduct with
  | some product =>
    ((w.subscriptionProducts.find? (fun p => p.productId = product ∧ p.isActive)).map SubscriptionProduct.tier).getD
      "basic"
  | none => "basic"

/-- The tier of a subscription: of its metadata, of its product, or by its status. -/
def World.resolvedTier (w : World) (s : Subscription) : String :=
  match (s.metadata.text? "tier").filter (· ≠ "basic") with
  | some tier => tier
  | none =>
    if w.productTier s ≠ "" ∧ w.productTier s ≠ "basic" then w.productTier s
    else if s.status = "active" then "pro" else "basic"

/-- The monthly allowance of a tier; none counts as zero. -/
def World.tierAllowance (w : World) (tier : String) : ℚ :=
  ((w.subscriptionProducts.find? (fun p => p.tier = tier ∧ p.isActive)).bind
    SubscriptionProduct.allowancePerMonth).getD 0

/-- The assignment of the tier's plan raises: the end of the period is no date. -/
def World.planRefused (w : World) (tier : String) (s : Subscription) : Bool :=
  ((w.planIdByTier tier).filter (· ≠ 0)).isSome && s.periodEnd.any (maxTimestamp < ·)

/-! ## The user's row -/

def User.refilled (row : User) (allowance : ℚ) : User :=
  if 0 < allowance then { row with subscriptionAllowance := some allowance } else row

def User.forfeited (row : User) : User :=
  if 0 < row.allowance then { row with subscriptionAllowance := some 0 } else row

/-- What `handleSubscriptionCreated` writes first. -/
def Subscription.createdPatch (s : Subscription) (tier : String) (product : Option String) : UserPatch :=
  { subscriptionStatus := some "active", tier := some tier, stripeSubscriptionId := some (some s.id),
    stripeProductId := some ((s.metadata.text? "product_id").or product),
    stripeCustomerId := some s.customer, subscriptionEndDate := s.periodEnd }

def Subscription.Lapsed (s : Subscription) : Prop :=
  s.status = "canceled" ∨ s.status = "past_due" ∨ s.status = "unpaid"

instance (s : Subscription) : Decidable s.Lapsed := inferInstanceAs (Decidable (_ ∨ _))

def Subscription.updatedPatch (s : Subscription) (tier : String) : UserPatch :=
  { subscriptionStatus := some s.status, tier := some (if s.Lapsed then "basic" else tier),
    subscriptionEndDate := s.periodEnd }

def deletedPatch : UserPatch :=
  { subscriptionStatus := some "canceled", tier := some "basic", stripeSubscriptionId := some none }

def paymentFailedPatch : UserPatch := { subscriptionStatus := some "past_due", tier := some "basic" }

/-- The product the tier was looked up by. -/
def Subscription.resolvedProduct (s : Subscription) : Option String :=
  match (s.metadata.text? "tier").filter (· ≠ "basic") with
  | some _ => none
  | none => s.firstProduct

/-- Does the event set the allowance? The guards of the three handlers that do. -/
def World.Refills (w : World) (now : Time) : EventData → Prop
  | .customerSubscriptionCreated s => w.planRefused (w.resolvedTier s) s = false
  | .customerSubscriptionUpdated s =>
    s.status = "active" ∧ w.planRefused (w.resolvedTier s) s = false ∧ s.allowanceJustHandled now = false
  | .invoicePaid i =>
    i.billingReason ≠ some "subscription_update" ∧
      ∃ s ∈ i.subscriptionId.bind w.stripe.subscription?, s.allowanceJustHandled now = false
  | _ => False

instance (w : World) (now : Time) (data : EventData) : Decidable (w.Refills now data) := by
  cases data <;> unfold World.Refills <;> infer_instance

/-- The subscription an event is about. An invoice's is read from Stripe. -/
def World.subscriptionOf (w : World) : EventData → Option Subscription
  | .customerSubscriptionCreated s | .customerSubscriptionUpdated s | .customerSubscriptionDeleted s => some s
  | .invoicePaid i | .invoicePaymentFailed i => i.subscriptionId.bind w.stripe.subscription?
  | _ => none

def World.IsFor (w : World) (u : Int) (data : EventData) : Prop :=
  ∃ s ∈ w.subscriptionOf data, w.subscriber s = some u

instance (w : World) (u : Int) (data : EventData) : Decidable (w.IsFor u data) :=
  inferInstanceAs (Decidable (∃ s ∈ _, _))

def World.eventAllowance (w : World) (data : EventData) : ℚ :=
  ((w.subscriptionOf data).map fun s => w.tierAllowance (w.resolvedTier s)).getD 0

def World.refill (w : World) (now : Time) (data : EventData) (row : User) : User :=
  if w.Refills now data then row.refilled (w.eventAllowance data) else row

/-- What the event makes of its user's row. -/
def World.rowAfter (w : World) (now : Time) (data : EventData) (row : User) : User :=
  match data with
  | .customerSubscriptionCreated s =>
    w.refill now data ((s.createdPatch (w.resolvedTier s) s.resolvedProduct).apply row)
  | .customerSubscriptionUpdated s => w.refill now data ((s.updatedPatch (w.resolvedTier s)).apply row)
  | .customerSubscriptionDeleted s =>
    if s.periodEnd.any (maxTimestamp < ·) then row else deletedPatch.apply row.forfeited
  | .invoicePaid _ => w.refill now data row
  | .invoicePaymentFailed _ => paymentFailedPatch.apply row
  | _ => row

/-- The user has the row, and the tables the lookups depend on are as they were. -/
structure RowIs (w₀ : World) (u : Int) (row : User) (w : World) : Prop where
  row : w.users u = some row
  others : ∀ v, v ≠ u → w.users v = w₀.users v
  order : w.userIds = w₀.userIds
  plans : w.plans = w₀.plans
  products : w.subscriptionProducts = w₀.subscriptionProducts
  subscriptions : w.stripe.subscriptions = w₀.stripe.subscriptions

variable {s : Subscription}

section Rows

variable {w₀ w : World} {u : Int} {row : User}

theorem RowIs.withClaims (w : World) (events : List WebhookEvent) (h : RowIs w₀ u row w) :
    RowIs w₀ u row { w with webhookEvents := events } :=
  ⟨h.row, h.others, h.order, h.plans, h.products, h.subscriptions⟩

theorem RowIs.updateUser (h : RowIs w₀ u row w) (patch : UserPatch) :
    RowIs w₀ u (patch.apply row) (updateUserRow u patch w).2 ∧ (updateUserRow u patch w).1 = some (patch.apply row) := by
  rcases updateUserRow_cases u patch w with ⟨hnone, -⟩ | ⟨old, hold, he⟩
  · rw [h.row] at hnone
    cases hnone
  · rw [h.row] at hold
    cases hold
    rw [he]
    refine ⟨⟨Function.update_self .., fun v hv => ?_, h.order, h.plans, h.products, h.subscriptions⟩, rfl⟩
    rw [← h.others v hv]
    exact Function.update_of_ne hv ..

def Stmt.SparesUsers : Stmt → Prop
  | .updateApiKeys _ _ | .deactivateUserPlans _ | .insertUserPlan _ | .insertTransaction _ => True
  | s => s.Reads

theorem RowIs.spared {s : Stmt} (hs : s.SparesUsers) (w : World) (h : RowIs w₀ u row w) :
    RowIs w₀ u row (exec s w).2 := by
  by_cases hreads : s.Reads
  · rw [exec_reads hreads]
    exact h
  cases s with
  | insertTransaction t =>
    simp only [exec]
    rcases insertTransactionRow_cases t w with ⟨e, he⟩ | ⟨-, he⟩
    · rw [he]; exact h
    · rw [he]; exact ⟨h.row, h.others, h.order, h.plans, h.products, h.subscriptions⟩
  | insertUserPlan p =>
    simp only [exec, insertUserPlanRow]
    split
    · exact h
    split
    · exact h
    · exact ⟨h.row, h.others, h.order, h.plans, h.products, h.subscriptions⟩
  | updateApiKeys v patch => exact ⟨h.row, h.others, h.order, h.plans, h.products, h.subscriptions⟩
  | deactivateUserPlans v => exact ⟨h.row, h.others, h.order, h.plans, h.products, h.subscriptions⟩
  | _ => exact absurd hs hreads

/-! ## The lookups -/

variable {tier : String}

section Lookups

variable {E : PyErr → Unit → World → Prop}

theorem wp_requireUser_served {label id : String} {Q : Int → Unit → World → Prop}
    (huser : w.subscriber s = some u) (h : Q u () w) : (requireUser s label id).wp servedRun .alone Q E () w := by
  have hextract : (extractUserIdFromSubscription s).wp servedRun .alone
      (fun found _ w' => found = some u ∧ w' = w) E () w := by
    unfold World.subscriber at huser
    unfold extractUserIdFromSubscription
    generalize (if (s.metadata.get "user_id").truthy = true then intOf (s.metadata.get "user_id") else none) = named
      at huser ⊢
    cases named with
    | some userId => exact ⟨huser, rfl⟩
    | none =>
      simp only at huser ⊢
      cases hcustomer : nonempty s.customer with
      | none =>
        rw [hcustomer] at huser
        cases huser
      | some customer =>
        rw [hcustomer] at huser
        simp only [wp_bind, lookupUserByStripeCustomer, wp_tryCatch]
        exact wp_stmt_served ⟨huser, rfl⟩
  unfold requireUser
  rw [wp_bind]
  refine wp_mono ?_ (fun _ _ _ he => he) hextract
  rintro found _ w' ⟨rfl, rfl⟩
  exact h

theorem wp_resolveTier_served {Q : String × Option String → Unit → World → Prop}
    (h : Q (w.resolvedTier s, s.resolvedProduct) () w) :
    (resolveTierFromSubscription s (s.metadata.text? "tier")).wp servedRun .alone Q E () w := by
  unfold World.resolvedTier Subscription.resolvedProduct at h
  unfold resolveTierFromSubscription
  simp only
  split
  · rename_i tier htier
    simp only [htier] at h
    exact h
  · rename_i htier
    simp only [htier] at h
    have hlookup : s.productTier.wp servedRun .alone (fun tier _ w' => tier = w.productTier s ∧ w' = w) E () w := by
      unfold Subscription.productTier World.productTier
      cases s.firstProduct with
      | some product =>
        simp only [getTierFromProductId, wp_tryCatch, wp_bind]
        exact wp_stmt_served ⟨rfl, rfl⟩
      | none => exact ⟨rfl, rfl⟩
    rw [wp_bind]
    refine wp_mono ?_ (fun _ _ _ he => he) hlookup
    rintro tier _ w' ⟨rfl, rfl⟩
    repeat' split
    all_goals simp_all

theorem wp_getAllowance_served {Q : ℚ → Unit → World → Prop} (h : Q (w.tierAllowance tier) () w) :
    (getAllowanceFromTier tier).wp servedRun .alone Q E () w := by
  simp only [getAllowanceFromTier, wp_tryCatch, wp_bind]
  exact wp_stmt_served h

end Lookups

/-! ## The steps the handlers share -/

theorem wp_spared {α : Type} {p : DbProg α} (hp : p.Only Stmt.SparesUsers) (h : RowIs w₀ u row w) :
    p.wp servedRun .alone (fun _ _ => RowIs w₀ u row) (fun _ _ => RowIs w₀ u row) () w :=
  wp_served_only (fun _ hs => RowIs.spared hs) hp h

/-- The plan of the tier: it raises just where the end of the period is no date. -/
theorem wp_assignPlan_served (h : RowIs w₀ u row w) :
    (assignPlan u tier s).wp servedRun .alone (fun _ _ w' => w₀.planRefused tier s = false ∧ RowIs w₀ u row w')
      (fun _ _ w' => w₀.planRefused tier s = true ∧ RowIs w₀ u row w') () w := by
  have hplan : w.planIdByTier tier = w₀.planIdByTier tier := by rw [World.planIdByTier, h.plans]; rfl
  unfold assignPlan
  simp only [wp_bind, getPlanIdByTier, wp_tryCatch]
  refine wp_stmt_served ?_
  simp only [exec, answered_ok, hplan, World.planRefused]
  cases hid : (w₀.planIdByTier tier).filter (· ≠ 0) with
  | none => exact ⟨rfl, h⟩
  | some planId =>
    simp only [wp_bind]
    refine wp_stmt_served ?_
    have h' : RowIs w₀ u row (exec (.deactivateUserPlans u) w).2 := h.spared (s := .deactivateUserPlans u) trivial
    show Prog.wp servedRun .alone _ _ _ () (exec (.deactivateUserPlans u) w).2
    generalize (exec (.deactivateUserPlans u) w).2 = w' at h'
    cases hend : s.periodEnd.any (maxTimestamp < ·) with
    | true => exact ⟨rfl, h'⟩
    | false =>
      -- user and plan are there, so the row is inserted
      have hfound : (w'.plans.find? fun q => q.id = planId).isSome := by
        have hmem := (Option.filter_eq_some_iff.mp hid).1
        obtain ⟨q, hq, rfl⟩ := Option.map_eq_some_iff.mp hmem
        rw [h'.plans, List.find?_isSome]
        exact ⟨q, List.mem_of_find?_eq_some hq, by simp⟩
      have hnew := h'.spared (s := .insertUserPlan { userId := u, planId := planId, isActive := true }) trivial
      refine wp_stmt_served ?_
      simp only [exec, insertUserPlanRow, h'.row, Option.isNone_some, Bool.false_eq_true, if_false] at hnew ⊢
      rw [if_neg (by simpa [Option.isSome_iff_ne_none] using hfound)] at hnew ⊢
      exact ⟨rfl, hnew⟩

theorem wp_logCreditTransaction_served {t : Transaction} {E : PyErr → Unit → World → Prop} (h : RowIs w₀ u row w) :
    (logCreditTransaction t).wp servedRun .alone (fun _ _ => RowIs w₀ u row) E () w := by
  have hlog := wp_spared (logCreditTransaction_only (t := t) trivial) h
  unfold logCreditTransaction at hlog ⊢
  rw [wp_tryCatch] at hlog ⊢
  exact hlog

theorem wp_resetSubscriptionAllowance_served {now : Time} {amount : ℚ}
    {E : PyErr → Unit → World → Prop} (h : RowIs w₀ u row w) :
    (resetSubscriptionAllowance now u amount tier).wp servedRun .alone
      (fun done _ w' => done = true ∧ RowIs w₀ u { row with subscriptionAllowance := some amount } w') E () w := by
  have hupdate := h.updateUser { subscriptionAllowance := some amount }
  have hrow : UserPatch.apply { subscriptionAllowance := some amount } row =
      { row with subscriptionAllowance := some amount } := by
    simp [UserPatch.apply]
  rw [hrow] at hupdate
  unfold resetSubscriptionAllowance
  simp only [wp_tryCatch, wp_bind]
  refine wp_stmt_served ?_
  simp only [exec, h.row, answered_ok, wp_bind]
  refine wp_stmt_served ?_
  simp only [exec, hupdate.2, answered_ok, wp_bind]
  exact wp_post (fun _ _ _ h => ⟨rfl, h⟩) (wp_logCreditTransaction_served hupdate.1)

theorem wp_resetTierAllowance_served {now : Time} {onFailure : ℚ → PyErr}
    {E : PyErr → Unit → World → Prop} (h : RowIs w₀ u row w) :
    (resetTierAllowance now u tier onFailure).wp servedRun .alone
      (fun _ _ => RowIs w₀ u (row.refilled (w₀.tierAllowance tier))) E () w := by
  have hallowance : w.tierAllowance tier = w₀.tierAllowance tier := by rw [World.tierAllowance, h.products]; rfl
  unfold resetTierAllowance
  rw [wp_bind]
  refine wp_getAllowance_served ?_
  rw [hallowance]
  unfold User.refilled
  by_cases hpos : 0 < w₀.tierAllowance tier
  · rw [if_pos hpos, if_pos hpos, wp_bind]
    refine wp_mono ?_ (fun _ _ _ he => he) (wp_resetSubscriptionAllowance_served h)
    rintro done _ w' ⟨rfl, h'⟩
    exact h'
  · rw [if_neg hpos, if_neg hpos]
    exact h

theorem wp_forfeit_served {now : Time} {date context : Option String} {E : PyErr → Unit → World → Prop}
    (h : RowIs w₀ u row w) : (forfeitSubscriptionAllowance now u true date context).wp servedRun .alone
      (fun _ _ => RowIs w₀ u row.forfeited) E () w := by
  have hupdate := h.updateUser { subscriptionAllowance := some 0 }
  have hrow : UserPatch.apply { subscriptionAllowance := some 0 } row = { row with subscriptionAllowance := some 0 } := by
    simp [UserPatch.apply]
  rw [hrow] at hupdate
  unfold forfeitSubscriptionAllowance User.forfeited
  simp only [wp_tryCatch, wp_bind]
  refine wp_stmt_served ?_
  simp only [exec, h.row, answered_ok]
  by_cases hpos : 0 < row.allowance
  · rw [if_pos hpos, if_pos hpos, wp_bind]
    refine wp_stmt_served ?_
    simp only [exec, hupdate.2, answered_ok, wp_bind]
    exact wp_logCreditTransaction_served hupdate.1
  · rw [if_neg hpos, if_neg hpos]
    exact h

theorem wp_updateUser_served {patch : UserPatch} {Q : Option User → Unit → World → Prop} {E : PyErr → Unit → World → Prop}
    (h : RowIs w₀ u row w) (hq : ∀ w', RowIs w₀ u (patch.apply row) w' → Q (some (patch.apply row)) () w') :
    (query (.updateUser u patch)).wp servedRun .alone Q E () w := by
  obtain ⟨hrow, hanswer⟩ := h.updateUser patch
  refine wp_stmt_served ?_
  simp only [exec, hanswer, answered_ok]
  exact hq _ hrow

theorem wp_updateApiKeys_served {patch : ApiKeyPatch} {Q : Unit → Unit → World → Prop} {E : PyErr → Unit → World → Prop}
    (h : RowIs w₀ u row w) (hq : ∀ w', RowIs w₀ u row w' → Q () () w') :
    (query (.updateApiKeys u patch)).wp servedRun .alone Q E () w :=
  wp_stmt_served (hq _ (h.spared (s := .updateApiKeys u patch) trivial))

theorem RowIs.resolvedTier (h : RowIs w₀ u row w) (s : Subscription) : w.resolvedTier s = w₀.resolvedTier s := by
  have hproduct : w.productTier s = w₀.productTier s := by
    unfold World.productTier
    rw [h.products]
  unfold World.resolvedTier
  rw [hproduct]

theorem RowIs.subscription? (h : RowIs w₀ u row w) : w.stripe.subscription? = w₀.stripe.subscription? := by
  funext id
  unfold Stripe.subscription?
  rw [h.subscriptions]

end Rows

/-! ## The handlers -/

section Handlers

variable {w₀ w : World} {u : Int} {row : User} {now : Time}

/-- Where a served handler may end: with the row the event makes. -/
abbrev EndsWith (w₀ : World) (u : Int) (row : User) (p : DbProg Unit) (w : World) : Prop :=
  p.wp servedRun .alone (fun _ _ => RowIs w₀ u row) (fun _ _ => RowIs w₀ u row) () w

theorem handleSubscriptionCreated_row (huser : w.subscriber s = some u) (h : RowIs w₀ u row w) :
    EndsWith w₀ u (w₀.rowAfter now (.customerSubscriptionCreated s) row) (handleSubscriptionCreated now s) w := by
  unfold EndsWith handleSubscriptionCreated
  simp only [wp_bind]
  refine wp_requireUser_served huser ?_
  rw [wp_bind]
  refine wp_resolveTier_served ?_
  rw [h.resolvedTier s]
  rw [wp_bind]
  refine wp_updateUser_served h fun w₁ h₁ => ?_
  rw [wp_bind]
  refine wp_mono ?_ ?_ (wp_assignPlan_served h₁)
  · rintro _ _ w₂ ⟨hplan, h₂⟩
    rw [wp_bind]
    refine wp_updateApiKeys_served h₂ fun w₃ h₃ => ?_
    rw [World.rowAfter, World.refill, if_pos (show w₀.Refills now (.customerSubscriptionCreated s) from hplan)]
    exact wp_resetTierAllowance_served h₃
  · rintro _ _ w₂ ⟨hplan, h₂⟩
    have hno : ¬ w₀.Refills now (.customerSubscriptionCreated s) := by
      show ¬ w₀.planRefused (w₀.resolvedTier s) s = false
      rw [hplan]
      decide
    rw [World.rowAfter, World.refill, if_neg hno]
    exact h₂

theorem handleSubscriptionUpdated_row (huser : w.subscriber s = some u) (h : RowIs w₀ u row w) :
    EndsWith w₀ u (w₀.rowAfter now (.customerSubscriptionUpdated s) row) (handleSubscriptionUpdated now s) w := by
  unfold EndsWith handleSubscriptionUpdated
  simp only [wp_bind]
  refine wp_requireUser_served huser ?_
  rw [wp_bind]
  refine wp_resolveTier_served ?_
  rw [h.resolvedTier s]
  rw [wp_bind]
  refine wp_updateUser_served h fun w₁ h₁ => ?_
  -- the handler says what `updatedPatch` says
  have h₁ : RowIs w₀ u ((s.updatedPatch (w₀.resolvedTier s)).apply row) w₁ := h₁
  by_cases hactive : s.status = "active"
  · rw [if_pos hactive]
    simp only [wp_bind]
    refine wp_mono ?_ ?_ (wp_assignPlan_served h₁)
    · rintro _ _ w₂ ⟨hplan, h₂⟩
      rw [wp_bind]
      refine wp_updateApiKeys_served h₂ fun w₃ h₃ => ?_
      cases hhandled : s.allowanceJustHandled now with
      | true =>
        have hno : ¬ w₀.Refills now (.customerSubscriptionUpdated s) := by
          rintro ⟨-, -, hfresh⟩
          rw [hhandled] at hfresh
          cases hfresh
        rw [World.rowAfter, World.refill, if_neg hno]
        exact h₃
      | false =>
        rw [World.rowAfter, World.refill,
          if_pos (show w₀.Refills now (.customerSubscriptionUpdated s) from ⟨hactive, hplan, hhandled⟩)]
        exact wp_resetTierAllowance_served h₃
    · rintro _ _ w₂ ⟨hplan, h₂⟩
      have hno : ¬ w₀.Refills now (.customerSubscriptionUpdated s) := by
        rintro ⟨-, hfalse, -⟩
        rw [hplan] at hfalse
        cases hfalse
      rw [World.rowAfter, World.refill, if_neg hno]
      exact h₂
  · have hno : ¬ w₀.Refills now (.customerSubscriptionUpdated s) := fun hrefills => hactive hrefills.1
    rw [if_neg hactive, World.rowAfter, World.refill, if_neg hno]
    exact h₁

theorem handleSubscriptionDeleted_row (huser : w.subscriber s = some u) (h : RowIs w₀ u row w) :
    EndsWith w₀ u (w₀.rowAfter now (.customerSubscriptionDeleted s) row) (handleSubscriptionDeleted now s) w := by
  unfold EndsWith handleSubscriptionDeleted
  simp only [wp_bind]
  refine wp_requireUser_served huser ?_
  by_cases hend : s.periodEnd.any (maxTimestamp < ·) = true
  · rw [if_pos hend, World.rowAfter, if_pos hend]
    exact h
  · rw [if_neg hend, World.rowAfter, if_neg hend]
    simp only [wp_bind, getUserById, wp_tryCatch]
    refine wp_stmt_served ?_
    simp only [exec, answered_ok]
    rw [wp_bind]
    refine wp_mono ?_ (fun _ _ _ he => he) (wp_forfeit_served h)
    rintro _ _ w₁ h₁
    rw [wp_bind]
    exact wp_updateUser_served h₁ fun w₂ h₂ => wp_updateApiKeys_served h₂ fun w₃ h₃ => h₃

theorem handleInvoicePaid_row {i : Invoice} (hfor : w.IsFor u (.invoicePaid i)) (h : RowIs w₀ u row w) :
    EndsWith w₀ u (w₀.rowAfter now (.invoicePaid i) row) (handleInvoicePaid now i) w := by
  obtain ⟨s, hs, huser⟩ := hfor
  obtain ⟨id, hid, hstripe⟩ := Option.bind_eq_some_iff.mp hs
  have hfound : i.subscriptionId.bind w₀.stripe.subscription? = some s := by
    rw [← h.subscription?]
    exact hs
  unfold EndsWith handleInvoicePaid
  simp only [hid, World.rowAfter, World.refill, World.eventAllowance, World.subscriptionOf]
  by_cases hreason : i.billingReason = some "subscription_update"
  · have hno : ¬ w₀.Refills now (.invoicePaid i) := fun hrefills => hrefills.1 hreason
    rw [if_pos hreason, if_neg hno]
    exact h
  rw [if_neg hreason]
  simp only [wp_bind]
  refine wp_stmt_served ?_
  simp only [exec, hstripe, retrieved, answered_ok]
  rw [wp_bind]
  refine wp_requireUser_served huser ?_
  cases hhandled : s.allowanceJustHandled now with
  | true =>
    have hno : ¬ w₀.Refills now (.invoicePaid i) := by
      rintro ⟨-, s', hs', hfresh⟩
      rw [Option.mem_def.mp hs'] at hfound
      cases hfound
      rw [hhandled] at hfresh
      cases hfresh
    rw [if_neg hno]
    exact h
  | false =>
    have hyes : w₀.Refills now (.invoicePaid i) := ⟨hreason, s, hfound, hhandled⟩
    rw [if_pos hyes, ← hid, hfound]
    simp only [Bool.false_eq_true, if_false, wp_bind]
    refine wp_resolveTier_served ?_
    rw [h.resolvedTier s]
    exact wp_resetTierAllowance_served h

theorem handleInvoicePaymentFailed_row {i : Invoice} (hfor : w.IsFor u (.invoicePaymentFailed i)) (h : RowIs w₀ u row w) :
    EndsWith w₀ u (w₀.rowAfter now (.invoicePaymentFailed i) row) (handleInvoicePaymentFailed i) w := by
  obtain ⟨s, hs, huser⟩ := hfor
  obtain ⟨id, hid, hstripe⟩ := Option.bind_eq_some_iff.mp hs
  unfold EndsWith handleInvoicePaymentFailed
  simp only [hid, wp_bind]
  refine wp_stmt_served ?_
  simp only [exec, hstripe, retrieved, answered_ok]
  rw [wp_bind]
  refine wp_requireUser_served huser ?_
  rw [wp_bind]
  exact wp_updateUser_served h fun w₁ h₁ => wp_updateApiKeys_served h₁ fun w₂ h₂ => h₂

/-- A served handler leaves its user with `rowAfter`. -/
theorem handler_row (config : PaymentConfig) {data : EventData} (hfor : w.IsFor u data) (h : RowIs w₀ u row w) :
    EndsWith w₀ u (w₀.rowAfter now data row) (data.handler config now) w := by
  have hsubscriber : ∀ s, w.subscriptionOf data = some s → w.subscriber s = some u := by
    intro s hs
    obtain ⟨s', hs', huser⟩ := hfor
    rw [Option.mem_def.mp hs'] at hs
    cases hs
    exact huser
  cases data with
  | customerSubscriptionCreated s => exact handleSubscriptionCreated_row (hsubscriber s rfl) h
  | customerSubscriptionUpdated s => exact handleSubscriptionUpdated_row (hsubscriber s rfl) h
  | customerSubscriptionDeleted s => exact handleSubscriptionDeleted_row (hsubscriber s rfl) h
  | invoicePaid i => exact handleInvoicePaid_row hfor h
  | invoicePaymentFailed i => exact handleInvoicePaymentFailed_row hfor h
  | checkoutSessionCompleted session => exact absurd hfor (by simp [World.IsFor, World.subscriptionOf])
  | paymentIntentSucceeded intent => exact absurd hfor (by simp [World.IsFor, World.subscriptionOf])
  | paymentIntentPaymentFailed intent => exact absurd hfor (by simp [World.IsFor, World.subscriptionOf])
  | other type metadata => exact absurd hfor (by simp [World.IsFor, World.subscriptionOf])

end Handlers

/-! ## Reports -/

/-- A report: an event is delivered without a fault, and Stripe has these subscriptions at the time. -/
structure Report where
  now : Time
  event : Event
  subscriptions : List Subscription

def World.withSubscriptions (w : World) (subscriptions : List Subscription) : World :=
  { w with stripe := { w.stripe with subscriptions := subscriptions } }

def Report.finds (r : Report) (w : World) : World := w.withSubscriptions r.subscriptions

def Report.after (config : PaymentConfig) (r : Report) (w : World) : World :=
  (DeliveryRun.mk r.now r.event []).after config (r.finds w)

def Report.rowAfter (r : Report) (w : World) (row : User) : User := (r.finds w).rowAfter r.now r.event.data row

theorem RowIs.refl {w : World} {u : Int} {row : User} (h : w.users u = some row) : RowIs w u row w :=
  ⟨h, fun _ _ => rfl, rfl, rfl, rfl, rfl⟩

theorem RowIs.finds {w₀ w : World} {u : Int} {row : User} (h : RowIs w₀ u row w) (r : Report) :
    RowIs (r.finds w₀) u row (r.finds w) :=
  ⟨h.row, h.others, h.order, h.plans, h.products, rfl⟩

/-- The report of a new event leaves its user with `rowAfter`. -/
theorem Report.row {w₀ w : World} {u : Int} {row : User} (config : PaymentConfig) (r : Report)
    (hfor : (r.finds w).IsFor u r.event.data) (hfresh : ¬ w.Claimed r.event.id) (h : RowIs w₀ u row w) :
    RowIs (r.finds w₀) u (r.rowAfter w₀ row) (r.after config w) := by
  refine deliver_fresh config r.now r.event hfresh (fun w events h => RowIs.withClaims w events h) fun events => ?_
  exact handler_row config (w := { r.finds w with webhookEvents := events }) hfor
    (RowIs.withClaims (r.finds w) events (h.finds r))

end Gatewayz
