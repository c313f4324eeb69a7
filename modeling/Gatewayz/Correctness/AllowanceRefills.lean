import Gatewayz.Billing.SubscriptionRules

/-!
# `Correctness.AllowanceRefills` — a billing period refills the allowance once

The allowance is for a period and a tier: it is set when a subscription is created or renewed, or when its tier changes.
Three handlers set it, and none of them asks whether anything of this has happened. What they ask is whether an endpoint
has set the allowance in the last two minutes (`allowance_handled_at`), and, for an invoice, why it was made out.

So an event of a period that is under way gets through these guards, and refills an allowance the user has spent.
`refilled_once_iff` says exactly when a period refills at most once.
-/

namespace Gatewayz

open Exec

/-! ## The law -/

/-- A billing period of a user's subscription, with the tier it has throughout. -/
structure BillingPeriod where
  userId : Int
  subscriptionId : String
  tier : String
  ends : Option Nat

def BillingPeriod.Of (b : BillingPeriod) (w : World) (s : Subscription) : Prop :=
  s.id = b.subscriptionId ∧ w.subscriber s = some b.userId ∧ w.resolvedTier s = b.tier ∧ s.periodEnd = b.ends

def BillingPeriod.Has (b : BillingPeriod) (w : World) : EventData → Prop
  | .customerSubscriptionCreated s => b.Of w s
  | .customerSubscriptionUpdated s => s.status = "active" ∧ b.Of w s
  | .invoicePaid i => ∃ s ∈ i.subscriptionId.bind w.stripe.subscription?, b.Of w s
  | _ => False

/-- The update says what the user's row says already: neither the tier nor the period has changed. -/
def World.NoNews (w : World) (u : Int) : EventData → Prop
  | .customerSubscriptionUpdated s => ∀ row ∈ w.users u, (s.updatedPatch (w.resolvedTier s)).apply row = row
  | _ => False

/-- What happens in a period: reports, and anything else the backend does, the user's spending among it. -/
inductive PeriodStep where
  | report (r : Report)
  | spending (p : DbProg Unit) (link : List (Outcome PyErr))

def PeriodStep.after (config : PaymentConfig) : PeriodStep → World → World
  | .report r, w => r.after config w
  | .spending p link, w => (p.run exec link w).2.2

structure Visit where
  before : World
  step : PeriodStep

def visits (config : PaymentConfig) : List PeriodStep → World → List Visit
  | [], _ => []
  | step :: history, w => ⟨w, step⟩ :: visits config history (step.after config w)

namespace Visit

variable (config : PaymentConfig) (b : BillingPeriod) (v : Visit)

def Covered : Prop :=
  match v.step with
  | .report r => b.Has (r.finds v.before) r.event.data ∧ ¬ v.before.Claimed r.event.id
  | .spending _ _ => True

def Raises : Prop :=
  match v.step with
  | .report r => v.before.allowance b.userId < (r.after config v.before).allowance b.userId
  | .spending _ _ => False

def Opens : Prop :=
  match v.step with
  | .report r =>
    (r.finds v.before).Refills r.now r.event.data ∧ 0 < v.before.tierAllowance b.tier ∧
      v.before.allowance b.userId < v.before.tierAllowance b.tier
  | .spending _ _ => False

def NoNews : Prop :=
  match v.step with
  | .report r => (r.finds v.before).NoNews b.userId r.event.data
  | .spending _ _ => False

instance (w : World) (s : Subscription) : Decidable (b.Of w s) := inferInstanceAs (Decidable (_ ∧ _))
instance (w : World) (data : EventData) : Decidable (b.Has w data) := by
  apply @EventData.casesOn (fun data => Decidable (b.Has w data)) data <;> intros <;> unfold BillingPeriod.Has <;>
    infer_instance
instance (w : World) (u : Int) (data : EventData) : Decidable (w.NoNews u data) := by
  apply @EventData.casesOn (fun data => Decidable (w.NoNews u data)) data <;> intros <;> unfold World.NoNews <;>
    infer_instance
instance : Decidable (v.Covered b) := by
  unfold Covered
  split <;> infer_instance
instance : Decidable (v.Raises config b) := by
  unfold Raises
  split <;> infer_instance
instance : Decidable (v.Opens b) := by
  unfold Opens
  split <;> infer_instance
instance : Decidable (v.NoNews b) := by
  unfold NoNews
  apply @PeriodStep.casesOn (fun step => Decidable (match step with
    | .report r => (r.finds v.before).NoNews b.userId r.event.data
    | .spending _ _ => False)) v.step <;> intros <;> infer_instance

end Visit

/-- A period refills once: its reports raise the allowance once at most, and those without news never. -/
def RefilledOnce (config : PaymentConfig) (b : BillingPeriod) (history : List PeriodStep) (w : World) : Prop :=
  (visits config history w).countP (·.Raises config b) ≤ 1 ∧
    ∀ v ∈ visits config history w, v.NoNews b → ¬ v.Raises config b

/-- The guards open once to a user who has spent, and never to an update without news. -/
def OpenedOnce (config : PaymentConfig) (b : BillingPeriod) (history : List PeriodStep) (w : World) : Prop :=
  (visits config history w).countP (·.Opens b) ≤ 1 ∧ ∀ v ∈ visits config history w, v.NoNews b → ¬ v.Opens b

instance (config : PaymentConfig) (b : BillingPeriod) (history : List PeriodStep) (w : World) :
    Decidable (RefilledOnce config b history w) := inferInstanceAs (Decidable (_ ∧ _))
instance (config : PaymentConfig) (b : BillingPeriod) (history : List PeriodStep) (w : World) :
    Decidable (OpenedOnce config b history w) := inferInstanceAs (Decidable (_ ∧ _))

/-! ## One report -/

section Report

variable {b : BillingPeriod} {w : World} {row : User}

theorem User.refilled_allowance (row : User) (amount : ℚ) :
    (row.refilled amount).allowance = if 0 < amount then amount else row.allowance := by
  unfold User.refilled
  split <;> rfl

theorem World.rowAfter_allowance {now : Time} {data : EventData} (hdata : b.Has w data) :
    (w.rowAfter now data row).allowance =
      if w.Refills now data ∧ 0 < w.tierAllowance b.tier then w.tierAllowance b.tier else row.allowance := by
  have hrefill : ∀ row' : User, row'.allowance = row.allowance → w.eventAllowance data = w.tierAllowance b.tier →
      (w.refill now data row').allowance =
        if w.Refills now data ∧ 0 < w.tierAllowance b.tier then w.tierAllowance b.tier else row.allowance := by
    intro row' hsame hamount
    unfold World.refill
    by_cases hopen : w.Refills now data
    · rw [if_pos hopen, User.refilled_allowance, hamount, hsame]
      simp only [hopen, true_and]
    · rw [if_neg hopen, if_neg fun hno => hopen hno.1]
      exact hsame
  have hamount : ∀ s, w.subscriptionOf data = some s → b.Of w s → w.eventAllowance data = w.tierAllowance b.tier := by
    intro s hs hof
    unfold World.eventAllowance
    rw [hs, ← hof.2.2.1]
    rfl
  cases data with
  | customerSubscriptionCreated s => exact hrefill _ rfl (hamount s rfl hdata)
  | customerSubscriptionUpdated s => exact hrefill _ rfl (hamount s rfl hdata.2)
  | invoicePaid i =>
    obtain ⟨s, hs, hof⟩ := hdata
    exact hrefill _ rfl (hamount s hs hof)
  | _ => exact hdata.elim

theorem BillingPeriod.Has.isFor {data : EventData} (hdata : b.Has w data) : w.IsFor b.userId data := by
  cases data with
  | customerSubscriptionCreated s => exact ⟨s, rfl, hdata.2.1⟩
  | customerSubscriptionUpdated s => exact ⟨s, rfl, hdata.2.2.1⟩
  | invoicePaid i =>
    obtain ⟨s, hs, hof⟩ := hdata
    exact ⟨s, hs, hof.2.1⟩
  | _ => exact hdata.elim

/-- A report raises the allowance just when its guards are open and the allowance is below the tier's. -/
theorem report_raises_iff (config : PaymentConfig) {v : Visit} (hcovered : v.Covered b)
    (huser : (v.before.users b.userId).isSome) : v.Raises config b ↔ v.Opens b := by
  obtain ⟨w, step⟩ := v
  cases step with
  | spending p link => exact Iff.rfl
  | report r =>
    obtain ⟨hhas, hfresh⟩ := hcovered
    obtain ⟨row, hrow⟩ := Option.isSome_iff_exists.mp huser
    have hrow : w.users b.userId = some row := hrow
    have hafter := (r.row config hhas.isFor hfresh (RowIs.refl hrow)).row
    show w.allowance b.userId < (r.after config w).allowance b.userId ↔
      (r.finds w).Refills r.now r.event.data ∧ 0 < w.tierAllowance b.tier ∧
        w.allowance b.userId < w.tierAllowance b.tier
    rw [World.allowance_of_users hafter, World.allowance_of_users hrow, Report.rowAfter,
      World.rowAfter_allowance hhas]
    have hsame : (r.finds w).tierAllowance b.tier = w.tierAllowance b.tier := rfl
    rw [hsame]
    by_cases hopen : (r.finds w).Refills r.now r.event.data ∧ 0 < w.tierAllowance b.tier
    · rw [if_pos hopen]
      exact ⟨fun hlt => ⟨hopen.1, hopen.2, hlt⟩, fun hall => hall.2.2⟩
    · rw [if_neg hopen]
      exact ⟨fun hlt => absurd hlt (lt_irrefl _), fun hall => absurd ⟨hall.1, hall.2.1⟩ hopen⟩

end Report

/-! ## A period -/

theorem visits_user (config : PaymentConfig) {u : Int} (history : List PeriodStep) {w : World}
    (hw : (w.users u).isSome) : ∀ v ∈ visits config history w, (v.before.users u).isSome := by
  have hrun : ∀ {α : Type} (p : DbProg α) link {w : World}, (w.users u).isSome →
      ((p.run exec link w).2.2.users u).isSome := fun p link _ h =>
    p.run_keeps exec (fun s w h => exec_usersStay s w h) link h
  induction history generalizing w with
  | nil => simp [visits]
  | cons step history ih =>
    intro v hv
    rcases List.mem_cons.mp hv with rfl | hv
    · exact hw
    · refine ih ?_ v hv
      cases step with
      | report r =>
        have hfinds : ((r.finds w).users u).isSome := hw
        exact hrun _ _ hfinds
      | spending p link => exact hrun p link hw

/-- **When a period refills at most once.** -/
theorem refilled_once_iff (config : PaymentConfig) (b : BillingPeriod) (history : List PeriodStep) (w : World)
    (hw : (w.users b.userId).isSome) (hcovered : ∀ v ∈ visits config history w, v.Covered b) :
    RefilledOnce config b history w ↔ OpenedOnce config b history w := by
  have hraises : ∀ v ∈ visits config history w, (v.Raises config b ↔ v.Opens b) := fun v hv =>
    report_raises_iff config (hcovered v hv) (visits_user config history hw v hv)
  have hcount : (visits config history w).countP (·.Raises config b) = (visits config history w).countP (·.Opens b) := by
    refine List.countP_congr fun v hv => ?_
    simp only [decide_eq_true_eq]
    exact hraises v hv
  unfold RefilledOnce OpenedOnce
  rw [hcount]
  refine and_congr_right fun _ => forall₂_congr fun v hv => ?_
  rw [hraises v hv]

/-! ## A subscriber who spends -/

def aboutToSubscribe : World :=
  { oneUser 0 0 with
    plans := [{ id := 7, planType := "pro", tier := some "pro" }]
    subscriptionProducts := [{ productId := "prod_1", tier := "pro", allowancePerMonth := some 15 }] }

def proSubscription : Subscription where
  id := "sub_1"
  customer := some "cus_1"
  metadata := [("user_id", .str "1")]
  currentPeriodEnd := some 2592000
  items := [{ product := some "prod_1" }]

def proPeriod : BillingPeriod := ⟨1, "sub_1", "pro", some 2592000⟩

/-- It is created, half a dollar is spent, and then `cancel_at_period_end` is toggled. -/
def toggledAfterSpending : List PeriodStep :=
  [.report ⟨0, ⟨"evt_1", .customerSubscriptionCreated proSubscription⟩, [proSubscription]⟩,
    .spending (deductCredits 1000 "k" (1 / 2) none (some "req_1")) [],
    .report ⟨2000, ⟨"evt_2", .customerSubscriptionUpdated proSubscription⟩, [proSubscription]⟩]

def paidBeforeSpending : List PeriodStep :=
  [.report ⟨0, ⟨"evt_1", .customerSubscriptionCreated proSubscription⟩, [proSubscription]⟩,
    .report ⟨10, ⟨"evt_2", .invoicePaid { id := "in_1", subscription := some "sub_1" }⟩, [proSubscription]⟩,
    .spending (deductCredits 1000 "k" (1 / 2) none (some "req_1")) []]

theorem refilled_once_iff_paidBeforeSpending :
    RefilledOnce {} proPeriod paidBeforeSpending aboutToSubscribe ↔
      OpenedOnce {} proPeriod paidBeforeSpending aboutToSubscribe :=
  refilled_once_iff {} proPeriod paidBeforeSpending aboutToSubscribe (by decide +kernel) (by decide +kernel)

/-- The toggle gives the half dollar back. -/
theorem toggle_refills :
    (∀ v ∈ visits {} toggledAfterSpending aboutToSubscribe, v.Covered proPeriod) ∧
      (visits {} toggledAfterSpending aboutToSubscribe).map (fun v => (v.before.allowance 1, decide (v.NoNews proPeriod))) =
        [(0, false), (15, false), (29 / 2, true)] ∧
      ¬ RefilledOnce {} proPeriod toggledAfterSpending aboutToSubscribe := by
  decide +kernel

end Gatewayz
