import Gatewayz.Billing.SubscriptionRules

/-!
# `Correctness.SupersededSubscription` — events of a subscription that another one has replaced

A customer changes from one subscription to another, and events of the old one still come in. A handler finds the user by
the event's subscription; it never compares the subscription with the user's `stripe_subscription_id`.

* `reports_row` — after any reports of a customer's subscriptions the user's row is what the events make of it, one after
  the other;
* `superseded_subscription` — the four columns after the reports, compared with the new subscription's events alone.
-/

namespace Gatewayz

open Exec

/-! ## The law -/

def reportAll (config : PaymentConfig) : List Report → World → World
  | [], w => w
  | r :: reports, w => reportAll config reports (r.after config w)

/-- The event says that its subscription has lapsed: an update to such a status, or a payment that failed. -/
def EventData.Lapses : EventData → Prop
  | .customerSubscriptionUpdated s => s.Lapsed
  | .invoicePaymentFailed _ => True
  | _ => False

def EventData.Deletes : EventData → Prop
  | .customerSubscriptionDeleted _ => True
  | _ => False

instance (data : EventData) : Decidable data.Lapses := by
  apply @EventData.casesOn (fun data => Decidable data.Lapses) data <;> intros <;> unfold EventData.Lapses <;>
    infer_instance
instance (data : EventData) : Decidable data.Deletes := by
  apply @EventData.casesOn (fun data => Decidable data.Deletes) data <;> intros <;> unfold EventData.Deletes <;>
    infer_instance

def Report.About (r : Report) (w : World) (subscription : String) : Prop :=
  ∃ s ∈ (r.finds w).subscriptionOf r.event.data, s.id = subscription

instance (r : Report) (w : World) (subscription : String) : Decidable (r.About w subscription) :=
  inferInstanceAs (Decidable (∃ s ∈ _, _))

/-- A user, the customer the user is at Stripe, and the subscription that replaced the customer's others. -/
structure Subscriber where
  userId : Int
  customerId : String
  subscriptionId : String

def Subscriber.Has (c : Subscriber) (w : World) (r : Report) : Prop :=
  ∃ s ∈ (r.finds w).subscriptionOf r.event.data, s.customer = some c.customerId ∧ w.subscriber s = some c.userId

instance (c : Subscriber) (w : World) (r : Report) : Decidable (c.Has w r) := inferInstanceAs (Decidable (∃ s ∈ _, _))

/-- Reports of the customer's subscriptions, each of an event of its own. The old ones only lapse or end. -/
structure Subscriber.Reported (c : Subscriber) (reports : List Report) (w : World) : Prop where
  customer : ∃ row ∈ w.users c.userId, row.stripeCustomerId = some c.customerId
  has : ∀ r ∈ reports, c.Has w r
  old : ∀ r ∈ reports, ¬ r.About w c.subscriptionId → r.event.data.Lapses ∨ r.event.data.Deletes
  distinct : (reports.map fun r => r.event.id).Nodup
  fresh : ∀ r ∈ reports, ¬ w.Claimed r.event.id

instance decidableSubscriberReported (c : Subscriber) (reports : List Report) (w : World) : Decidable (c.Reported reports w) :=
  decidable_of_iff
    ((∃ row ∈ w.users c.userId, row.stripeCustomerId = some c.customerId) ∧ (∀ r ∈ reports, c.Has w r) ∧
      (∀ r ∈ reports, ¬ r.About w c.subscriptionId → r.event.data.Lapses ∨ r.event.data.Deletes) ∧
      (reports.map fun r => r.event.id).Nodup ∧ ∀ r ∈ reports, ¬ w.Claimed r.event.id)
    ⟨fun ⟨h₁, h₂, h₃, h₄, h₅⟩ => ⟨h₁, h₂, h₃, h₄, h₅⟩, fun h => ⟨h.1, h.2, h.3, h.4, h.5⟩⟩

structure Standing where
  tier : Option String
  status : Option String
  subscriptionId : Option String
  allowance : Option ℚ
  deriving DecidableEq

def User.standing (row : User) : Standing :=
  ⟨row.tier, row.subscriptionStatus, row.stripeSubscriptionId, row.subscriptionAllowance⟩

def World.standing (w : World) (u : Int) : Option Standing := (w.users u).map User.standing

def Subscriber.withoutLapses (c : Subscriber) (w : World) (reports : List Report) : List Report :=
  reports.filter fun r => r.About w c.subscriptionId ∨ r.event.data.Deletes

def Subscriber.alone (c : Subscriber) (w : World) (reports : List Report) : List Report :=
  reports.filter fun r => r.About w c.subscriptionId

/-- The tier and the status an event gives, if it gives any. -/
def World.verdict (w : World) : EventData → Option (Option String × Option String)
  | .customerSubscriptionCreated s => some (some (w.resolvedTier s), some "active")
  | .customerSubscriptionUpdated s => some (some (if s.Lapsed then "basic" else w.resolvedTier s), some s.status)
  | .customerSubscriptionDeleted s =>
    if s.periodEnd.any (maxTimestamp < ·) then none else some (some "basic", some "canceled")
  | .invoicePaymentFailed _ => some (some "basic", some "past_due")
  | _ => none

def World.lastVerdict (w : World) (reports : List Report) (before : Option String × Option String) :
    Option String × Option String :=
  reports.foldl (fun v r => ((r.finds w).verdict r.event.data).getD v) before

/-- What the law says of the user before and after the reports, and after them without the old subscriptions'
    lapses. The subscription id and the allowance are those without the lapses, and without an end of an old subscription
    they are those of the new subscription's events alone; tier and status are those of the last report that gives any;
    and the end of whichever subscription leaves neither subscription nor allowance. -/
structure Subscriber.Leads (c : Subscriber) (config : PaymentConfig) (reports : List Report) (w : World)
    (before after alone : Standing) : Prop where
  found : w.standing c.userId = some before
  left : (reportAll config reports w).standing c.userId = some after
  leftAlone : (reportAll config (c.withoutLapses w reports) w).standing c.userId = some alone
  subscriptionId : after.subscriptionId = alone.subscriptionId
  allowance : after.allowance = alone.allowance
  onlyLapses : (∀ r ∈ reports, r.event.data.Deletes → r.About w c.subscriptionId) →
    c.withoutLapses w reports = c.alone w reports
  verdict : (after.tier, after.status) = w.lastVerdict reports (before.tier, before.status)
  ended : ∀ r ∈ reports.getLast?, ∀ s, r.event.data = .customerSubscriptionDeleted s →
    s.periodEnd.any (maxTimestamp < ·) = false → after.subscriptionId = none ∧ after.allowance.getD 0 ≤ 0

/-! ## One report -/

section Report

variable {w₀ w : World} {c : Subscriber} {row row' : User} {now : Time} {data : EventData}

theorem User.refilled_eq (row : User) (amount : ℚ) :
    row.refilled amount = { row with subscriptionAllowance := (row.refilled amount).subscriptionAllowance } := by
  unfold User.refilled
  split <;> rfl

theorem World.refill_eq (w : World) (now : Time) (data : EventData) (row : User) :
    w.refill now data row = { row with subscriptionAllowance := (w.refill now data row).subscriptionAllowance } := by
  unfold World.refill
  split
  · exact row.refilled_eq _
  · rfl

theorem World.rowAfter_verdict (w : World) (now : Time) (data : EventData) (row : User) :
    ((w.rowAfter now data row).tier, (w.rowAfter now data row).subscriptionStatus) =
      (w.verdict data).getD (row.tier, row.subscriptionStatus) := by
  cases data with
  | customerSubscriptionCreated s => simp only [World.rowAfter]; rw [World.refill_eq]; rfl
  | customerSubscriptionUpdated s => simp only [World.rowAfter]; rw [World.refill_eq]; rfl
  | customerSubscriptionDeleted s =>
    simp only [World.rowAfter, World.verdict]
    split <;> rfl
  | invoicePaid i => simp only [World.rowAfter]; rw [World.refill_eq]; rfl
  | _ => rfl

theorem World.rowAfter_customer (hdata : ∃ s ∈ w.subscriptionOf data, s.customer = some c.customerId)
    (hrow : row.stripeCustomerId = some c.customerId) :
    (w.rowAfter now data row).stripeCustomerId = some c.customerId := by
  obtain ⟨s, hs, hcustomer⟩ := hdata
  cases data with
  | customerSubscriptionCreated s' =>
    cases hs
    simp only [World.rowAfter]
    rw [World.refill_eq]
    exact hcustomer
  | customerSubscriptionUpdated s' =>
    simp only [World.rowAfter]
    rw [World.refill_eq]
    exact hrow
  | customerSubscriptionDeleted s' =>
    simp only [World.rowAfter, User.forfeited]
    repeat' split
    all_goals exact hrow
  | invoicePaid i =>
    simp only [World.rowAfter]
    rw [World.refill_eq]
    exact hrow
  | _ => exact hrow

def User.Agrees (row row' : User) : Prop :=
  row.stripeSubscriptionId = row'.stripeSubscriptionId ∧ row.subscriptionAllowance = row'.subscriptionAllowance

theorem World.refill_agrees (h : row.Agrees row') : (w.refill now data row).Agrees (w.refill now data row') := by
  unfold World.refill User.refilled
  repeat' split
  all_goals exact ⟨h.1, by first | rfl | exact h.2⟩

/-- The event does the same to rows that agree. -/
theorem World.rowAfter_agrees (w : World) (now : Time) (data : EventData) (h : row.Agrees row') :
    (w.rowAfter now data row).Agrees (w.rowAfter now data row') := by
  cases data with
  | customerSubscriptionCreated s => exact World.refill_agrees ⟨rfl, h.2⟩
  | customerSubscriptionUpdated s => exact World.refill_agrees h
  | customerSubscriptionDeleted s =>
    have hallowance : row.allowance = row'.allowance := by unfold User.allowance; rw [h.2]
    simp only [World.rowAfter, User.forfeited, hallowance]
    repeat' split
    · exact h
    · exact ⟨rfl, rfl⟩
    · exact ⟨rfl, h.2⟩
  | invoicePaid i => exact World.refill_agrees h
  | _ => exact h

theorem World.rowAfter_lapse (w : World) (now : Time) (row : User) (hlapse : data.Lapses) :
    (w.rowAfter now data row).Agrees row := by
  cases data with
  | customerSubscriptionUpdated s =>
    have hno : ¬ w.Refills now (.customerSubscriptionUpdated s) := by
      rintro ⟨hactive, -⟩
      rcases hlapse with h | h | h <;> rw [hactive] at h <;> exact absurd h (by decide)
    simp only [World.rowAfter, World.refill, if_neg hno]
    exact ⟨rfl, rfl⟩
  | invoicePaymentFailed i => exact ⟨rfl, rfl⟩
  | _ => exact hlapse.elim

theorem World.rowAfter_deleted (w : World) (now : Time) (row : User) {s : Subscription}
    (hend : s.periodEnd.any (maxTimestamp < ·) = false) :
    (w.rowAfter now (.customerSubscriptionDeleted s) row).stripeSubscriptionId = none ∧
      (w.rowAfter now (.customerSubscriptionDeleted s) row).allowance ≤ 0 := by
  simp only [World.rowAfter, hend, Bool.false_eq_true, if_false, User.forfeited]
  refine ⟨rfl, ?_⟩
  split
  · exact le_refl _
  · rename_i hpos
    exact not_lt.mp hpos

end Report

/-! ## A sequence of reports -/

section Reports

variable {w₀ w : World} {c : Subscriber} {row row₀ : User}

theorem RowIs.subscriber (h : RowIs w₀ c.userId row w) (hrow₀ : w₀.users c.userId = some row₀)
    (hbefore : row₀.stripeCustomerId = some c.customerId) (hnow : row.stripeCustomerId = some c.customerId)
    {s : Subscription} (hs : s.customer = some c.customerId) : w.subscriber s = w₀.subscriber s := by
  have hfound : w.userByCustomer c.customerId = w₀.userByCustomer c.customerId := by
    unfold World.userByCustomer
    rw [h.order]
    congr 1
    funext v
    by_cases hv : v = c.userId
    · rw [hv, h.row, hrow₀]
      simp [hbefore, hnow]
    · rw [h.others v hv]
  unfold World.subscriber
  split
  · rfl
  · rw [hs]
    cases hid : nonempty (some c.customerId) with
    | none => rfl
    | some id =>
      have hsame : id = c.customerId := by
        exact (Option.some.inj (Option.filter_eq_some_iff.mp hid).1).symm
      rw [hsame]
      show (w.userByCustomer c.customerId).filter _ = (w₀.userByCustomer c.customerId).filter _
      rw [hfound]

/-- After the reports the row is what the events make of it, one after the other. -/
theorem reports_row (config : PaymentConfig) (hrow₀ : w₀.users c.userId = some row₀)
    (hbefore : row₀.stripeCustomerId = some c.customerId) (reports : List Report) {subscriptions : List Subscription}
    (h : RowIs (w₀.withSubscriptions subscriptions) c.userId row w) (hnow : row.stripeCustomerId = some c.customerId)
    (hhas : ∀ r ∈ reports, c.Has w₀ r) (hdistinct : (reports.map fun r => r.event.id).Nodup)
    (hfresh : ∀ r ∈ reports, ¬ w.Claimed r.event.id) :
    (reportAll config reports w).users c.userId = some (reports.foldl (fun row r => r.rowAfter w₀ row) row) := by
  induction reports generalizing w row subscriptions with
  | nil => exact h.row
  | cons r reports ih =>
    obtain ⟨s, hs, hcustomer, huser⟩ := hhas r List.mem_cons_self
    have hfor : (r.finds w).IsFor c.userId r.event.data := by
      refine ⟨s, ?_, ?_⟩
      · revert hs
        cases r.event.data <;> exact id
      · have hsubscriber := h.subscriber hrow₀ hbefore hnow hcustomer
        exact hsubscriber.trans huser
    have hafter := r.row config hfor (hfresh r List.mem_cons_self) h
    rw [List.map_cons, List.nodup_cons] at hdistinct
    refine ih hafter ?_ (fun r' hr' => hhas r' (List.mem_cons_of_mem _ hr'))
      hdistinct.2 fun r' hr' hclaimed => ?_
    · exact World.rowAfter_customer ⟨s, hs, hcustomer⟩ hnow
    · rcases deliver_claimed config r.now r.event hclaimed with hold | hsame
      · exact hfresh r' (List.mem_cons_of_mem _ hr') hold
      · exact hdistinct.1 (List.mem_map.mpr ⟨r', hr', hsame⟩)

theorem foldl_agrees (w : World) (keep : Report → Bool) (reports : List Report)
    (hlapse : ∀ r ∈ reports, keep r = false → r.event.data.Lapses) {row row' : User} (h : row.Agrees row') :
    (reports.foldl (fun row r => r.rowAfter w row) row).Agrees
      ((reports.filter keep).foldl (fun row r => r.rowAfter w row) row') := by
  induction reports generalizing row row' with
  | nil => exact h
  | cons r reports ih =>
    have hrest : ∀ r' ∈ reports, keep r' = false → r'.event.data.Lapses := fun r' hr' =>
      hlapse r' (List.mem_cons_of_mem _ hr')
    cases hkeep : keep r with
    | true =>
      rw [List.filter_cons_of_pos hkeep]
      exact ih hrest (World.rowAfter_agrees _ _ _ h)
    | false =>
      rw [List.filter_cons_of_neg (by simp [hkeep])]
      have hsame := World.rowAfter_lapse (r.finds w) r.now row (hlapse r List.mem_cons_self hkeep)
      exact ih hrest ⟨hsame.1.trans h.1, hsame.2.trans h.2⟩

theorem foldl_verdict (w : World) (reports : List Report) (row : User) :
    ((reports.foldl (fun row r => r.rowAfter w row) row).tier,
        (reports.foldl (fun row r => r.rowAfter w row) row).subscriptionStatus) =
      w.lastVerdict reports (row.tier, row.subscriptionStatus) := by
  induction reports generalizing row with
  | nil => rfl
  | cons r reports ih =>
    have hverdict := World.rowAfter_verdict (r.finds w) r.now r.event.data row
    refine (ih _).trans ?_
    unfold World.lastVerdict
    rw [List.foldl_cons, ← hverdict]
    rfl

theorem Subscriber.Reported.filter {reports : List Report} (h : c.Reported reports w) (keep : Report → Bool) :
    c.Reported (reports.filter keep) w where
  customer := h.customer
  has := fun r hr => h.has r (List.mem_filter.mp hr).1
  old := fun r hr => h.old r (List.mem_filter.mp hr).1
  distinct := h.distinct.sublist (List.filter_sublist.map _)
  fresh := fun r hr => h.fresh r (List.mem_filter.mp hr).1

theorem Subscriber.Reported.endRow {reports : List Report} (config : PaymentConfig) (h : c.Reported reports w)
    (hrow : w.users c.userId = some row) :
    (reportAll config reports w).users c.userId = some (reports.foldl (fun row r => r.rowAfter w row) row) := by
  obtain ⟨row', hrow', hcustomer⟩ := h.customer
  have hsame : row' = row := Option.some.inj (hrow'.symm.trans hrow)
  rw [hsame] at hcustomer
  have hstart : RowIs (w.withSubscriptions w.stripe.subscriptions) c.userId row w := RowIs.refl hrow
  exact reports_row config hrow hcustomer reports hstart hcustomer h.has h.distinct h.fresh

/-- **What the reports of a customer's subscriptions make of the user.** -/
theorem superseded_subscription (config : PaymentConfig) (c : Subscriber) (reports : List Report) (w : World)
    (h : c.Reported reports w) : ∃ before after alone, c.Leads config reports w before after alone := by
  obtain ⟨row, hrow, -⟩ := h.customer
  let keep : Report → Bool := fun r => r.About w c.subscriptionId ∨ r.event.data.Deletes
  let endRow := fun (reports : List Report) => reports.foldl (fun row r => r.rowAfter w row) row
  have hends : ∀ {reports'}, c.Reported reports' w →
      (reportAll config reports' w).standing c.userId = some (endRow reports').standing := by
    intro reports' h'
    unfold World.standing
    rw [h'.endRow config hrow]
    rfl
  have hlapse : ∀ r ∈ reports, keep r = false → r.event.data.Lapses := by
    intro r hr hskip
    simp only [keep, decide_eq_false_iff_not, not_or] at hskip
    exact (h.old r hr hskip.1).resolve_right hskip.2
  have hagrees : (endRow reports).Agrees (endRow (reports.filter keep)) := foldl_agrees w keep reports hlapse ⟨rfl, rfl⟩
  refine ⟨row.standing, (endRow reports).standing, (endRow (reports.filter keep)).standing, ?_⟩
  refine ⟨?_, hends h, hends (h.filter keep), hagrees.1, hagrees.2, ?_, foldl_verdict w reports row, ?_⟩
  · unfold World.standing
    rw [Option.mem_def.mp hrow]
    rfl
  · intro hown
    refine List.filter_congr fun r hr => ?_
    simp only [decide_eq_decide, or_iff_left_iff_imp]
    exact hown r hr
  · intro r hr s hdeleted hend
    obtain ⟨reports', rfl⟩ := List.getLast?_eq_some_iff.mp hr
    have hlast : endRow (reports' ++ [r]) = r.rowAfter w (endRow reports') := List.foldl_concat ..
    rw [hlast, Report.rowAfter, hdeleted]
    exact World.rowAfter_deleted _ _ _ hend

end Reports

/-! ## A customer who has changed subscriptions -/

/-- User 1 has changed from `sub_1` to `sub_2`, which is active. -/
def changedSubscription : World :=
  { oneUser 15 0 with
    users := fun u =>
      if u = 1 then
        some
          { subscriptionAllowance := some 15, purchasedCredits := some 0, tier := some "pro",
            subscriptionStatus := some "active", stripeCustomerId := some "cus_1",
            stripeSubscriptionId := some "sub_2" }
      else none }

def oldSubscription (status : String) : Subscription where
  id := "sub_1"
  customer := some "cus_1"
  status := status

def oldEvents : List EventData :=
  [.customerSubscriptionUpdated (oldSubscription "past_due"),
    .invoicePaymentFailed { id := "in_1", subscription := some "sub_1" },
    .customerSubscriptionDeleted (oldSubscription "canceled")]

def oldReport (n : Nat) (data : EventData) : Report := ⟨n, ⟨"evt_" ++ toString n, data⟩, [oldSubscription "active"]⟩

def changedSubscriber : Subscriber := ⟨1, "cus_1", "sub_2"⟩

theorem superseded_subscription_oldEvents :
    ∃ before after alone, changedSubscriber.Leads {} (oldEvents.mapIdx oldReport) changedSubscription before after alone :=
  superseded_subscription {} changedSubscriber (oldEvents.mapIdx oldReport) changedSubscription (by decide +kernel)

/-- Each of them touches the user, whom the events of `sub_2` alone leave as before. -/
theorem old_events_touch_the_user :
    changedSubscription.standing 1 = some ⟨some "pro", some "active", some "sub_2", some 15⟩ ∧
      (∀ data ∈ oldEvents, changedSubscriber.Reported [oldReport 0 data] changedSubscription ∧
        changedSubscriber.alone changedSubscription [oldReport 0 data] = []) ∧
      (oldEvents.map fun data => (reportAll {} [oldReport 0 data] changedSubscription).standing 1) =
        [some ⟨some "basic", some "past_due", some "sub_2", some 15⟩,
          some ⟨some "basic", some "past_due", some "sub_2", some 15⟩,
          some ⟨some "basic", some "canceled", none, some 0⟩] := by
  decide +kernel

end Gatewayz
