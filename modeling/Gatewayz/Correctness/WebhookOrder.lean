import Gatewayz.Billing.Deliveries

/-!
# `Correctness.WebhookOrder` — a checkout is reported twice, in either order

A paid checkout is reported by `checkout.session.completed` and by `payment_intent.succeeded`, in an order Stripe does
not promise. Whichever report comes first grants the credits and completes the payment, and the other finds it
completed.

The two handlers do not do the same. The checkout handler grants what the session's metadata say, pays the bonus for a
first top-up and sets `has_made_first_purchase`; the intent handler grants what the `payments` row says, and that is
all.
-/

namespace Gatewayz

open Exec

/-! ## The law -/

/-- A paid checkout: the two objects Stripe reports, and the row of `payments`. -/
structure PaidCheckout where
  session : CheckoutSession
  intent : PaymentIntent
  row : Payment
  /-- `credits_cents` of the session's metadata. -/
  credits : Int
  paid : Int

namespace PaidCheckout

variable (c : PaidCheckout)

def keys : List String :=
  [grantIdempotencyKey ("cs:" ++ c.session.id.getD "None"), grantIdempotencyKey ("bonus:" ++ c.session.id.getD "None"),
    grantIdempotencyKey ("pi:" ++ c.intent.id)]

/-- The checkout is paid and nothing has been reported yet; its row already carries both Stripe ids. -/
structure Unreported (w : World) : Prop where
  mode : c.session.mode ≠ some "subscription"
  user : coerceToInt (c.session.metadata.get "user_id") = .ok (some c.row.userId)
  payment : c.session.Names c.row.id
  credits : coerceToInt (c.session.metadata.get "credits_cents") = .ok (some c.credits)
  credits_pos : 0 < c.credits
  sameIntent : c.session.paymentIntent = some c.intent.id
  rowSession : c.row.stripeCheckoutSessionId = c.session.id
  byId : w.payment? c.row.id = some c.row
  byIntent : (w.payments.find? fun p => p.stripePaymentIntentId = some c.intent.id) = some c.row
  notCompleted : c.row.status ≠ .completed
  amount : c.row.amountUsd = c.paid / 100
  paid_pos : 0 < c.paid
  buyer : (w.users c.row.userId).isSome
  unbooked : w.hasPurchase c.row.id = false
  unused : ∀ key ∈ c.keys, w.transactionByRequestId key = none

instance (w : World) : Decidable (c.Unreported w) :=
  decidable_of_iff
    ((c.session.mode ≠ some "subscription" ∧ coerceToInt (c.session.metadata.get "user_id") = .ok (some c.row.userId) ∧
      c.session.Names c.row.id ∧ coerceToInt (c.session.metadata.get "credits_cents") = .ok (some c.credits) ∧
      0 < c.credits) ∧
      (c.session.paymentIntent = some c.intent.id ∧ c.row.stripeCheckoutSessionId = c.session.id ∧
        w.payment? c.row.id = some c.row ∧
        (w.payments.find? fun p => p.stripePaymentIntentId = some c.intent.id) = some c.row ∧
        c.row.status ≠ .completed) ∧
      c.row.amountUsd = c.paid / 100 ∧ 0 < c.paid ∧ (w.users c.row.userId).isSome ∧
      w.hasPurchase c.row.id = false ∧ ∀ key ∈ c.keys, w.transactionByRequestId key = none)
    ⟨fun ⟨⟨a, b, c, d, e⟩, ⟨f, g, h, i, j⟩, k, l, m, n, o⟩ => ⟨a, b, c, d, e, f, g, h, i, j, k, l, m, n, o⟩,
      fun h => ⟨⟨h.1, h.2, h.3, h.4, h.5⟩, ⟨h.6, h.7, h.8, h.9, h.10⟩, h.11, h.12, h.13, h.14, h.15⟩⟩

def checkoutReport (now : Time) (eventId : String) : DeliveryRun :=
  ⟨now, ⟨eventId, .checkoutSessionCompleted c.session⟩, []⟩
def intentReport (now : Time) (eventId : String) : DeliveryRun :=
  ⟨now, ⟨eventId, .paymentIntentSucceeded c.intent⟩, []⟩

end PaidCheckout

/-- The user's `has_made_first_purchase`. -/
def World.firstPurchaseFlag (w : World) (u : Int) : Option Bool := (w.users u).bind User.hasMadeFirstPurchase

/-- What the buyer has: the purchased credits and the flag. -/
def World.buyerHas (w : World) (u : Int) : ℚ × Option Bool := (w.purchased u, w.firstPurchaseFlag u)

/-! ## Where a checkout stands -/

section Stand

/-- The buyer's purchased credits and flag, and the row of the payment, found both ways. -/
structure PaidCheckout.Stand (c : PaidCheckout) (purchased : ℚ) (flag : Option Bool) (r : Payment) (w : World) :
    Prop where
  buyer : ∃ user, w.users c.row.userId = some user ∧ user.purchased = purchased ∧ user.hasMadeFirstPurchase = flag
  byId : w.payment? c.row.id = some r
  byIntent : (w.payments.find? fun p => p.stripePaymentIntentId = some c.intent.id) = some r

variable {c : PaidCheckout} {purchased : ℚ} {flag : Option Bool} {r : Payment} {w : World}

theorem PaidCheckout.Stand.buyerHas (h : c.Stand purchased flag r w) : w.buyerHas c.row.userId = (purchased, flag) := by
  obtain ⟨user, huser, rfl, rfl⟩ := h.buyer
  simp [World.buyerHas, World.purchased, World.firstPurchaseFlag, huser]

def PaidCheckout.Settled (c : PaidCheckout) (purchased : ℚ) (flag : Option Bool) (w : World) : Prop :=
  ∃ r, r.status = .completed ∧ c.Stand purchased flag r w

theorem PaidCheckout.Stand.withClaims (h : c.Stand purchased flag r w) (events : List WebhookEvent) :
    c.Stand purchased flag r { w with webhookEvents := events } := ⟨h.buyer, h.byId, h.byIntent⟩

theorem PaidCheckout.Settled.withClaims (w : World) (events : List WebhookEvent) (h : c.Settled purchased flag w) :
    c.Settled purchased flag { w with webhookEvents := events } :=
  ⟨h.choose, h.choose_spec.1, h.choose_spec.2.withClaims events⟩

theorem PaidCheckout.Stand.grant {p : AddCreditsParams} (h : c.Stand purchased flag r w) (key : String)
    (huser : p.userId = c.row.userId) (hpos : 0 < p.credits) (htarget : p.target = .purchased)
    (hpay : ∀ q, p.paymentId = some q → q = c.row.id)
    (hfirst : p.transactionType = .purchase → w.hasPurchase c.row.id = false) (hkey : p.requestId = some key)
    (hunused : w.transactionByRequestId key = none) :
    (atomicAddCredits p w).1.success = true ∧ c.Stand (purchased + p.credits) flag r (atomicAddCredits p w).2 ∧
      ∀ key', key' ≠ key → w.transactionByRequestId key' = none →
        (atomicAddCredits p w).2.transactionByRequestId key' = none := by
  obtain ⟨user, hrow, hpurchased, hflag⟩ := h.buyer
  have hrow : w.users p.userId = some user := by rw [huser, hrow]
  have hnew : w.refusesTransaction (p.ledgerRow user) = none := by
    refine World.refusesTransaction_none ?_ ?_ ?_ ?_
    · show (w.users p.userId).isSome
      rw [hrow]
      rfl
    · intro q hq
      rw [hpay q hq, h.byId]
      rfl
    · intro k hk
      rw [show k = key from Option.some.inj (hk.symm.trans hkey)]
      exact hunused
    · intro ht q hq
      rw [hpay q hq]
      exact hfirst ht
  rw [atomicAddCredits_new hrow hpos hnew]
  refine ⟨rfl, ⟨⟨p.granted user, ?_, ?_, hflag⟩, h.byId, h.byIntent⟩, ?_⟩
  · rw [← huser]
    exact Function.update_self ..
  · simp [AddCreditsParams.granted, User.purchased, htarget, ← hpurchased]
  · intro key' hne hnone
    have hother : ¬ (p.ledgerRow user).requestId = some key' := by
      show ¬ p.requestId = some key'
      rw [hkey]
      exact fun heq => hne (Option.some.inj heq).symm
    show List.find? _ (w.creditTransactions ++ [_]) = none
    rw [List.find?_append, show w.creditTransactions.find? _ = none from hnone]
    simp [World.storedTransaction, hother]

theorem find?_of_either {α : Type} {l : List α} {p q s : α → Bool} {a : α} (hp : l.find? p = some a)
    (hq : l.find? q = some a) (hs : ∀ x, s x = true → p x = true ∨ q x = true) (ha : s a = true) :
    l.find? s = some a := by
  induction l with
  | nil => cases hp
  | cons x l ih =>
    by_cases hx : x = a
    · subst hx
      rw [List.find?_cons_of_pos ha]
    · have hpx : ¬ p x = true := fun h => hx (by simpa [List.find?_cons_of_pos h] using hp)
      have hqx : ¬ q x = true := fun h => hx (by simpa [List.find?_cons_of_pos h] using hq)
      have hsx : ¬ s x = true := fun h => (hs x h).elim hpx hqx
      rw [List.find?_cons_of_neg hpx] at hp
      rw [List.find?_cons_of_neg hqx] at hq
      rw [List.find?_cons_of_neg hsx]
      exact ih hp hq

theorem PaidCheckout.Stand.updatePayment {patch : PaymentPatch} (h : c.Stand purchased flag r w)
    (hintent : ∀ i ∈ patch.stripePaymentIntentId, i = c.intent.id) (hr : r.stripePaymentIntentId = some c.intent.id) :
    c.Stand purchased flag (patch.apply r) (exec (.updatePayment c.row.id patch) w).2 := by
  refine ⟨h.buyer, ?_, ?_⟩
  · rw [payment?_update, if_pos rfl, h.byId]
    rfl
  · have hafter : (patch.apply r).stripePaymentIntentId = some c.intent.id := by
      cases hp : patch.stripePaymentIntentId with
      | none => simp [PaymentPatch.apply, hp, hr]
      | some i => simp [PaymentPatch.apply, hp, hintent i hp]
    have hid : r.id = c.row.id := by simpa [World.payment?] using List.find?_some h.byId
    simp only [exec, List.find?_map]
    rw [find?_of_either h.byId h.byIntent (fun x hx => ?_) (by simp [hid, hafter])]
    · simp [hid]
    · by_cases hx' : x.id = c.row.id
      · exact .inl (decide_eq_true hx')
      · simp only [Function.comp_apply, if_neg hx'] at hx
        exact .inr hx

end Stand

/-! ## The first report -/

section First

variable {c : PaidCheckout} {config : PaymentConfig} {now : Time} {w : World}

variable {E : PyErr → Unit → World → Prop}

theorem wp_resolveCheckout_complete {session : CheckoutSession} {u p n : Int}
    (hmode : session.mode ≠ some "subscription")
    (hu : coerceToInt (session.metadata.get "user_id") = .ok (some u)) (hp : session.Names p)
    (hn : coerceToInt (session.metadata.get "credits_cents") = .ok (some n))
    {Q : Option ResolvedCheckout → Unit → World → Prop}
    (h : Q (some ⟨session.id, session.paymentIntent, u, p, n⟩) () w) :
    (resolveCheckout session).wp servedRun .alone Q E () w := by
  have hmeta : session.metadata ≠ [] := by
    intro hnil
    have hnone := get_ne_none_of_coerce hp
    rw [hnil] at hnone
    exact hnone rfl
  unfold resolveCheckout hydrateCheckoutSessionMetadata
  simp only [if_pos hmeta, Prog.pure_eq, Prog.ret_bind]
  rw [if_neg (by simp [hmeta]), if_neg hmode]
  unfold resolveFrom
  simp only [wp_bind]
  have hrest : ∀ d : Dict, d.Extends session.metadata →
      Prog.wp servedRun .alone (fun r => Prog.wp servedRun .alone Q E (.ret (some r))) E (do
        let context ← liftPy (CheckoutContext.read session d)
        let record ← context.record session
        let context ←
          (((record.map context.fillFromRecord).getD context).fillFromSession session).withFallbackRecord session record
        liftPy (context.resolve session)) () w := by
    intro d hext
    have hread : CheckoutContext.read session d = .ok ⟨some u, some p, some n⟩ := by
      simp only [CheckoutContext.read, creditsOfMetadata, hext.coerce hu, hext.coerce hp, hext.coerce hn]
      rfl
    rw [hread]
    exact h
  have hbackfill : (backfillMetadata session session.metadata).wp servedRun .alone
      (fun d _ w' => w' = w ∧ d.Extends session.metadata) (fun _ _ _ => False) () w := by
    unfold backfillMetadata
    simp only
    split
    · unfold hydratePaymentIntentMetadata
      split
      · exact ⟨rfl, Dict.setDefaults_extends _ _⟩
      · simp only [wp_bind]
        unfold catchStripe
        simp only [wp_tryCatch, wp_bind]
        refine wp_stmt_served ?_
        simp only [exec, retrieved]
        split
        · exact ⟨rfl, Dict.setDefaults_extends _ _⟩
        · simp only [answered_error, stripeError, if_true]
          exact ⟨rfl, Dict.setDefaults_extends _ _⟩
    · exact ⟨rfl, fun _ _ => rfl⟩
  refine wp_mono ?_ (fun _ _ _ hf => hf.elim) hbackfill
  rintro d _ w' ⟨rfl, hext⟩
  exact hrest d hext

def topupBonus (flag : Option Bool) (credits : Int) : ℚ := if flag ≠ some true ∧ 5 ≤ (credits : ℚ) / 100 then 5 else 0

variable {row : Payment}

theorem PaidCheckout.Stand.setFlag {purchased : ℚ} {flag : Option Bool} (h : c.Stand purchased flag row w) :
    c.Stand purchased (some true) row (updateUserRow c.row.userId { hasMadeFirstPurchase := some true } w).2 := by
  obtain ⟨user, huser, hpurchased, -⟩ := h.buyer
  rcases updateUserRow_cases c.row.userId { hasMadeFirstPurchase := some true } w with ⟨hnone, -⟩ | ⟨old, hold, he⟩
  · rw [huser] at hnone
    cases hnone
  · rw [huser] at hold
    cases hold
    rw [he]
    exact ⟨⟨_, Function.update_self .., hpurchased, rfl⟩, h.byId, h.byIntent⟩

theorem wp_firstTopupBonus_served {r : ResolvedCheckout} {purchased : ℚ} {flag : Option Bool}
    (now : Time) (h : c.Stand purchased flag row w) (huser : r.userId = c.row.userId)
    (hsession : r.sessionId = c.session.id)
    (hunused : w.transactionByRequestId (grantIdempotencyKey ("bonus:" ++ c.session.id.getD "None")) = none) :
    (r.firstTopupBonus now).wp servedRun .alone
      (fun _ _ => c.Stand (purchased + topupBonus flag r.creditsCents) (some true) row) E () w := by
  obtain ⟨user, hfound, -, hflag⟩ := h.buyer
  -- the flag is written in any case
  have hmark : ∀ {amount : ℚ} {w' : World}, c.Stand amount flag row w' →
      Prog.wp servedRun .alone (fun _ _ => c.Stand amount (some true) row)
        (fun _ => (fun _ => c.Stand amount (some true) row : Unit → World → Prop)) (do
          let _ ← query (.updateUser r.userId { hasMadeFirstPurchase := some true })
          pure ()) () w' := by
    intro amount w' h'
    rw [wp_bind]
    refine wp_stmt_served ?_
    rw [huser]
    exact h'.setFlag
  refine wp_swallow ?_
  rw [wp_bind]
  refine wp_stmt_served ?_
  simp only [exec, huser, hfound, answered_ok]
  by_cases hset : flag = some true
  · subst hset
    rw [topupBonus, if_neg (fun hb => hb.1 rfl), add_zero]
    simp only [hflag, Option.getD_some, if_true]
    exact h
  rw [if_neg (by rw [hflag]; cases flag with | none => rintro ⟨⟩ | some b => simpa using hset), wp_bind]
  unfold ResolvedCheckout.grantBonus
  by_cases hfive : 5 ≤ r.amountDollars
  · rw [if_pos hfive]
    obtain ⟨hsuccess, hstand, -⟩ := h.grant (p := (r.bonus now).forRpc)
      (grantIdempotencyKey ("bonus:" ++ c.session.id.getD "None")) huser
      (by simp [AddCreditsParams.forRpc, ResolvedCheckout.bonus]) rfl (fun q hq => by cases hq) (fun h => by cases h)
      (by simp [AddCreditsParams.forRpc, ResolvedCheckout.bonus, ResolvedCheckout.sessionKey, hsession,
        grantIdempotencyKey]) hunused
    refine wp_addCreditsToUser_served (by simp [ResolvedCheckout.bonus]) hsuccess ?_
    rw [topupBonus, if_pos ⟨hset, hfive⟩]
    exact hmark hstand
  · rw [if_neg hfive, topupBonus, if_neg (fun hb => hfive hb.2), add_zero]
    exact hmark h

theorem wp_clearTrialStatus_served {purchased : ℚ} {flag : Option Bool} {key : String}
    (h : c.Stand purchased flag row w) (hunused : w.transactionByRequestId key = none) (u : Int) :
    (clearTrialStatus u).wp servedRun .alone
      (fun _ _ w' => c.Stand purchased flag row w' ∧ w'.transactionByRequestId key = none) E () w := by
  refine wp_swallowed (wp_served_only (S := fun s => s.Reads ∨
    s = .updateUser u { subscriptionStatus := some "inactive" } ∨ ∃ patch, s = .updateApiKeys u patch) ?_
    (clearTrialStatus_only (.inl trivial) (.inr (.inl rfl)) fun patch => .inr (.inr ⟨patch, rfl⟩)) ⟨h, hunused⟩)
  rintro s (hs | rfl | ⟨patch, rfl⟩) w ⟨h, hunused⟩
  · rw [exec_reads hs]
    exact ⟨h, hunused⟩
  · simp only [exec]
    rcases updateUserRow_cases u { subscriptionStatus := some "inactive" } w with ⟨-, he⟩ | ⟨old, hold, he⟩
    · rw [he]
      exact ⟨h, hunused⟩
    · rw [he]
      refine ⟨⟨?_, h.byId, h.byIntent⟩, hunused⟩
      obtain ⟨user, huser, hpurchased, hflag⟩ := h.buyer
      by_cases hu : c.row.userId = u
      · subst hu
        rw [hold] at huser
        cases huser
        exact ⟨_, Function.update_self .., hpurchased, hflag⟩
      · exact ⟨user, (World.users_setUser_of_ne w hu _).trans huser, hpurchased, hflag⟩
  · exact ⟨⟨h.buyer, h.byId, h.byIntent⟩, hunused⟩

/-- The checkout report comes first. -/
theorem wp_checkoutFirst {purchased : ℚ} {flag : Option Bool} (hc : c.Unreported w)
    (h : c.Stand purchased flag c.row w) (hrow : c.row.stripePaymentIntentId = some c.intent.id) :
    (handleCheckoutCompleted config now c.session).wp servedRun .alone
      (fun _ _ => c.Settled (purchased + config.granted (c.credits / 100) + topupBonus flag c.credits) (some true))
      E () w := by
  unfold handleCheckoutCompleted
  rw [wp_bind]
  refine wp_resolveCheckout_complete hc.mode hc.user hc.payment hc.credits ?_
  show Prog.wp servedRun .alone _ E (ResolvedCheckout.settle _ config now) () w
  generalize hr : (⟨c.session.id, c.session.paymentIntent, c.row.userId, c.row.id, c.credits⟩ : ResolvedCheckout) = r
  have huser : r.userId = c.row.userId := by rw [← hr]
  have hsession : r.sessionId = c.session.id := by rw [← hr]
  have hcredits : r.creditsCents = c.credits := by rw [← hr]
  have hpayment : r.paymentId = c.row.id := by rw [← hr]
  have hintent : r.paymentIntentId = some c.intent.id := by rw [← hr]; exact hc.sameIntent
  have hpos : 0 < (r.purchase config now).credits := by
    show 0 < config.granted (r.creditsCents / 100)
    rw [hcredits]
    exact config.granted_pos hc.credits_pos
  unfold ResolvedCheckout.settle
  rw [wp_bind]
  refine wp_getPayment_served ?_
  rw [hpayment, h.byId, if_neg (by simpa using hc.notCompleted)]
  simp only [ResolvedCheckout.grant, wp_bind]
  obtain ⟨hsuccess, hgranted, hothers⟩ := h.grant (p := (r.purchase config now).forRpc)
    (grantIdempotencyKey ("cs:" ++ c.session.id.getD "None")) huser hpos rfl
    (fun q hq => by rw [← hpayment]; exact (Option.some.inj hq).symm) (fun _ => hc.unbooked)
    (by simp [AddCreditsParams.forRpc, ResolvedCheckout.purchase, ResolvedCheckout.sessionKey, hsession,
      grantIdempotencyKey]) (hc.unused _ (by simp [PaidCheckout.keys]))
  refine wp_addCreditsToUser_served hpos hsuccess ?_
  rw [wp_bind]
  refine wp_updatePaymentStatus_served fun _ => ?_
  simp only [Prog.pure_eq, wp_ret, wp_bind]
  rw [hpayment]
  have hsame : ∀ i ∈ nonempty r.paymentIntentId, i = c.intent.id := by
    intro i hi
    have hi := (Option.filter_eq_some_iff.mp hi).1
    rw [hintent] at hi
    exact (Option.some.inj hi).symm
  obtain ⟨row, hstatus, hcompleted⟩ : ∃ row, row.status = .completed ∧
      c.Stand (purchased + (r.purchase config now).forRpc.credits) flag row
        (exec (.updatePayment c.row.id ⟨.completed, nonempty r.paymentIntentId, nonempty r.sessionId⟩)
          (atomicAddCredits (r.purchase config now).forRpc w).2).2 :=
    ⟨_, rfl, hgranted.updatePayment hsame hrow⟩
  have hbonus : ∀ w' : World,
      w'.creditTransactions = (atomicAddCredits (r.purchase config now).forRpc w).2.creditTransactions →
      w'.transactionByRequestId (grantIdempotencyKey ("bonus:" ++ c.session.id.getD "None")) = none := by
    intro w' hw'
    have hne : grantIdempotencyKey ("bonus:" ++ c.session.id.getD "None") ≠
        grantIdempotencyKey ("cs:" ++ c.session.id.getD "None") := by
      intro heq
      have hlist := congrArg String.toList heq
      simp [grantIdempotencyKey] at hlist
    rw [World.transactionByRequestId, hw']
    exact hothers _ hne (hc.unused _ (by simp [PaidCheckout.keys]))
  refine wp_mono ?_ (fun _ _ _ he => he) (wp_clearTrialStatus_served hcompleted (hbonus _ rfl) r.userId)
  rintro _ _ w' ⟨hstand, hunused⟩
  refine wp_mono ?_ (fun _ _ _ he => he) (wp_firstTopupBonus_served now hstand huser hsession hunused)
  intro _ _ w'' hend
  refine ⟨row, hstatus, ?_⟩
  have hamount : (r.purchase config now).forRpc.credits = config.granted (c.credits / 100) := by
    show config.granted (r.creditsCents / 100) = _
    rw [hcredits]
  rwa [hcredits, hamount] at hend

/-- The intent report comes first. -/
theorem wp_intentFirst {purchased : ℚ} {flag : Option Bool} (hc : c.Unreported w)
    (h : c.Stand purchased flag c.row w) (hrow : c.row.stripePaymentIntentId = some c.intent.id) :
    (handlePaymentSucceeded config now c.intent).wp servedRun .alone
      (fun _ _ => c.Settled (purchased + config.granted (c.paid / 100)) flag) E () w := by
  unfold handlePaymentSucceeded
  refine wp_swallow ?_
  rw [wp_bind]
  refine wp_getPaymentByStripeIntent_served ?_
  rw [World.paymentByStripeId, h.byIntent]
  simp only [Option.some_or, if_neg hc.notCompleted]
  rw [wp_bind]
  refine wp_updatePaymentStatus_served fun _ => ?_
  obtain ⟨row, hstatus, hcompleted⟩ : ∃ row, row.status = .completed ∧ c.Stand purchased flag row
      (exec (.updatePayment c.row.id ⟨.completed, nonempty none, nonempty none⟩) w).2 :=
    ⟨_, rfl, h.updatePayment nofun hrow⟩
  have hpos : 0 < (c.row.purchase config now c.intent.id).credits := by
    show 0 < config.granted c.row.amountUsd
    rw [hc.amount]
    exact config.granted_pos hc.paid_pos
  obtain ⟨hsuccess, hgranted, -⟩ := hcompleted.grant (p := (c.row.purchase config now c.intent.id).forRpc)
    (grantIdempotencyKey ("pi:" ++ c.intent.id)) rfl hpos rfl (fun q hq => (Option.some.inj hq).symm)
    (fun _ => hc.unbooked)
    (by simp [AddCreditsParams.forRpc, Payment.purchase, grantIdempotencyKey])
    (hc.unused _ (by simp [PaidCheckout.keys]))
  refine wp_addCreditsToUser_served hpos hsuccess ⟨row, hstatus, ?_⟩
  have hamount : (c.row.purchase config now c.intent.id).forRpc.credits = config.granted (c.paid / 100) := by
    show config.granted c.row.amountUsd = _
    rw [hc.amount]
  rwa [hamount] at hgranted

/-! ## The second report -/

theorem wp_checkoutSecond {purchased : ℚ} {flag : Option Bool} {w₀ : World} (hc : c.Unreported w₀)
    (h : c.Settled purchased flag w) : (handleCheckoutCompleted config now c.session).wp servedRun .alone
      (fun _ _ => c.Settled purchased flag) (fun _ _ => c.Settled purchased flag) () w := by
  obtain ⟨r, hr, hstand⟩ := h
  unfold handleCheckoutCompleted
  rw [wp_bind]
  refine wp_resolveCheckout_complete hc.mode hc.user hc.payment hc.credits ?_
  show Prog.wp servedRun .alone _ _ (ResolvedCheckout.settle _ config now) () w
  unfold ResolvedCheckout.settle
  rw [wp_bind]
  refine wp_getPayment_served ?_
  rw [hstand.byId, if_pos (by simpa using hr)]
  exact ⟨r, hr, hstand⟩

theorem wp_intentSecond {purchased : ℚ} {flag : Option Bool} (h : c.Settled purchased flag w) :
    (handlePaymentSucceeded config now c.intent).wp servedRun .alone
      (fun _ _ => c.Settled purchased flag) (fun _ _ => c.Settled purchased flag) () w := by
  obtain ⟨r, hr, hstand⟩ := h
  unfold handlePaymentSucceeded
  refine wp_swallow ?_
  rw [wp_bind]
  refine wp_getPaymentByStripeIntent_served ?_
  rw [World.paymentByStripeId, hstand.byIntent]
  simp only [Option.some_or, if_pos hr]
  exact ⟨r, hr, hstand⟩

end First

/-! ## Both orders -/

section Orders

variable {c : PaidCheckout} {config : PaymentConfig} {w : World}

theorem PaidCheckout.Unreported.withClaims (h : c.Unreported w) (events : List WebhookEvent) :
    c.Unreported { w with webhookEvents := events } :=
  ⟨h.mode, h.user, h.payment, h.credits, h.credits_pos, h.sameIntent, h.rowSession, h.byId, h.byIntent,
    h.notCompleted, h.amount, h.paid_pos, h.buyer, h.unbooked, h.unused⟩

theorem PaidCheckout.Unreported.stand (h : c.Unreported w) :
    c.Stand (w.purchased c.row.userId) (w.firstPurchaseFlag c.row.userId) c.row w ∧
      c.row.stripePaymentIntentId = some c.intent.id := by
  obtain ⟨user, huser⟩ := Option.isSome_iff_exists.mp h.buyer
  refine ⟨⟨⟨user, huser, ?_, ?_⟩, h.byId, h.byIntent⟩, by simpa using List.find?_some h.byIntent⟩
  · simp [World.purchased, huser]
  · simp [World.firstPurchaseFlag, huser]

theorem checkout_then_intent (hc : c.Unreported w) (now now' : Time) (event event' : String)
    (hfresh : ¬ w.Claimed event) :
    (deliverAll config [c.checkoutReport now event, c.intentReport now' event'] w).buyerHas c.row.userId =
      (w.purchased c.row.userId + config.granted (c.credits / 100) +
        topupBonus (w.firstPurchaseFlag c.row.userId) c.credits, some true) := by
  obtain ⟨hstand, hrow⟩ := hc.stand
  have hfirst := deliver_fresh config now ⟨event, .checkoutSessionCompleted c.session⟩
    hfresh PaidCheckout.Settled.withClaims fun events =>
      wp_checkoutFirst (hc.withClaims events) (hstand.withClaims events) hrow
  obtain ⟨r, -, hend⟩ := deliver_keeps config now' ⟨event', .paymentIntentSucceeded c.intent⟩
    PaidCheckout.Settled.withClaims (fun _ => wp_intentSecond) hfirst
  exact hend.buyerHas

theorem intent_then_checkout (hc : c.Unreported w) (now now' : Time) (event event' : String)
    (hfresh : ¬ w.Claimed event') :
    (deliverAll config [c.intentReport now' event', c.checkoutReport now event] w).buyerHas c.row.userId =
      (w.purchased c.row.userId + config.granted (c.paid / 100), w.firstPurchaseFlag c.row.userId) := by
  obtain ⟨hstand, hrow⟩ := hc.stand
  have hfirst := deliver_fresh config now' ⟨event', .paymentIntentSucceeded c.intent⟩
    hfresh PaidCheckout.Settled.withClaims fun events =>
      wp_intentFirst (hc.withClaims events) (hstand.withClaims events) hrow
  obtain ⟨r, -, hend⟩ := deliver_keeps config now ⟨event, .checkoutSessionCompleted c.session⟩
    PaidCheckout.Settled.withClaims (fun _ => wp_checkoutSecond hc) hfirst
  exact hend.buyerHas

/-- **The order of the reports does not matter if and only if** the buyer has made a first purchase before and the
    session's credits are the cents that were paid. -/
theorem webhook_order_iff (config : PaymentConfig) (c : PaidCheckout) (w : World) (hc : c.Unreported w)
    (t₁ t₂ t₃ t₄ : Time) (event event' : String) (hfresh : ¬ w.Claimed event) (hfresh' : ¬ w.Claimed event') :
    (deliverAll config [c.checkoutReport t₁ event, c.intentReport t₂ event'] w).buyerHas c.row.userId =
        (deliverAll config [c.intentReport t₃ event', c.checkoutReport t₄ event] w).buyerHas c.row.userId ↔
      w.firstPurchaseFlag c.row.userId = some true ∧ c.credits = c.paid := by
  rw [checkout_then_intent hc t₁ t₂ event event' hfresh, intent_then_checkout hc t₄ t₃ event event' hfresh',
    Prod.mk.injEq]
  constructor
  · rintro ⟨hamount, hflag⟩
    refine ⟨hflag.symm, ?_⟩
    rw [topupBonus, if_neg (fun hb => hb.1 hflag.symm), add_zero, add_left_cancel_iff] at hamount
    exact config.granted_inj.mp hamount
  · rintro ⟨hflag, heq⟩
    rw [topupBonus, if_neg (fun hb => hb.1 hflag), add_zero, hflag, heq]
    exact ⟨rfl, rfl⟩

end Orders

/-- The payment of 10 dollars by user 1. -/
def tenDollars : PaidCheckout where
  session := paidSession
  intent := { id := "pi_1" }
  row :=
    { id := 1, userId := 1, amountUsd := 10, amountCents := 1000, creditsPurchased := 1000,
      stripePaymentIntentId := some "pi_1", stripeCheckoutSessionId := some "cs_1" }
  credits := 1000
  paid := 1000

theorem webhook_order_iff_tenDollars :
    (deliverAll {} [tenDollars.checkoutReport 0 "evt_1", tenDollars.intentReport 1 "evt_2"] onePayment).buyerHas 1 =
        (deliverAll {} [tenDollars.intentReport 0 "evt_2", tenDollars.checkoutReport 1 "evt_1"] onePayment).buyerHas 1 ↔
      onePayment.firstPurchaseFlag 1 = some true ∧ tenDollars.credits = tenDollars.paid :=
  webhook_order_iff {} tenDollars onePayment (by decide +kernel) 0 1 0 1 "evt_1" "evt_2" (by decide +kernel)
    (by decide +kernel)

/-- A first purchase of 10 dollars: 15 dollars and the flag if the checkout report comes first, and else 10 dollars and
    no flag. -/
theorem webhook_order_matters :
    tenDollars.Unreported onePayment ∧
      (deliverAll {} [tenDollars.checkoutReport 0 "evt_1", tenDollars.intentReport 1 "evt_2"] onePayment).buyerHas 1 =
        (15, some true) ∧
      (deliverAll {} [tenDollars.intentReport 0 "evt_2", tenDollars.checkoutReport 1 "evt_1"] onePayment).buyerHas 1 =
        (10, none) := by
  decide +kernel

end Gatewayz
