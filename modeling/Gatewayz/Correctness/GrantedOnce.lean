import Gatewayz.Billing.PaymentRules
import Gatewayz.Exec.Pool
import Mathlib.Data.Fintype.Basic

/-!
# `Correctness.GrantedOnce` — one purchase grant per payment

The two handlers of a payment and the reconciliation from the status page all check the status first, and the check
may be stale in every one of them. What is left is the unique index over the purchase rows of a payment, and that
`atomic_add_credits` undoes its update when the index refuses the row.

`granted_once` holds for any number of activities on any payments, in every order of their statements and under
every fault but one: the procedure is there.
-/

namespace Gatewayz

open Exec

variable {ι : Type}

/-! ## Activities -/

inductive PaymentNotice where
  | checkoutCompleted (session : CheckoutSession)
  | paymentSucceeded (intent : PaymentIntent)
  | paymentFailed (intent : PaymentIntent)

def PaymentNotice.data : PaymentNotice → EventData
  | .checkoutCompleted session => .checkoutSessionCompleted session
  | .paymentSucceeded intent => .paymentIntentSucceeded intent
  | .paymentFailed intent => .paymentIntentPaymentFailed intent

/-- What is done about a payment: a delivery, a reconciliation, or the status write at the end of a request. -/
inductive PaymentActivity where
  | delivery (eventId : String) (notice : PaymentNotice)
  | reconcile (session : CheckoutSession)
  | created (paymentId : Int) (intentId sessionId : Option String)

namespace PaymentActivity

/-- The activity; its result says whether a handler ran to its end. -/
def prog (config : PaymentConfig) (now : Time) : PaymentActivity → DbProg Bool
  | .delivery eventId notice => do
    let event : Event := ⟨eventId, notice.data⟩
    let result ← handleWebhook config now event
    pure (result = event.processedResult)
  | .reconcile session => reconcileCheckoutSession config now session
  | .created paymentId intentId sessionId => do
    let _ ← updatePaymentStatus paymentId .pending intentId sessionId
    pure false

def session? : PaymentActivity → Option CheckoutSession
  | .delivery _ (.checkoutCompleted session) => some session
  | .reconcile session => some session
  | _ => none

def Known (a : PaymentActivity) (w : World) : Prop := ∀ c ∈ a.session?, c.Known w

instance (a : PaymentActivity) (w : World) : Decidable (a.Known w) :=
  inferInstanceAs (Decidable (∀ c ∈ _, _))

end PaymentActivity

abbrev ActivityPool (ι γ : Type) := Pool ι PyErr Stmt Res γ Bool

def activityPool (config : PaymentConfig) (now : ι → Time) (acts : ι → PaymentActivity) : ActivityPool ι Unit :=
  Pool.start () fun i => (acts i).prog config (now i)

/-! ## The law -/

def ProcedureServed (s : Stmt) (o : Outcome PyErr) : Prop :=
  match s with
  | .rpcAtomicAddCredits _ => o = .served
  | _ => True

instance (s : Stmt) (o : Outcome PyErr) : Decidable (ProcedureServed s o) := by
  apply @Stmt.casesOn (fun s => Decidable (ProcedureServed s o)) s <;> intros <;> unfold ProcedureServed <;>
    infer_instance

abbrev procedureRun : Setting PyErr Stmt Res Unit World := unnoted fun _ s o _ => ProcedureServed s o

/-- A purchase grant for the payment that changes a balance. A write of the legacy path does not say what it is
    for, so each of them counts. -/
def GrantsFor (p : Int) (x : Entry ι Stmt World) : Prop :=
  (∃ u, x.after.balance u ≠ x.before.balance u) ∧
    match x.stmt with
    | .rpcAtomicAddCredits q => q.transactionType = .purchase ∧ q.paymentId = some p
    | .updateUser _ patch | .updateUserIf _ _ _ patch => ¬ patch.KeepsBalance
    | _ => False

/-! ## Every balance write is the procedure's -/

def Stmt.ByProcedure : Stmt → Prop
  | .updateUser _ patch | .updateUserIf _ _ _ patch => patch.KeepsBalance
  | .insertTransaction _ => False
  | _ => True

theorem byProcedure_of_reads {s : Stmt} (h : s.Reads) : s.ByProcedure := by
  cases s <;> trivial

/-- What the activities rely on: rows of `payments` stay, and Stripe's objects are as they were. -/
def SameObjects (w w' : World) : Prop := PaymentsStay w w' ∧ w'.stripe = w.stripe

theorem SameObjects.refl (w : World) : SameObjects w w := ⟨fun _ h => h, rfl⟩
theorem SameObjects.trans {a b c : World} (h : SameObjects a b) (h' : SameObjects b c) : SameObjects a c :=
  ⟨fun q hq => h'.1 q (h.1 q hq), h'.2.trans h.2⟩

theorem sameObjects_answer {s : Stmt} (h : s.KeepsStripe) (o : Outcome PyErr) (w : World) :
    SameObjects w (answer exec s o w).2 := ⟨answer_paymentsStay s o w, answer_keepsStripe h o w⟩

def byProcedure : Contract Stmt World where
  inv _ := True
  rely := SameObjects
  guar s w w' := s.ByProcedure ∧ SameObjects w w'

abbrev Since (w₀ : World) : Unit → World → Prop := fun _ w => SameObjects w₀ w

theorem steady_since (w₀ : World) :
    Steady (fun _ _ _ _ _ => ()) (fun _ s o _ => ProcedureServed s o) byProcedure (Since w₀) where
  rely := fun _ _ _ hr h => SameObjects.trans h hr
  read := fun _ hs _ _ w _ _ h => ⟨⟨byProcedure_of_reads hs, .refl w⟩, h⟩

def Stmt.Plain (s : Stmt) : Prop := s.ByProcedure ∧ s.KeepsStripe

section Activities

variable {w₀ : World} {config : PaymentConfig} {now : Time}

theorem kept_since : Kept (fun _ _ _ _ _ => ()) (fun _ s o _ => ProcedureServed s o) byProcedure Stmt.Plain (Since w₀)
    where
  rely := (steady_since w₀).rely
  step := fun s hs _ o w _ _ hj => by
    have hsame := sameObjects_answer hs.2 o w
    exact ⟨trivial, ⟨hs.1, hsame⟩, SameObjects.trans hj hsame⟩

variable {g : Unit} {w : World}

theorem wp_plain {α : Type} {p : DbProg α} (hp : p.Only Stmt.Plain) (h : Since w₀ g w) :
    p.wp procedureRun byProcedure (fun _ => Since w₀) (fun _ => Since w₀) g w := kept_since.wp hp h

theorem wp_grant {p : AddCreditsParams} (h : Since w₀ g w) (hpay : ∀ q, p.paymentId = some q → (w.payment? q).isSome) :
    (addCreditsToUser p).wp procedureRun byProcedure (fun _ => Since w₀) (fun _ => Since w₀) g w := by
  by_cases hpos : p.credits ≤ 0
  · unfold addCreditsToUser
    rw [if_pos hpos]
    exact h
  refine wp_addCreditsToUser_available ?_ fun hcredits => absurd hcredits hpos
  refine wp_stmt (C := procedureRun) fun w₁ hr _ o ho => ?_
  obtain rfl : o = .served := ho
  have hsame := sameObjects_answer (s := .rpcAtomicAddCredits p.forRpc) trivial .served w₁
  have hj := SameObjects.trans (SameObjects.trans h hr) hsame
  refine ⟨trivial, ⟨trivial, hsame⟩, ?_⟩
  simp only [answer_served, exec, answered_ok] at hj ⊢
  rcases atomicAddCredits_available (p := p.forRpc) hpos (fun q hq => hr.1 q (hpay q hq)) with hyes | ⟨-, hno⟩
  · exact ⟨fun _ => hj, fun hfalse => by rw [hyes] at hfalse; cases hfalse⟩
  · rw [hno]
    exact ⟨(fun h => by cases h), fun _ => ⟨rfl, fun _ => hj⟩⟩

theorem clearTrialStatus_plain (u : Int) : (clearTrialStatus u).Only Stmt.Plain :=
  clearTrialStatus_only ⟨trivial, trivial⟩ ⟨⟨rfl, rfl⟩, trivial⟩ fun _ => ⟨trivial, trivial⟩

theorem wp_firstTopupBonus (r : ResolvedCheckout) (h : Since w₀ g w) :
    (r.firstTopupBonus now).wp procedureRun byProcedure (fun _ => Since w₀) (fun _ => Since w₀) g w := by
  refine wp_swallow ?_
  rw [wp_bind]
  have hselect : (query (.selectUser r.userId)).Only Stmt.Plain := only_query ⟨trivial, trivial⟩
  refine wp_mono ?_ (fun _ _ _ he => he) (wp_plain hselect h)
  intro user g₁ w₁ hj₁
  split
  · exact hj₁
  split
  · exact hj₁
  rw [wp_bind]
  have hbonus : (r.grantBonus now).wp procedureRun byProcedure (fun _ => Since w₀) (fun _ => Since w₀) g₁ w₁ := by
    unfold ResolvedCheckout.grantBonus
    split
    · exact wp_grant hj₁ nofun
    · exact hj₁
  have hmark : (query (.updateUser r.userId { hasMadeFirstPurchase := some true })).Only Stmt.Plain :=
    only_query ⟨⟨rfl, rfl⟩, trivial⟩
  refine wp_post (fun _ g₂ w₂ hj₂ => ?_) hbonus
  exact wp_plain (only_bind hmark fun _ => only_ret _) hj₂

/-- A resolved checkout is settled through the procedure. -/
theorem wp_settle (r : ResolvedCheckout) (h : Since w₀ g w) (hpay : (w.payment? r.paymentId).isSome) :
    (r.settle config now).wp procedureRun byProcedure (fun _ => Since w₀) (fun _ => Since w₀) g w := by
  -- the payment stays while the checkout is settled
  have hfrom : ∀ {α : Type} {p : DbProg α},
      p.wp procedureRun byProcedure (fun _ => Since w) (fun _ => Since w) g w →
      p.wp procedureRun byProcedure (fun _ => Since w₀) (fun _ => Since w₀) g w := fun hp =>
    wp_mono (fun _ _ _ hj => h.trans hj) (fun _ _ _ hj => h.trans hj) hp
  refine hfrom ?_
  unfold ResolvedCheckout.settle
  rw [wp_bind]
  refine wp_mono ?_ (fun _ _ _ he => he) (wp_plain (getPayment_only ⟨trivial, trivial⟩) (SameObjects.refl w))
  intro existing g₁ w₁ hj₁
  split
  · exact hj₁
  simp only [ResolvedCheckout.grant, wp_bind]
  refine wp_mono ?_ (fun _ _ _ he => he) (wp_grant hj₁ fun q hq => ?_)
  · intro _ g₂ w₂ hj₂
    have hstatus : (updatePaymentStatus r.paymentId .completed r.paymentIntentId r.sessionId).Only Stmt.Plain :=
      updatePaymentStatus_only ⟨trivial, trivial⟩
    refine wp_mono ?_ (fun _ _ _ he => he) (wp_plain (only_bind hstatus fun _ => only_ret _) hj₂)
    intro _ g₃ w₃ hj₃
    rw [wp_bind]
    refine wp_mono ?_ (fun _ _ _ he => he) (wp_plain (clearTrialStatus_plain r.userId) hj₃)
    exact fun _ g₄ w₄ hj₄ => wp_firstTopupBonus r hj₄
  · cases hq
    exact hj₁.1 _ hpay

theorem wp_insertPayment (p : Payment) (h : Since w₀ g w) : (query (.insertPayment p)).wp procedureRun byProcedure
      (fun row g' w' => Since w₀ g' w' ∧ (w'.payment? row.id).isSome) (fun _ => Since w₀) g w := by
  refine wp_stmt (C := procedureRun) fun w₁ hr _ o _ => ?_
  have hsame := sameObjects_answer (s := .insertPayment p) trivial o w₁
  have hj := SameObjects.trans (SameObjects.trans h hr) hsame
  refine ⟨trivial, ⟨trivial, hsame⟩, ?_⟩
  cases o with
  | dropped e => exact hj
  | lost e => exact hj
  | served =>
    simp only [answer_served, exec] at hj ⊢
    rcases insertPaymentRow_cases p w₁ with ⟨e, he⟩ | ⟨-, he⟩
    · rw [he] at hj ⊢
      exact hj
    · rw [he] at hj ⊢
      exact ⟨hj, World.payment?_of_mem (by simp)⟩

theorem wp_handleCheckoutCompleted {session : CheckoutSession} (hknown : session.Known w₀) (h : Since w₀ g w) :
    (handleCheckoutCompleted config now session).wp procedureRun byProcedure (fun _ => Since w₀) (fun _ => Since w₀)
      g w := by
  unfold handleCheckoutCompleted
  rw [wp_bind]
  rcases hknown with ⟨q, hq, hrow⟩ | ⟨hsession, hstripe⟩
  · refine wp_resolveCheckout (steady_since w₀) (names_of_mem hq) h (fun _ _ _ hj => hj) ?_ (fun _ _ _ hj => hj)
    intro _ r hr g₁ w₁ hj₁
    exact wp_settle r hj₁ (hr.paymentId ▸ hj₁.1 q hrow)
  · refine wp_resolveCheckout_known (steady_since w₀) (fun _ _ hr => hr.1) ?_ h (fun p _ _ hj => wp_insertPayment p hj)
      (fun _ _ hj => hj) ?_ (fun _ _ _ hj => hj)
    · exact fun _ w hj => ⟨hstripe.stay hj.1 hj.2, hsession.stay hj.1⟩
    · exact fun r g₁ w₁ hj₁ hpay => wp_settle r hj₁ hpay

theorem wp_handlePaymentSucceeded (intent : PaymentIntent) (h : Since w₀ g w) :
    (handlePaymentSucceeded config now intent).wp procedureRun byProcedure (fun _ => Since w₀) (fun _ => Since w₀)
      g w := by
  refine wp_swallow ?_
  rw [wp_bind]
  have hrow : ∀ (p : Payment) (g' : Unit) (w' : World), Since w₀ g' w' → p ∈ w'.payments →
      Prog.wp procedureRun byProcedure (fun _ => Since w₀) (fun _ => Since w₀)
        (if p.status = .completed then pure ()
          else do
            let _ ← updatePaymentStatus p.id .completed none none
            addCreditsToUser (p.purchase config now intent.id)) g' w' := by
    intro p g' w' hj hp
    split
    · exact hj
    rw [wp_bind]
    have hplain : (updatePaymentStatus p.id .completed none none).Only Stmt.Plain :=
      updatePaymentStatus_only ⟨trivial, trivial⟩
    have hsince : Since w' g' w' := SameObjects.refl w'
    have hstay := wp_plain hplain hsince
    refine wp_mono ?_ (fun _ _ _ he => hj.trans he) hstay
    intro _ g₁ w₁ hj₁
    refine wp_grant (hj.trans hj₁) fun q hq => ?_
    cases hq
    exact hj₁.1 _ (World.payment?_of_mem hp)
  refine wp_getPaymentByStripeIntent (steady_since w₀) h ?_ ?_ fun _ _ hj _ => hj
  · exact fun p g' w' hj hfound _ => hrow p g' w' hj (List.mem_of_find?_eq_some hfound)
  · intro row g' w' hj hfound _
    cases row with
    | none => exact hj
    | some p => exact hrow p g' w' hj (List.mem_of_find?_eq_some hfound)

/-- Every activity writes balances through the procedure only. -/
theorem activity_byProcedure {a : PaymentActivity} (ha : a.Known w₀) (h : Since w₀ g w) :
    (a.prog config now).wp procedureRun byProcedure (fun _ => Since w₀) (fun _ => Since w₀) g w := by
  cases a with
  | delivery eventId notice =>
    simp only [PaymentActivity.prog, handleWebhook, wp_bind]
    have hclaims : Kept (fun _ _ _ _ _ => ()) (fun _ s o _ => ProcedureServed s o) byProcedure Stmt.OnClaims
        (Since w₀) :=
      kept_since.mono fun s hs => ⟨by cases s <;> trivial, by cases s <;> trivial⟩
    refine wp_withClaim hclaims hclaims (fun g' w' hj => ?_) (fun _ _ hj => hj) h fun _ _ hj => hj
    cases notice with
    | checkoutCompleted session => exact wp_handleCheckoutCompleted (ha session rfl) hj
    | paymentSucceeded intent => exact wp_handlePaymentSucceeded intent hj
    | paymentFailed intent =>
      refine wp_plain (only_swallow (only_bind ?_ fun payment => ?_)) hj
      · exact getPaymentByStripeIntent_only ⟨trivial, trivial⟩ ⟨trivial, trivial⟩
      · split
        · exact only_ret _
        · exact only_bind (updatePaymentStatus_only ⟨trivial, trivial⟩) fun _ => only_ret _
  | created paymentId intentId sessionId =>
    exact wp_plain (only_bind (updatePaymentStatus_only ⟨trivial, trivial⟩) fun _ => only_ret _) h
  | reconcile session =>
    simp only [PaymentActivity.prog, reconcileCheckoutSession, wp_bind]
    refine wp_mono ?_ (fun _ _ _ he => he) (wp_plain (hydrateCheckoutSessionMetadata_only
      (fun _ => ⟨trivial, trivial⟩) fun _ => ⟨trivial, trivial⟩) h)
    rintro ⟨_, metadata⟩ g₁ w₁ hj₁
    split
    · exact hj₁
    split
    · exact hj₁
    simp only [wp_bind]
    refine wp_mono ?_ (fun _ _ _ he => he) (wp_plain (getPayment_only ⟨trivial, trivial⟩) hj₁)
    intro existing g₂ w₂ hj₂
    split
    · exact hj₂
    simp only [wp_bind]
    exact wp_handleCheckoutCompleted (ha session rfl) hj₂

end Activities

/-! ## Whole runs -/

theorem activities_compatible (w₀ : World) :
    Pool.Compatible (fun _ : ι => byProcedure) (fun _ => True) (fun _ (_ : Bool) => Since w₀)
      (fun _ (_ : PyErr) => Since w₀) where
  inv := fun _ => rfl
  refl := fun _ w => SameObjects.refl w
  trans := fun _ _ _ _ h h' => SameObjects.trans h h'
  result := fun _ _ _ _ _ hr h => SameObjects.trans h hr
  raise := fun _ _ _ _ _ hr h => SameObjects.trans h hr
  fits := fun _ _ _ _ _ _ _ _ hg => hg.2

theorem grantsFor_first {p : Int} {x : Entry ι Stmt World} (hby : x.stmt.ByProcedure)
    (hx : ∃ o, x.after = (answer exec x.stmt o x.before).2) (h : GrantsFor p x) :
    x.before.hasPurchase p = false ∧ x.after.hasPurchase p = true := by
  obtain ⟨who, s, before, after⟩ := x
  obtain ⟨⟨u, hchange⟩, hkind⟩ := h
  obtain ⟨o, hx⟩ := hx
  simp only at hby hkind hchange hx ⊢
  subst hx
  cases s with
  | rpcAtomicAddCredits q =>
    cases o with
    | dropped e => exact absurd rfl hchange
    | served => exact purchase_first hkind.1 hkind.2 fun hsame => hchange (by simp only [answer_served, exec, hsame])
    | lost e => exact purchase_first hkind.1 hkind.2 fun hsame => hchange (by simp only [answer_lost, exec, hsame])
  | updateUser u patch => exact absurd hby hkind
  | updateUserIf u a p patch => exact absurd hby hkind
  | _ => exact hkind.elim

/-- **A payment is granted at most once**, in every order of any number of activities. -/
theorem granted_once [DecidableEq ι] (config : PaymentConfig) (now : ι → Time) (acts : ι → PaymentActivity) (w : World)
    (hacts : ∀ i, (acts i).Known w) (ts : Schedule ι PyErr)
    (hserved : Pool.Admits procedureRun ts (activityPool config now acts) w) (p : Int) :
    (Pool.log procedureRun ts (activityPool config now acts) w).Pairwise
      fun x y => ¬ (GrantsFor p x ∧ GrantsFor p y) := by
  have hsafe : Pool.Safe procedureRun (fun _ => byProcedure) (fun _ _ => Since w) (fun _ _ => Since w)
      (activityPool config now acts) w := fun i => activity_byProcedure (hacts i) (SameObjects.refl w)
  obtain ⟨-, -, hlog⟩ := Pool.pool_run (activities_compatible w) ts hsafe trivial hserved
  have honce := Pool.log_once (C := procedureRun) (P := fun w => w.hasPurchase p = true) (fun s o w hp => by
    obtain ⟨rows, hrows⟩ := answer_wrote s o w
    exact hrows.hasPurchase hp) ts (activityPool config now acts) w
  refine List.Pairwise.imp_of_mem ?_ honce
  rintro x y hx hy hnext ⟨hgx, hgy⟩
  have hafter := (grantsFor_first (hlog x hx).1 (Pool.log_answer ts hx) hgx).2
  have hbefore := (grantsFor_first (hlog y hy).1 (Pool.log_answer ts hy) hgy).1
  rw [hnext hafter] at hbefore
  cases hbefore

/-- The checkout is delivered under two ids and reconciled, and its intent is reported, all at once. -/
def fourWays : Fin 4 → PaymentActivity
  | 0 => .delivery "evt_1" (.checkoutCompleted paidSession)
  | 1 => .delivery "evt_2" (.checkoutCompleted paidSession)
  | 2 => .delivery "evt_3" (.paymentSucceeded { id := "pi_1" })
  | 3 => .reconcile paidSession

theorem granted_once_fourWays :
    (Pool.log procedureRun ((List.replicate 12 ([0, 1, 2, 3].map fun i => (i, .served))).flatten)
      (activityPool {} (fun _ => 0) fourWays) onePayment).Pairwise fun x y => ¬ (GrantsFor 1 x ∧ GrantsFor 1 y) :=
  granted_once {} (fun _ => 0) fourWays onePayment (by decide +kernel) _ (by decide +kernel) 1

end Gatewayz
