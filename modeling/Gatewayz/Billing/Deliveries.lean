import Gatewayz.Billing.PaymentRules

/-!
# `Billing.Deliveries` — one delivery after the other

A sequence of deliveries, each alone on the database, with what the link does to its statements.

The rules of the second part are about **served** deliveries, whose statements are all carried out and answered. A
program then does what its statements do one after the other (`wp_stmt_served`), and the delivery of an event that has not
been claimed does what its handler does (`deliver_fresh`).
-/

namespace Gatewayz

open Exec

/-! ## Deliveries one after the other -/

/-- A delivery: when, of which event, and what the link does with its statements. -/
structure DeliveryRun where
  now : Time
  event : Event
  link : List (Outcome PyErr)

def DeliveryRun.after (config : PaymentConfig) (d : DeliveryRun) (w : World) : World :=
  ((handleWebhook config d.now d.event).run exec d.link w).2.2

def deliverAll (config : PaymentConfig) : List DeliveryRun → World → World
  | [], w => w
  | d :: ds, w => deliverAll config ds (d.after config w)

/-! ## Served runs -/

abbrev servedRun : Setting PyErr Stmt Res Unit World := unnoted fun _ _ o _ => o = .served

section Served

variable {α : Type} {Q : α → World → Prop} {E : PyErr → World → Prop} {w : World}

theorem admits_served (p : DbProg α) (w : World) : p.Admits servedRun [] () w := by
  induction p generalizing w with
  | ret a => trivial
  | fail e => trivial
  | ask s k ih => exact ⟨rfl, ih _ _⟩

theorem wp_stmt_served {s : Stmt} {Q : Res s → Unit → World → Prop} {E : PyErr → Unit → World → Prop}
    (h : Answered (fun a => Q a () (exec s w).2) (fun e => E e () (exec s w).2) (exec s w).1) :
    (query s).wp servedRun .alone Q E () w := by
  refine wp_alone_stmt (C := servedRun) fun o ho => ?_
  subst ho
  exact h

theorem steady_served (P : World → Prop) :
    Steady (fun _ _ _ _ _ => ()) (fun _ _ o _ => o = .served) .alone fun (_ : Unit) => P where
  rely := fun _ _ _ hr h => hr ▸ h
  read := fun _ _ _ _ _ _ _ h => ⟨trivial, h⟩

variable {P : World → Prop} {p : DbProg α}

theorem wp_served_only {S : Stmt → Prop} (hP : ∀ s, S s → ∀ w, P w → P (exec s w).2) (hp : p.Only S) (h : P w) :
    p.wp servedRun .alone (fun _ _ => P) (fun _ _ => P) () w := by
  refine wp_of_only (C := servedRun) (fun _ _ _ hr h => hr ▸ h) (fun s hs g o w _ ho h => ?_) hp h
  cases ho
  exact ⟨trivial, trivial, hP s hs w h⟩

theorem not_mayFail_served (s : Stmt) : ¬ MayFail (fun (_ : Unit) _ o _ => o = .served) s := by
  rintro ⟨_, o, _, hne, ho⟩
  exact hne ho

theorem run_served (h : p.wp servedRun .alone (fun a _ => Q a) (fun e _ => E e) () w) :
    Answered (fun a => Q a (p.run exec [] w).2.2) (fun e => E e (p.run exec [] w).2.2) (p.run exec [] w).1 := by
  obtain ⟨-, hend⟩ := wp_run_alone h (admits_served p w)
  exact hend

theorem run_served_end (h : p.wp servedRun .alone (fun _ _ => P) (fun _ _ => P) () w) : P (p.run exec [] w).2.2 := by
  have hend := run_served (Q := fun _ => P) (E := fun _ => P) h
  revert hend
  cases (p.run exec [] w).1 with
  | ok a => exact id
  | error e => exact id

variable (config : PaymentConfig)

/-- The delivery of an event that has not been claimed: the claim, the handler, and the release if it raises. -/
theorem deliver_fresh (now : Time) (event : Event) (hfresh : ¬ w.Claimed event.id)
    (hclaims : ∀ w events, P w → P { w with webhookEvents := events })
    (h : ∀ events, (event.data.handler config now).wp servedRun .alone (fun _ _ => P) (fun _ _ => P) ()
      { w with webhookEvents := events }) :
    P ((handleWebhook config now event).run exec [] w).2.2 := by
  have hrelease : ∀ w, P w → P (exec (.deleteWebhookEvent event.id) w).2 := fun w hp => hclaims w _ hp
  have hunder : ∀ claim events, (underClaim claim event (event.data.handler config now)).wp servedRun .alone
      (fun _ _ => P) (fun _ _ => P) () { w with webhookEvents := events } := by
    intro claim events
    simp only [underClaim, wp_bind, wp_tryCatch]
    refine wp_mono (fun _ _ _ hp => hp) (fun e _ w' hp => ?_) (h events)
    cases claim with
    | claimed =>
      simp only [Claim.giveBack, releaseEvent, wp_bind, wp_tryCatch]
      refine wp_mono (fun _ _ _ hp => hp) (fun _ _ _ hp => hp)
        (wp_served_only (S := (· = .deleteWebhookEvent event.id)) ?_ (only_executeWithRetry ?_ 2) hp)
      · rintro _ rfl w hp
        exact hrelease w hp
      · exact (only_stmt _).mpr rfl
    | duplicate => exact hp
    | unavailable => exact hp
  refine run_served_end ?_
  unfold handleWebhook withClaim claimEvent executeWithRetry
  simp only [wp_bind, wp_tryCatch]
  refine wp_stmt_served ?_
  -- the insert is refused only for a user id out of range, and then the event is handled without a claim
  simp only [exec, insertWebhookEventRow]
  split
  · have hrange : isConnectionError outOfRange = false ∧ isDuplicateError outOfRange = false := by decide +kernel
    simp only [answered_error, hrange.1, Bool.false_eq_true, if_false, Prog.throw_eq, wp_fail, hrange.2, Prog.pure_eq,
      wp_ret]
    exact hunder .unavailable w.webhookEvents
  · have hnew : ¬(w.webhookEvents.any fun r => r.eventId = event.claimRow.eventId) = true := by
      rw [List.any_eq_true]
      rintro ⟨r, hr, hid⟩
      exact hfresh ⟨r, hr, of_decide_eq_true hid⟩
    rw [if_neg hnew]
    exact hunder .claimed _

/-- Any delivery, of a new event or of a known one, keeps what its handler keeps. -/
theorem deliver_keeps (now : Time) (event : Event) (hclaims : ∀ w events, P w → P { w with webhookEvents := events })
    (h : ∀ w, P w → (event.data.handler config now).wp servedRun .alone (fun _ _ => P) (fun _ _ => P) () w)
    (hw : P w) : P ((handleWebhook config now event).run exec [] w).2.2 := by
  have hkept : Kept (fun _ _ _ _ _ => ()) (fun _ _ o _ => o = .served) .alone Stmt.OnClaims fun (_ : Unit) => P := by
    refine ⟨fun _ _ _ hr h => hr ▸ h, fun s hs _ o w _ ho hp => ⟨trivial, trivial, ?_⟩⟩
    cases ho
    cases s with
    | insertWebhookEvent e =>
      show P (insertWebhookEventRow e w).2
      rcases insertWebhookEventRow_cases e w with ⟨err, he⟩ | he
      · rw [he]; exact hp
      · rw [he]; exact hclaims w _ hp
    | deleteWebhookEvent id => exact hclaims w _ hp
    | _ => exact hs.elim
  refine run_served_end ?_
  exact wp_withClaim (J := fun _ => P) hkept hkept (fun _ w hp => h w hp) (fun _ _ hp => hp) hw fun _ _ hp => hp

/-- A delivery claims its own event only. -/
theorem deliver_claimed (now : Time) (event : Event) {id : String}
    (hclaimed : ((handleWebhook config now event).run exec [] w).2.2.Claimed id) : w.Claimed id ∨ id = event.id := by
  let own : Stmt → Prop := fun s => s.ClaimFree ∨ s = .insertWebhookEvent event.claimRow ∨ s = .deleteWebhookEvent event.id
  have honly : (handleWebhook config now event).Only own := by
    have hhandler : (event.data.handler config now).Only own :=
      only_mono (fun _ hs => .inl hs) (EventData.handler_claimFree config now event.data)
    have hrelease : (releaseEvent event.id).Only own :=
      only_tryCatch (only_executeWithRetry (only_query (.inr (.inr rfl))) 2) fun _ => only_ret _
    have hunder : ∀ claim, (underClaim claim event (event.data.handler config now)).Only own := by
      intro claim
      refine only_bind (only_tryCatch hhandler fun e => ?_) fun _ => only_ret _
      cases claim with
      | claimed => exact only_bind hrelease fun _ => only_fail _
      | duplicate => exact only_fail _
      | unavailable => exact only_fail _
    refine only_bind ?_ fun claim => ?_
    · exact only_tryCatch (only_bind (only_executeWithRetry (only_query (.inr (.inl rfl))) 2) fun _ => only_ret _)
        fun _ => only_ret _
    · cases claim with
      | duplicate => exact only_ret _
      | claimed => exact hunder .claimed
      | unavailable => exact hunder .unavailable
  have hstep : ∀ s, own s → ∀ w', (w'.Claimed id → w.Claimed id ∨ id = event.id) →
      ((exec s w').2.Claimed id → w.Claimed id ∨ id = event.id) := by
    rintro s (hfree | rfl | rfl) w' h hafter
    · refine h ?_
      unfold World.Claimed at hafter ⊢
      rwa [exec_claimFree hfree] at hafter
    · simp only [exec] at hafter
      rcases insertWebhookEventRow_cases event.claimRow w' with ⟨e, he⟩ | he
      · rw [he] at hafter
        exact h hafter
      · rw [he] at hafter
        obtain ⟨r, hr, hid⟩ := hafter
        rcases List.mem_append.mp hr with hr | hr
        · exact h ⟨r, hr, hid⟩
        · rw [List.mem_singleton] at hr
          exact .inr (by rw [← hid, hr]; rfl)
    · obtain ⟨r, hr, hid⟩ := hafter
      exact h ⟨r, (List.mem_filter.mp hr).1, hid⟩
  exact run_served_end (wp_served_only hstep honly (P := fun w' => w'.Claimed id → _) .inl) hclaimed

/-! ### The payment functions -/

theorem wp_getPayment_served {id : Int} {Q : Option Payment → Unit → World → Prop} {E : PyErr → Unit → World → Prop}
    (h : Q (w.payment? id) () w) : (getPayment id).wp servedRun .alone Q E () w := by
  refine wp_getPayment (steady_served (· = w)) rfl ?_ fun hfail => absurd hfail (not_mayFail_served _)
  rintro _ w' rfl
  exact h

theorem wp_getPaymentByStripeIntent_served {id : String} {Q : Option Payment → Unit → World → Prop}
    {E : PyErr → Unit → World → Prop} (h : Q (w.paymentByStripeId id) () w) :
    (getPaymentByStripeIntent id).wp servedRun .alone Q E () w := by
  unfold getPaymentByStripeIntent
  simp only [wp_tryCatch, wp_bind]
  refine wp_stmt_served ?_
  unfold World.paymentByStripeId at h
  simp only [exec, answered_ok]
  cases hfound : w.payments.find? fun p => p.stripePaymentIntentId = some id with
  | some p =>
    rw [hfound] at h
    exact h
  | none =>
    rw [hfound] at h
    exact wp_stmt_served h

theorem wp_updatePaymentStatus_served {id : Int} {status : PaymentStatus} {intent session : Option String}
    {Q : Option Payment → Unit → World → Prop} {E : PyErr → Unit → World → Prop}
    (h : ∀ a, Q a () (exec (.updatePayment id
      { status := status, stripePaymentIntentId := nonempty intent, stripeCheckoutSessionId := nonempty session }) w).2) :
    (updatePaymentStatus id status intent session).wp servedRun .alone Q E () w := by
  unfold updatePaymentStatus executeWithRetry
  simp only [wp_tryCatch]
  exact wp_stmt_served (h _)

theorem wp_addCreditsToUser_served {p : AddCreditsParams} {Q : Unit → Unit → World → Prop}
    {E : PyErr → Unit → World → Prop} (hpos : 0 < p.credits) (hs : (atomicAddCredits p.forRpc w).1.success = true)
    (h : Q () () (atomicAddCredits p.forRpc w).2) : (addCreditsToUser p).wp servedRun .alone Q E () w := by
  refine wp_addCreditsToUser_available (wp_stmt_served ⟨fun _ => h, fun hno => ?_⟩) fun hno => absurd hpos (not_lt.mpr hno)
  rw [hs] at hno
  cases hno

end Served

end Gatewayz
