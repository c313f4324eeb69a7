import Gatewayz.Billing.Deliveries

/-!
# `Correctness.PaidMeansCredited` — a completed payment has its grant

A sequence of deliveries of any events, one after the other, with any fault at any statement. After each of them,
every `payments` row with status `completed` should have its purchase in the ledger.

The checkout handler grants first and writes the status then, so a fault between the two is harmless. What can go
wrong there is the legacy path, which ends normally without its ledger row. `handlePaymentSucceeded` writes the
status first and swallows what happens to the grant: from the status write on there must not be a fault that the
grant does not survive.

`SparesGrant` is this condition, statement by statement.
-/

namespace Gatewayz

open Exec

/-! ## The law -/

/-- Paid means credited: a completed payment has its purchase in the ledger. -/
def PaidMeansCredited (w : World) : Prop := ∀ row ∈ w.payments, row.status = .completed → w.hasPurchase row.id = true

instance (w : World) : Decidable (PaidMeansCredited w) := inferInstanceAs (Decidable (∀ row ∈ w.payments, _ → _))

def World.KeyIsOf (w : World) (key : Option String) (paymentId : Option Int) : Prop :=
  ∀ t ∈ key.bind w.transactionByRequestId, t.transactionType = .purchase ∧ t.paymentId = paymentId

instance (w : World) (key : Option String) (paymentId : Option Int) : Decidable (w.KeyIsOf key paymentId) :=
  inferInstanceAs (Decidable (∀ t ∈ _, _))

def World.Booked (w : World) (paymentId : Int) : Prop := w.hasPurchase paymentId = true ∨ w.payment? paymentId = none

instance (w : World) (paymentId : Int) : Decidable (w.Booked paymentId) := inferInstanceAs (Decidable (_ ∨ _))

/-- What must not happen to a statement, given how many inserts of the ledger row have failed in a row. -/
def SparesGrant (config : PaymentConfig) (failed : Nat) (s : Stmt) (o : Outcome PyErr) (w : World) : Prop :=
  match s with
  -- a status is not completed before the grant unless there is something to grant
  | .updatePayment id patch =>
    match o with
    | .dropped _ => True
    | _ =>
      patch.status = .completed → w.hasPurchase id = false →
        ∀ row ∈ w.payments, row.id = id → 0 < config.granted row.amountUsd
  -- a key is used for one payment
  | .rpcAtomicAddCredits p => p.transactionType = .purchase → w.KeyIsOf p.requestId p.paymentId
  -- nor does the last insert of the legacy path's row get lost
  | .insertTransaction t =>
    t.transactionType = .purchase → w.KeyIsOf t.requestId t.paymentId ∧
      ∀ q ∈ t.paymentId, w.Booked q ∨
        match o with
        | .dropped e => isConnectionError e = true ∧ failed < 2
        | _ => True
  -- once a status is ahead of its grant, the legacy path must get through
  | .selectUser u =>
    PaidMeansCredited w ∨
      o = .served ∧ ∀ row ∈ w.users u, row.subscriptionAllowance.isSome ∧ row.purchasedCredits.isSome
  | .updateUser _ _ => PaidMeansCredited w ∨ o = .served
  | _ => True

instance (config : PaymentConfig) (failed : Nat) (s : Stmt) (o : Outcome PyErr) (w : World) :
    Decidable (SparesGrant config failed s o w) := by
  apply @Stmt.casesOn (fun s => Decidable (SparesGrant config failed s o w)) s <;> intros <;>
    apply @Outcome.casesOn PyErr (fun o => Decidable (SparesGrant config failed _ o w)) o <;> intros <;>
    unfold SparesGrant <;> infer_instance

def failedInserts (failed : Nat) (s : Stmt) (r : Except PyErr (Res s)) (_ _ : World) : Nat :=
  match s, r.isOk with
  | .insertTransaction _, false => failed + 1
  | _, _ => 0

abbrev sparing (config : PaymentConfig) : Setting PyErr Stmt Res Nat World :=
  setting failedInserts (SparesGrant config)

def AllSpareGrants (config : PaymentConfig) : List DeliveryRun → World → Prop
  | [], _ => True
  | d :: ds, w =>
    (handleWebhook config d.now d.event).Admits (sparing config) d.link 0 w ∧
      AllSpareGrants config ds (d.after config w)

instance decidableAllSpareGrants (config : PaymentConfig) :
    ∀ (ds : List DeliveryRun) (w : World), Decidable (AllSpareGrants config ds w)
  | [], _ => .isTrue trivial
  | d :: ds, w =>
    have := decidableAllSpareGrants config ds (d.after config w)
    inferInstanceAs (Decidable (_ ∧ _))

/-! ## One row may be ahead of its grant -/

def PaidExcept (open_ : Option Int) (w : World) : Prop :=
  ∀ row ∈ w.payments, row.status = .completed → w.hasPurchase row.id = true ∨ open_ = some row.id

variable {w : World}

theorem paidExcept_none : PaidExcept none w ↔ PaidMeansCredited w := by
  refine ⟨fun h row hrow hs => ?_, fun h row hrow hs => .inl (h row hrow hs)⟩
  exact (h row hrow hs).resolve_right nofun

theorem PaidMeansCredited.except (h : PaidMeansCredited w) (open_ : Option Int) : PaidExcept open_ w :=
  fun row hrow hs => .inl (h row hrow hs)

theorem PaidExcept.close {q : Int} (h : PaidExcept (some q) w) (hq : w.Booked q) : PaidMeansCredited w := by
  intro row hrow hs
  rcases h row hrow hs with hp | heq
  · exact hp
  · cases heq
    refine hq.resolve_right fun hnone => ?_
    have hsome := World.payment?_of_mem hrow
    rw [hnone] at hsome
    cases hsome

theorem PaidExcept.open_row {q : Int} (h : PaidExcept (some q) w) (hnot : ¬ PaidMeansCredited w) :
    (w.payment? q).isSome := by
  rw [Option.isSome_iff_ne_none]
  exact fun hnone => hnot (h.close (.inr hnone))

def Stmt.CompletesOnly (open_ : Option Int) : Stmt → Prop
  | .updatePayment id patch => patch.status = .completed → open_ = some id
  | .insertPayment p => p.status ≠ .completed
  | _ => True

variable {open_ : Option Int} {s : Stmt}

theorem completesOnly_of_reads (h : s.Reads) : s.CompletesOnly open_ := by
  cases s <;> trivial

theorem completesOnly_of_subscription (h : s.OfSubscription) : s.CompletesOnly open_ := by
  cases s <;> trivial

theorem exec_hasPurchase (s : Stmt) {q : Int} (h : w.hasPurchase q = true) : (exec s w).2.hasPurchase q = true := by
  obtain ⟨rows, hrows⟩ := exec_wrote s w
  exact hrows.hasPurchase h

theorem exec_paidExcept (hs : s.CompletesOnly open_) (h : PaidExcept open_ w) : PaidExcept open_ (exec s w).2 := by
  have hold : ∀ row ∈ w.payments, row.status = .completed →
      (exec s w).2.hasPurchase row.id = true ∨ open_ = some row.id := fun row hrow hc =>
    (h row hrow hc).imp_left (exec_hasPurchase s)
  by_cases hkeeps : s.KeepsPayments
  · intro row hrow
    rw [exec_keepsPayments hkeeps] at hrow
    exact hold row hrow
  cases s with
  | insertPayment p =>
    revert hold
    simp only [exec]
    rcases insertPaymentRow_cases p w with ⟨e, he⟩ | ⟨-, he⟩
    · rw [he]
      exact fun _ => h
    · rw [he]
      intro hold row hrow hc
      rcases List.mem_append.mp hrow with hmem | hnew
      · exact hold row hmem hc
      · rw [List.mem_singleton.mp hnew] at hc
        exact absurd hc hs
  | updatePayment id patch =>
    intro row hrow hc
    obtain ⟨old, hmem, rfl⟩ := List.mem_map.mp hrow
    by_cases hid : old.id = id
    · rw [if_pos hid] at hc ⊢
      exact .inr (by rw [hs hc, PaymentPatch.apply_id, hid])
    · rw [if_neg hid] at hc ⊢
      exact hold old hmem hc
  | _ => exact absurd trivial hkeeps

theorem answer_paidExcept (hs : s.CompletesOnly open_) (o : Outcome PyErr) (h : PaidExcept open_ w) :
    PaidExcept open_ (answer exec s o w).2 := by
  cases o with
  | served => exact exec_paidExcept hs h
  | dropped e => exact h
  | lost e => exact exec_paidExcept hs h

/-! ## The ledger row of the legacy path -/

section Grant

variable {config : PaymentConfig} {q : Int}

variable {t : Transaction}

theorem exec_purchaseRow (htype : t.transactionType = .purchase) (hq : t.paymentId = some q)
    (huser : (w.users t.userId).isSome) (hkey : w.KeyIsOf t.requestId t.paymentId) :
    (exec (.insertTransaction t) w).2.Booked q := by
  simp only [exec, insertTransactionRow]
  split
  · rename_i e href
    by_cases hdup : e.kind = .apiError "23505"
    · rcases World.refusesTransaction_unique href hdup with ⟨r, hr, hsome⟩ | ⟨-, q', hq', hp⟩
      · obtain ⟨t', ht'⟩ := Option.isSome_iff_exists.mp hsome
        obtain ⟨hpurchase, hpay⟩ := hkey t' (by rw [hr]; exact ht')
        refine .inl (List.any_eq_true.mpr ⟨t', List.mem_of_find?_eq_some ht', ?_⟩)
        simp [hpurchase, hpay, hq]
      · rw [hq] at hq'
        cases hq'
        exact .inl hp
    · -- the user is there, so it is the payment that is not
      right
      unfold World.refusesTransaction at href
      rw [if_neg (by simpa [Option.isSome_iff_ne_none] using huser)] at href
      split at href
      · rename_i hnone
        simpa [hq] using hnone
      · repeat' split at href
        all_goals cases href
        all_goals exact absurd rfl hdup
  · exact .inl (by simp [World.hasPurchase, World.appendTransaction, World.storedTransaction, htype, hq])

/-- What the grant of a payment starts from: its row may be ahead, but then the grant can be made. -/
structure Grantable (q : Int) (userId : Int) (credits : ℚ) (w : World) : Prop where
  paid : PaidExcept (some q) w
  owned : w.PaymentsOwned
  possible : PaidMeansCredited w ∨ (w.users userId).isSome ∧ 0 < credits

structure Sound (w : World) : Prop where
  paid : PaidMeansCredited w
  owned : w.PaymentsOwned

variable {userId : Int} {credits : ℚ}

theorem Grantable.sound (h : Grantable q userId credits w) (hq : w.Booked q) : Sound w := ⟨h.paid.close hq, h.owned⟩

theorem Sound.answer (hs : s.CompletesOnly none) (o : Outcome PyErr) (h : Sound w) : Sound (answer exec s o w).2 :=
  ⟨paidExcept_none.mp (answer_paidExcept hs o (paidExcept_none.mpr h.paid)), answer_paymentsOwned s o h.owned⟩

theorem Grantable.answer (hs : s.CompletesOnly none) (o : Outcome PyErr)
    (h : Grantable q userId credits w) : Grantable q userId credits (answer exec s o w).2 := by
  have hsome : s.CompletesOnly (some q) := by
    cases s with
    | updatePayment id patch => exact fun hc => nomatch hs hc
    | insertPayment p => exact hs
    | _ => trivial
  refine ⟨answer_paidExcept hsome o h.paid, answer_paymentsOwned s o h.owned, ?_⟩
  rcases h.possible with hpaid | ⟨huser, hcredits⟩
  · exact .inl (Sound.answer hs o ⟨hpaid, h.owned⟩).paid
  · refine .inr ⟨?_, hcredits⟩
    cases o with
    | served => exact exec_usersStay s w huser
    | dropped e => exact huser
    | lost e => exact exec_usersStay s w huser

theorem Sound.grantable (h : Sound w) : Grantable q userId credits w :=
  ⟨h.paid.except _, h.owned, .inl h.paid⟩

variable {g : Nat}

/-- The insert with its retries books the purchase. -/
theorem wp_bookPurchase (htype : t.transactionType = .purchase) (hq : t.paymentId = some q)
    (retries : Nat) (h : Grantable q userId credits w) (huser : (w.users t.userId).isSome)
    (hleft : retries + g = 2 ∨ w.Booked q) :
    (executeWithRetry (query (.insertTransaction t)) retries).wp (sparing config) .alone
      (fun _ _ w' => Sound w' ∧ w'.Booked q) (fun _ _ w' => Sound w' ∧ w'.Booked q) g w := by
  -- one attempt: it ends with the purchase, or it is dropped and there are attempts left
  have hattempt : ∀ (g : Nat) (w : World) (o : Outcome PyErr), Grantable q userId credits w →
      (w.users t.userId).isSome → SparesGrant config g (.insertTransaction t) o w →
      (answer exec (.insertTransaction t) o w).2.Booked q ∨ ∃ e, o = .dropped e ∧ isConnectionError e = true ∧ g < 2 := by
    intro g w o _ huser ho
    obtain ⟨hkey, hlost⟩ := ho htype
    cases o with
    | served => exact .inl (exec_purchaseRow htype hq huser hkey)
    | lost e => exact .inl (exec_purchaseRow htype hq huser hkey)
    | dropped e => exact (hlost q hq).imp id fun hconn => ⟨e, rfl, hconn⟩
  have hdone : ∀ (o : Outcome PyErr) (w : World), Grantable q userId credits w →
      (answer exec (.insertTransaction t) o w).2.Booked q →
      Sound (answer exec (.insertTransaction t) o w).2 ∧ (answer exec (.insertTransaction t) o w).2.Booked q :=
    fun o w h hb => ⟨(h.answer (s := .insertTransaction t) trivial o).sound hb, hb⟩
  induction retries generalizing g w with
  | zero =>
    refine wp_alone_stmt (C := sparing config) fun o ho => ?_
    have hb : (answer exec (.insertTransaction t) o w).2.Booked q := by
      rcases hattempt g w o h huser ho with hb | ⟨e, rfl, -, hlt⟩
      · exact hb
      · exact hleft.resolve_left (by omega)
    have hs := hdone o w h hb
    cases hr : (answer exec (.insertTransaction t) o w).1 with
    | ok row => exact hs
    | error e => exact hs
  | succ retries ih =>
    simp only [executeWithRetry, wp_tryCatch]
    refine wp_alone_stmt (C := sparing config) fun o ho => ?_
    have hnext := h.answer (s := .insertTransaction t) trivial o
    have huser' : ((answer exec (.insertTransaction t) o w).2.users t.userId).isSome := by
      cases o with
      | served => exact exec_usersStay (.insertTransaction t) w huser
      | dropped e => exact huser
      | lost e => exact exec_usersStay (.insertTransaction t) w huser
    cases hr : (answer exec (.insertTransaction t) o w).1 with
    | ok row =>
      rcases hattempt g w o h huser ho with hb | ⟨e, rfl, -, -⟩
      · exact hdone o w h hb
      · cases hr
    | error e =>
      rw [answered_error]
      split
      · refine ih hnext huser' ?_
        rcases hattempt g w o h huser ho with hb | ⟨e', rfl, -, -⟩
        · exact .inr hb
        · rcases hleft with hcount | hb
          · exact .inl (by simp only [failedInserts, Except.isOk, Except.toBool]; omega)
          · exact .inr hb
      · rename_i hnot
        rcases hattempt g w o h huser ho with hb | ⟨e', rfl, hconn, -⟩
        · exact hdone o w h hb
        · cases hr
          exact absurd hconn hnot

theorem wp_logPurchase (htype : t.transactionType = .purchase) (hq : t.paymentId = some q)
    (h : Grantable q userId credits w) (huser : (w.users t.userId).isSome) {E : PyErr → Nat → World → Prop} :
    (logCreditTransaction t).wp (sparing config) .alone (fun _ _ w' => Sound w' ∧ w'.Booked q) E 0 w := by
  unfold logCreditTransaction
  simp only [wp_bind, wp_tryCatch]
  exact wp_bookPurchase (t := t.logged) htype hq 2 h huser (.inl rfl)

/-! ## The grant -/

variable {p : AddCreditsParams}

theorem wp_legacyPurchase (htype : p.transactionType = .purchase) (hq : p.paymentId = some q)
    (h : Grantable q p.userId p.credits w) :
    (legacyAddCredits p).wp (sparing config) .alone (fun _ _ w' => Sound w' ∧ w'.Booked q) (fun _ _ w' => Sound w')
      g w := by
  unfold legacyAddCredits
  rw [wp_bind]
  refine wp_alone_stmt (C := sparing config) fun o ho => ?_
  -- where the path raises, no row is ahead
  have hsound : PaidMeansCredited w → Sound w := fun hpaid => ⟨hpaid, h.owned⟩
  cases o with
  | dropped e => exact hsound (ho.resolve_right fun h => by cases h.1)
  | lost e => exact hsound (ho.resolve_right fun h => by cases h.1)
  | served =>
    simp only [answer_served, exec, answered_ok]
    cases huser : w.users p.userId with
    | none => exact hsound (h.possible.resolve_right fun hsome => by rw [huser] at hsome; cases hsome.1)
    | some row =>
      simp only
      cases hsum : sumOfBalances row with
      | error e =>
        refine hsound (ho.resolve_right fun hcolumns => ?_)
        obtain ⟨ha, hp⟩ := hcolumns.2 row huser
        obtain ⟨a, ha⟩ := Option.isSome_iff_exists.mp ha
        obtain ⟨b, hb⟩ := Option.isSome_iff_exists.mp hp
        simp [sumOfBalances, ha, hb] at hsum
      | ok balanceBefore =>
        simp only [wp_bind]
        refine wp_alone_stmt (C := sparing config) fun o ho => ?_
        have hnext := h.answer (s := .updateUser p.userId { purchasedCredits := some (row.purchased + p.credits) })
          trivial o
        have hraised : o ≠ .served → Sound (answer exec
            (.updateUser p.userId { purchasedCredits := some (row.purchased + p.credits) }) o w).2 := fun hne =>
          Sound.answer (s := .updateUser _ _) trivial o (hsound (ho.resolve_right hne))
        cases o with
        | dropped e => exact hraised (fun h => by cases h)
        | lost e => exact hraised (fun h => by cases h)
        | served =>
          rcases updateUserRow_cases p.userId { purchasedCredits := some (row.purchased + p.credits) } w with
            ⟨hnone, -⟩ | ⟨old, -, he⟩
          · rw [huser] at hnone
            cases hnone
          · simp only [answer_served, exec, he, answered_ok] at hnext ⊢
            rw [wp_bind]
            exact wp_logPurchase htype hq hnext (by simp)

theorem exec_purchase (htype : p.transactionType = .purchase) (hq : p.paymentId = some q)
    (hkey : w.KeyIsOf p.requestId p.paymentId) :
    (atomicAddCredits p w).1.success = true ∧ (atomicAddCredits p w).2.hasPurchase q = true ∨
      (atomicAddCredits p w).1.success = false ∧ (atomicAddCredits p w).2 = w := by
  rcases atomicAddCredits_cases p w with ⟨hw, hdup⟩ | ⟨row, -, -, -, he⟩
  · cases hs : (atomicAddCredits p w).1.success with
    | false => exact .inr ⟨rfl, hw⟩
    | true =>
      refine .inl ⟨rfl, ?_⟩
      rw [hw]
      rcases hdup hs with ⟨r, hr, hsome⟩ | ⟨-, q', hq', hp⟩
      · obtain ⟨t, ht⟩ := Option.isSome_iff_exists.mp hsome
        obtain ⟨hpurchase, hpay⟩ := hkey t (by rw [hr]; exact ht)
        refine List.any_eq_true.mpr ⟨t, List.mem_of_find?_eq_some ht, ?_⟩
        simp [hpurchase, hpay, hq]
      · rw [hq] at hq'
        cases hq'
        exact hp
  · rw [he]
    refine .inl ⟨rfl, ?_⟩
    simp [World.hasPurchase, World.storedTransaction, AddCreditsParams.ledgerRow, htype, hq]

/-- The grant of a payment. It ends with the purchase in the ledger; where it raises, no row is ahead. -/
theorem wp_grantPurchase (htype : p.transactionType = .purchase) (hq : p.paymentId = some q)
    (h : Grantable q p.userId p.credits w) :
    (addCreditsToUser p).wp (sparing config) .alone (fun _ _ w' => Sound w' ∧ w'.Booked q) (fun _ _ w' => Sound w')
      g w := by
  unfold addCreditsToUser
  split
  · rename_i hcredits
    exact ⟨h.possible.resolve_right fun hpos => absurd hpos.2 (not_lt.mpr hcredits), h.owned⟩
  rename_i hcredits
  simp only [wp_tryCatch, wp_bind, atomicAddCreditsRpc, wp_attempt]
  refine wp_alone_stmt (C := sparing config) fun o ho => ?_
  have hkey : w.KeyIsOf p.forRpc.requestId p.forRpc.paymentId := ho htype
  have hnext := h.answer (s := .rpcAtomicAddCredits p.forRpc) trivial o
  cases o with
  | dropped e => exact wp_legacyPurchase htype hq hnext
  | lost e => exact wp_legacyPurchase htype hq hnext
  | served =>
    simp only [answer_served, exec, answered_ok] at hnext ⊢
    rcases exec_purchase (p := p.forRpc) htype hq hkey with ⟨hs, hp⟩ | ⟨hs, hw⟩
    · simp only [hs, if_true, Prog.pure_eq, wp_ret]
      exact ⟨hnext.sound (.inl hp), .inl hp⟩
    · rw [hs, hw]
      simp only [Bool.false_eq_true, if_false]
      split
      · refine ⟨?_, h.owned⟩
        by_contra hnot
        -- the procedure would have found user and payment
        obtain ⟨huser, -⟩ := h.possible.resolve_left hnot
        have hpay : ∀ q', p.forRpc.paymentId = some q' → (w.payment? q').isSome := fun q' hq' => by
          cases hq.symm.trans hq'
          exact h.paid.open_row hnot
        rcases atomicAddCredits_available (p := p.forRpc) hcredits hpay with hyes | ⟨hnone, -⟩
        · rw [hs] at hyes
          cases hyes
        · rw [show p.forRpc.userId = p.userId from rfl] at hnone
          rw [hnone] at huser
          cases huser
      · exact wp_legacyPurchase htype hq h

/-! ## The handlers -/

theorem kept_alone (I : World → Prop) (_ : Nat) (w w' : World) (hr : (Contract.alone : Contract Stmt World).rely w w')
    (h : I w) : I w' := by
  cases hr
  exact h

theorem kept_sound : Kept failedInserts (SparesGrant config) .alone (Stmt.CompletesOnly none) fun _ w => Sound w where
  rely := kept_alone Sound
  step := fun _ hs _ o _ _ _ h => ⟨trivial, trivial, h.answer hs o⟩

theorem wp_quiet {α : Type} {p : DbProg α} (hp : p.Only (Stmt.CompletesOnly none)) (h : Sound w) :
    p.wp (sparing config) .alone (fun _ _ w' => Sound w') (fun _ _ w' => Sound w') g w := kept_sound.wp hp h

theorem wp_status {status : PaymentStatus} {intent session : Option String} {I : World → Prop}
    {E : PyErr → Nat → World → Prop}
    (hstep : ∀ patch g o w, patch.status = status → SparesGrant config g (.updatePayment q patch) o w → I w →
      I (answer exec (.updatePayment q patch) o w).2) (h : I w) :
    (updatePaymentStatus q status intent session).wp (sparing config) .alone (fun _ _ w' => I w') E g w := by
  unfold updatePaymentStatus
  rw [wp_tryCatch]
  refine wp_of_only (C := sparing config) (J := fun _ w => I w) (P := fun s => ∃ patch, s = .updatePayment q patch ∧
    patch.status = status) (kept_alone I) ?_ (only_executeWithRetry (only_query ⟨_, rfl, rfl⟩) 2) h
  rintro s ⟨patch, rfl, hpatch⟩ g o w - ho hi
  exact ⟨trivial, trivial, hstep patch g o w hpatch ho hi⟩

theorem booked_updatePayment (id : Int) (patch : PaymentPatch) (h : w.Booked q) (o : Outcome PyErr) :
    (answer exec (.updatePayment id patch) o w).2.Booked q := by
  have hexec : (exec (.updatePayment id patch) w).2.Booked q := by
    refine h.imp (fun hp => hp) fun hnone => ?_
    rw [payment?_update, hnone]
    split <;> rfl
  cases o with
  | served => exact hexec
  | dropped e => exact h
  | lost e => exact hexec

theorem wp_settleSound (r : ResolvedCheckout) {now : Time} (h : Sound w) :
    (r.settle config now).wp (sparing config) .alone (fun _ _ w' => Sound w') (fun _ _ w' => Sound w') g w := by
  unfold ResolvedCheckout.settle
  rw [wp_bind]
  refine wp_mono ?_ (fun _ _ _ he => he) (wp_quiet (getPayment_only trivial) h)
  intro existing g₁ w₁ hs₁
  split
  · exact hs₁
  simp only [ResolvedCheckout.grant, wp_bind]
  refine wp_mono ?_ (fun _ _ _ he => he) (wp_grantPurchase (p := r.purchase config now) rfl rfl hs₁.grantable)
  rintro _ g₂ w₂ ⟨hs₂, hb₂⟩
  -- the status is written over a booked purchase, however often
  have hstatus : (updatePaymentStatus r.paymentId .completed r.paymentIntentId r.sessionId).wp (sparing config) .alone
      (fun _ _ w' => Sound w' ∧ w'.Booked r.paymentId) (fun _ _ w' => Sound w') g₂ w₂ := by
    refine wp_status (I := fun w => Sound w ∧ w.Booked r.paymentId) (fun patch g o w _ _ hi => ?_) ⟨hs₂, hb₂⟩
    have hb := booked_updatePayment r.paymentId patch hi.2 o
    have hpaid := answer_paidExcept (s := .updatePayment r.paymentId patch) (fun _ => rfl) o (hi.1.paid.except _)
    exact ⟨⟨hpaid.close hb, answer_paymentsOwned _ o hi.1.owned⟩, hb⟩
  rw [wp_bind]
  refine wp_mono (fun _ g₃ w₃ hi₃ => ?_) (fun _ _ _ hs => hs) hstatus
  have hs₃ : Sound w₃ := hi₃.1
  have hclear : (clearTrialStatus r.userId).Only (Stmt.CompletesOnly none) :=
    clearTrialStatus_only trivial trivial fun _ => trivial
  have hbonus : (r.firstTopupBonus now).Only (Stmt.CompletesOnly none) :=
    firstTopupBonus_only ⟨trivial, trivial, fun _ => trivial, fun _ => trivial⟩ trivial
  exact wp_quiet (only_bind hclear fun _ => hbonus) hs₃

theorem wp_handlePaymentSucceededSound (intent : PaymentIntent) {now : Time} (h : Sound w) :
    (handlePaymentSucceeded config now intent).wp (sparing config) .alone (fun _ _ w' => Sound w')
      (fun _ _ w' => Sound w') g w := by
  refine wp_swallow ?_
  rw [wp_bind]
  have hrow : ∀ (p : Payment) (g' : Nat) (w' : World), Sound w' → p ∈ w'.payments →
      Prog.wp (sparing config) .alone (fun _ _ w' => Sound w') (fun _ _ w' => Sound w')
        (if p.status = .completed then pure ()
          else do
            let _ ← updatePaymentStatus p.id .completed none none
            addCreditsToUser (p.purchase config now intent.id)) g' w' := by
    intro p g' w' hs hp
    split
    · exact hs
    rw [wp_bind]
    -- the row as it was found, or what the condition says about it
    have hstatus : (updatePaymentStatus p.id .completed none none).wp (sparing config) .alone
        (fun _ _ w' => Grantable p.id p.userId (config.granted p.amountUsd) w') (fun _ _ w' => Sound w') g' w' := by
      refine wp_mono (fun _ _ _ hi => hi.1) (fun _ _ _ hs => hs) (wp_status
        (I := fun w => Grantable p.id p.userId (config.granted p.amountUsd) w ∧ (w.users p.userId).isSome ∧
          (p ∈ w.payments ∨ w.hasPurchase p.id = true ∨ 0 < config.granted p.amountUsd)) ?_
        ⟨hs.grantable, hs.owned p hp, .inl hp⟩)
      rintro patch g o w hcompletes ho ⟨hg, huser, hwhy⟩
      have hexec : (w.hasPurchase p.id = false → ∀ row ∈ w.payments, row.id = p.id → 0 < config.granted row.amountUsd) →
          Grantable p.id p.userId (config.granted p.amountUsd) (exec (.updatePayment p.id patch) w).2 ∧
            ((exec (.updatePayment p.id patch) w).2.users p.userId).isSome ∧
            (p ∈ (exec (.updatePayment p.id patch) w).2.payments ∨
              (exec (.updatePayment p.id patch) w).2.hasPurchase p.id = true ∨ 0 < config.granted p.amountUsd) := by
        intro hpos
        have hpaid := exec_paidExcept (s := .updatePayment p.id patch) (fun _ => rfl) hg.paid
        have howned := exec_paymentsOwned (.updatePayment p.id patch) hg.owned
        have hwhy : w.hasPurchase p.id = true ∨ 0 < config.granted p.amountUsd := by
          rcases hwhy with hmem | hwhy
          · cases hp : w.hasPurchase p.id with
            | true => exact .inl rfl
            | false => exact .inr (hpos hp p hmem rfl)
          · exact hwhy
        rcases hwhy with hp | hcredits
        · have hp := exec_hasPurchase (.updatePayment p.id patch) hp
          exact ⟨⟨hpaid, howned, .inl (hpaid.close (.inl hp))⟩, huser, .inr (.inl hp)⟩
        · exact ⟨⟨hpaid, howned, .inr ⟨huser, hcredits⟩⟩, huser, .inr (.inr hcredits)⟩
      cases o with
      | dropped e => exact ⟨hg, huser, hwhy⟩
      | served => exact hexec (ho hcompletes)
      | lost e => exact hexec (ho hcompletes)
    refine wp_mono (fun _ g₁ w₁ hg => ?_) (fun _ _ _ hs => hs) hstatus
    exact wp_mono (fun _ _ _ hs => hs.1) (fun _ _ _ hs => hs) (wp_grantPurchase
      (p := p.purchase config now intent.id) rfl rfl hg)
  refine wp_getPaymentByStripeIntent (J := fun _ w => Sound w) ⟨kept_alone Sound, fun _ _ _ _ _ _ _ h =>
    ⟨trivial, h⟩⟩ h ?_ ?_ fun _ _ hs _ => hs
  · exact fun p g' w' hs hfound _ => hrow p g' w' hs (List.mem_of_find?_eq_some hfound)
  · intro row g' w' hs hfound _
    cases row with
    | none => exact hs
    | some p => exact hrow p g' w' hs (List.mem_of_find?_eq_some hfound)

/-- No handler leaves a payment completed without its grant. -/
theorem wp_handlerSound (now : Time) (data : EventData) (h : Sound w) :
    (data.handler config now).wp (sparing config) .alone (fun _ _ w' => Sound w') (fun _ _ w' => Sound w') g w := by
  have hsubscription : ∀ {p : DbProg Unit}, p.Only Stmt.OfSubscription →
      p.wp (sparing config) .alone (fun _ _ w' => Sound w') (fun _ _ w' => Sound w') g w := fun hp =>
    wp_quiet (only_mono (fun _ => completesOnly_of_subscription) hp) h
  cases data with
  | checkoutSessionCompleted session =>
    have hresolve : (resolveCheckout session).Only (Stmt.CompletesOnly none) :=
      resolveCheckout_only (fun _ => completesOnly_of_reads) (fun p hp => by
        change p.status ≠ .completed
        rw [hp]
        nofun) session
    simp only [EventData.handler, handleCheckoutCompleted, wp_bind]
    refine wp_mono (fun resolved g₁ w₁ hs₁ => ?_) (fun _ _ _ hs => hs) (wp_quiet hresolve h)
    cases resolved with
    | none => exact hs₁
    | some r => exact wp_settleSound r hs₁
  | paymentIntentSucceeded intent => exact wp_handlePaymentSucceededSound intent h
  | paymentIntentPaymentFailed intent =>
    refine wp_quiet (only_swallow (only_bind (getPaymentByStripeIntent_only trivial trivial) fun payment => ?_)) h
    split
    · exact only_ret _
    · exact only_bind (updatePaymentStatus_only nofun) fun _ => only_ret _
  | customerSubscriptionCreated subscription => exact hsubscription (handleSubscriptionCreated_only now subscription)
  | customerSubscriptionUpdated subscription => exact hsubscription (handleSubscriptionUpdated_only now subscription)
  | customerSubscriptionDeleted subscription => exact hsubscription (handleSubscriptionDeleted_only now subscription)
  | invoicePaid invoice => exact hsubscription (handleInvoicePaid_only now invoice)
  | invoicePaymentFailed invoice => exact hsubscription (handleInvoicePaymentFailed_only invoice)
  | other type metadata => exact h

theorem wp_handleWebhookSound (now : Time) (event : Event) (h : Sound w) :
    (handleWebhook config now event).wp (sparing config) .alone (fun _ _ w' => Sound w') (fun _ _ w' => Sound w')
      g w := by
  have hclaims : Kept failedInserts (SparesGrant config) .alone Stmt.OnClaims fun _ w => Sound w :=
    kept_sound.mono fun s hs => by cases s <;> trivial
  exact wp_withClaim (J := fun _ w => Sound w) hclaims hclaims (fun _ _ hs => wp_handlerSound now event.data hs)
    (fun _ _ hs => hs) h fun _ _ hs => hs

end Grant

/-! ## Whole runs -/

/-- **Paid means credited**, at the end of every sequence of deliveries that meets the condition. -/
theorem paid_means_credited (config : PaymentConfig) (ds : List DeliveryRun) (w : World) (hpaid : PaidMeansCredited w)
    (howned : w.PaymentsOwned) (hspare : AllSpareGrants config ds w) : PaidMeansCredited (deliverAll config ds w) := by
  have hsound : Sound w := ⟨hpaid, howned⟩
  clear hpaid howned
  induction ds generalizing w with
  | nil => exact hsound.paid
  | cons d ds ih =>
    refine ih (d.after config w) hspare.2 ?_
    obtain ⟨g, hend⟩ := wp_run_alone (wp_handleWebhookSound d.now d.event hsound) hspare.1
    unfold DeliveryRun.after
    revert hend
    generalize (handleWebhook config d.now d.event).run exec d.link w = ran
    obtain ⟨r, os, w'⟩ := ran
    cases r with
    | ok result => exact id
    | error e => exact id

def reset : PyErr := ⟨.connectionError, "reset"⟩

/-- The intent is reported twice; of the first delivery the procedure and one insert of the legacy path are lost. -/
def twoReports : List DeliveryRun :=
  [⟨0, ⟨"evt_1", .paymentIntentSucceeded { id := "pi_1" }⟩,
      [.served, .served, .served, .dropped reset, .served, .served, .dropped reset]⟩,
    ⟨1, ⟨"evt_2", .paymentIntentSucceeded { id := "pi_1" }⟩, []⟩]

theorem paid_means_credited_twoReports : PaidMeansCredited (deliverAll {} twoReports onePayment) :=
  paid_means_credited {} twoReports onePayment (by decide +kernel) (by decide +kernel) (by decide +kernel)

/-- The status is written, the procedure and the read of the legacy path are lost, and the delivery succeeds: the
    payment is completed, and no delivery will grant it. -/
theorem completed_without_grant :
    let d : DeliveryRun := ⟨0, ⟨"evt_1", .paymentIntentSucceeded { id := "pi_1" }⟩,
      [.served, .served, .served, .dropped reset, .dropped reset]⟩
    PaidMeansCredited onePayment ∧ onePayment.PaymentsOwned ∧
      ((handleWebhook {} d.now d.event).run exec d.link onePayment).1 = .ok d.event.processedResult ∧
      ¬ PaidMeansCredited (deliverAll {} [d] onePayment) := by
  decide +kernel

end Gatewayz
