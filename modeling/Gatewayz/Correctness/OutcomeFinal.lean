import Gatewayz.Correctness.GrantedOnce

/-!
# `Correctness.OutcomeFinal` — the status of a payment follows its outcome

Deliveries about one payment, reconciliations and the status writes of session creation run at once, in any order
and multiplicity, and every statement is served. The row of the payment should end `completed` once the payment is
granted or its success was handled, and `failed` if only failures were.

Every status write of the source is unconditional, so a late report of an earlier failed attempt overwrites
`completed`. `Keeps p` excludes exactly these writes, and the lookups that miss the row. In the runs left, the status
only **advances**: `completed` stays, and `failed` can only become `completed`.
-/

namespace Gatewayz

open Exec

variable {ι : Type}

/-! ## The law -/

def World.statusOf (w : World) (p : Int) : Option PaymentStatus := (w.payment? p).map Payment.status

namespace PaymentActivity

def Succeeds : PaymentActivity → Prop
  | .delivery _ (.checkoutCompleted _) | .delivery _ (.paymentSucceeded _) | .reconcile _ => True
  | _ => False

def Fails : PaymentActivity → Prop
  | .delivery _ (.paymentFailed _) => True
  | _ => False

def ByIntent : PaymentActivity → Prop
  | .delivery _ (.paymentSucceeded _) | .delivery _ (.paymentFailed _) => True
  | _ => False

/-- The activity is about the payment. What an intent's is about shows when its row is looked up. -/
def About (a : PaymentActivity) (p : Int) : Prop :=
  match a with
  | .delivery _ (.checkoutCompleted session) | .reconcile session =>
    session.Names p ∧ session.mode ≠ some "subscription"
  | .created paymentId _ _ => paymentId = p
  | _ => True

instance : DecidablePred Succeeds := fun a => by
  unfold Succeeds; split <;> infer_instance
instance : DecidablePred Fails := fun a => by
  unfold Fails; split <;> infer_instance
instance : DecidablePred ByIntent := fun a => by
  unfold ByIntent; split <;> infer_instance
instance (a : PaymentActivity) (p : Int) : Decidable (a.About p) := by
  unfold About; split <;> infer_instance

end PaymentActivity

/-- The note about an activity: which it is, and whether it booked the payment's purchase. -/
structure Doer where
  activity : PaymentActivity
  booked : Bool := false

def Doer.note (p : Int) (g : Doer) (s : Stmt) (_ : Except PyErr (Res s)) (w w' : World) : Doer :=
  { g with booked := g.booked || (!w.hasPurchase p && w'.hasPurchase p) }

/-- The statements that keep a payment's outcome: `failed` is not written over `completed`, `pending` is not
    written over either, and an intent's lookup finds the payment. -/
def Keeps (p : Int) (a : PaymentActivity) (s : Stmt) (w : World) : Prop :=
  match s with
  | .updatePayment id patch =>
    id = p →
      (patch.status = .failed → w.statusOf p ≠ some .completed) ∧
        (patch.status = .pending → w.statusOf p ≠ some .completed ∧ w.statusOf p ≠ some .failed)
  | .selectPaymentByIntent intent =>
    a.ByIntent → ∀ row ∈ w.payments.find? (fun r => r.stripePaymentIntentId = some intent), w.payment? p = some row
  | .selectPaymentBySession session =>
    a.ByIntent → ∃ row ∈ w.payments.find? (fun r => r.stripeCheckoutSessionId = some session), w.payment? p = some row
  | _ => True

instance (p : Int) (a : PaymentActivity) (s : Stmt) (w : World) : Decidable (Keeps p a s w) := by
  apply @Stmt.casesOn (fun s => Decidable (Keeps p a s w)) s <;> intros <;> unfold Keeps <;> infer_instance

abbrev keeping (p : Int) : Setting PyErr Stmt Res Doer World :=
  setting (Doer.note p) fun g s o w => o = .served ∧ Keeps p g.activity s w

def doerPool (config : PaymentConfig) (now : ι → Time) (acts : ι → PaymentActivity) : ActivityPool ι Doer :=
  fun i => ⟨{ activity := acts i }, (acts i).prog config (now i)⟩

/-- Activity `i` has ended, with a result or an exception. -/
def Ended (T : ActivityPool ι Doer) (i : ι) : Prop := (T i).prog.next? = none
/-- Activity `i` has run its handler to the end. -/
def RanHandler (T : ActivityPool ι Doer) (i : ι) : Prop := (T i).prog.result? = some (.ok true)

instance (T : ActivityPool ι Doer) (i : ι) : Decidable (Ended T i) := inferInstanceAs (Decidable (_ = _))
instance (T : ActivityPool ι Doer) (i : ι) : Decidable (RanHandler T i) := inferInstanceAs (Decidable (_ = _))

/-- The outcome is final: when all has ended, a granted payment is completed; a payment whose success was
    handled is completed; and one of which only failures were handled is failed. -/
structure OutcomeFinal (p : Int) (acts : ι → PaymentActivity) (T : ActivityPool ι Doer) (w : World) : Prop where
  granted : (∀ i, Ended T i) → w.hasPurchase p = true → w.statusOf p = some .completed
  succeeded : ∀ i, (acts i).Succeeds → RanHandler T i → w.statusOf p = some .completed
  failed : (∀ i, ¬ (acts i).Succeeds) → ∀ i, (acts i).Fails → RanHandler T i → w.statusOf p = some .failed

/-! ## The status advances -/

/-- Completed stays, failed only becomes completed, and the row stays. -/
structure Advances (p : Int) (w w' : World) : Prop where
  stays : (w.statusOf p).isSome → (w'.statusOf p).isSome
  completed : w.statusOf p = some .completed → w'.statusOf p = some .completed
  failed : w.statusOf p = some .failed → w'.statusOf p = some .failed ∨ w'.statusOf p = some .completed

theorem Advances.of_eq {p : Int} {w w' : World} (h : w'.statusOf p = w.statusOf p) : Advances p w w' :=
  ⟨fun hs => h ▸ hs, fun hs => h ▸ hs, fun hs => .inl (h ▸ hs)⟩

theorem Advances.trans {p : Int} {a b c : World} (h : Advances p a b) (h' : Advances p b c) : Advances p a c :=
  ⟨fun hs => h'.stays (h.stays hs), fun hs => h'.completed (h.completed hs), fun hs => by
    rcases h.failed hs with hf | hc
    · exact h'.failed hf
    · exact .inr (h'.completed hc)⟩

variable {s : Stmt}

theorem statusOf_keeps {p : Int} (h : s.KeepsPayments) (w : World) : (exec s w).2.statusOf p = w.statusOf p := by
  rw [World.statusOf, World.statusOf, World.payment?, exec_keepsPayments h, World.payment?]

theorem statusOf_update (p id : Int) (patch : PaymentPatch) (w : World) :
    (exec (.updatePayment id patch) w).2.statusOf p =
      if p = id then (w.statusOf p).map fun _ => patch.status else w.statusOf p := by
  simp only [World.statusOf, payment?_update]
  split
  · cases w.payment? p <;> rfl
  · rfl

variable {w : World}

/-- A status write that `Keeps` admits. -/
theorem advances_update {p : Int} {a : PaymentActivity} {id : Int} {patch : PaymentPatch}
    (h : Keeps p a (.updatePayment id patch) w)
    (hset : patch.status = .completed ∨ patch.status = .failed ∨ patch.status = .pending) :
    Advances p w (exec (.updatePayment id patch) w).2 := by
  have hstatus := statusOf_update p id patch w
  by_cases hid : p = id
  · obtain ⟨hfail, hpend⟩ := h hid.symm
    rw [if_pos hid] at hstatus
    refine ⟨fun hs => ?_, fun hs => ?_, fun hs => ?_⟩
    · rw [hstatus]
      simpa using hs
    · rw [hstatus, hs]
      rcases hset with hc | hf | hp
      · simp [hc]
      · exact absurd hs (hfail hf)
      · exact absurd hs (hpend hp).1
    · rw [hstatus, hs]
      rcases hset with hc | hf | hp
      · simp [hc]
      · simp [hf]
      · exact absurd hs (hpend hp).2
  · rw [if_neg hid] at hstatus
    exact .of_eq hstatus

def advancing (p : Int) (mayComplete : Prop) : Contract Stmt World where
  inv w := (w.statusOf p).isSome ∧ (w.statusOf p = some .completed → mayComplete)
  rely := Advances p
  guar _ := Advances p

section Activities

variable {p : Int} {mayComplete : Prop} {config : PaymentConfig} {now : Time} {a : PaymentActivity}

abbrev Unbooked (a : PaymentActivity) : Doer → World → Prop := fun g _ => g = { activity := a }
abbrev IsCompleted (p : Int) (a : PaymentActivity) : Doer → World → Prop := fun g w =>
  g.activity = a ∧ w.statusOf p = some .completed
abbrev Accounted (p : Int) (a : PaymentActivity) : Doer → World → Prop := fun g w =>
  g.activity = a ∧ (g.booked = true → w.statusOf p = some .completed)

variable {g : Doer}

theorem Accounted.of_unbooked (h : Unbooked a g w) : Accounted p a g w := by
  cases h
  exact ⟨rfl, nofun⟩

theorem Accounted.of_completed (h : IsCompleted p a g w) : Accounted p a g w :=
  ⟨h.1, fun _ => h.2⟩

theorem keeps_step (mayComplete : Prop) (hs : s.KeepsPayments) (hi : (advancing p mayComplete).inv w) :
    (advancing p mayComplete).inv (exec s w).2 ∧ Advances p w (exec s w).2 := by
  have hsame := statusOf_keeps (p := p) hs w
  refine ⟨?_, .of_eq hsame⟩
  simpa only [advancing, hsame] using hi

theorem note_unbooked {r : Except PyErr (Res s)} {w w' : World}
    (h : w'.creditTransactions = w.creditTransactions) (hg : Unbooked a g w) : Unbooked a (g.note p s r w w') w' := by
  cases hg
  simp only [Doer.note, World.hasPurchase, h]
  simp

theorem kept_unbooked : Kept (Doer.note p) (fun g s o w => o = .served ∧ Keeps p g.activity s w)
    (advancing p mayComplete) (fun s => s.KeepsPayments ∧ s.KeepsMoney) (Unbooked a) where
  rely := fun _ _ _ _ h => h
  step := fun s hs g o w hi ho hg => by
    obtain ⟨rfl, -⟩ := ho
    obtain ⟨hi', hadv⟩ := keeps_step mayComplete hs.1 hi
    exact ⟨hi', hadv, note_unbooked (exec_keeps hs.2 w).ledger hg⟩

theorem kept_completed : Kept (Doer.note p) (fun g s o w => o = .served ∧ Keeps p g.activity s w)
    (advancing p mayComplete) Stmt.KeepsPayments (IsCompleted p a) where
  rely := fun _ _ _ hr h => ⟨h.1, hr.completed h.2⟩
  step := fun s hs g o w hi ho h => by
    obtain ⟨rfl, -⟩ := ho
    obtain ⟨hi', hadv⟩ := keeps_step mayComplete hs hi
    exact ⟨hi', hadv, h.1, hadv.completed h.2⟩

theorem steady_unbooked : Steady (Doer.note p) (fun g s o w => o = .served ∧ Keeps p g.activity s w)
    (advancing p mayComplete) (Unbooked a) where
  rely := fun _ _ _ _ h => h
  read := fun _ _ _ _ _ _ _ hg => ⟨.of_eq rfl, note_unbooked rfl hg⟩

theorem not_mayFail (h : MayFail (fun (g : Doer) s o w => o = .served ∧ Keeps p g.activity s w) s) : False := by
  obtain ⟨g, o, w, hne, ho⟩ := h
  exact hne ho.1

/-! ## The two writes -/

theorem wp_writeStatus {status : PaymentStatus} {intent session : Option String}
    {Q : Option Payment → Doer → World → Prop} {E : PyErr → Doer → World → Prop}
    (hset : status = .completed ∨ status = .failed ∨ status = .pending) (hmay : status = .completed → mayComplete)
    (hq : ∀ row w', w'.statusOf p = some status → Q row g w') :
    (updatePaymentStatus p status intent session).wp (keeping p) (advancing p mayComplete) Q E g w := by
  unfold updatePaymentStatus
  rw [wp_tryCatch]
  refine wp_executeWithRetry (I := fun g' _ => g' = g) (E := fun _ g' w' => Q none g' w') (fun g' w' hg => ?_) rfl
  cases hg
  refine wp_stmt (C := keeping p) fun w₁ _ hi o ho => ?_
  obtain ⟨rfl, hkeeps⟩ := ho
  have hadv := advances_update hkeeps hset
  have hstatus := statusOf_update p p
    { status := status, stripePaymentIntentId := nonempty intent, stripeCheckoutSessionId := nonempty session } w₁
  rw [if_pos rfl] at hstatus
  obtain ⟨old, hold⟩ := Option.isSome_iff_exists.mp hi.1
  rw [hold] at hstatus
  refine ⟨⟨hadv.stays hi.1, fun hc => hmay ?_⟩, hadv, ?_⟩
  · rw [answer_served, hstatus] at hc
    simpa using hc
  · have hnote : ∀ (r : Except PyErr (Option Payment)) (patch : PaymentPatch),
        Doer.note p g (.updatePayment p patch) r w₁ (exec (.updatePayment p patch) w₁).2 = g := by
      intro r patch
      have hsame : (exec (.updatePayment p patch) w₁).2.hasPurchase p = w₁.hasPurchase p := rfl
      simp [Doer.note, hsame]
    simp only [answer_served, exec, answered_ok] at hstatus hnote ⊢
    rw [hnote]
    exact hq _ _ hstatus

theorem wp_legacyAddCredits_unbooked {q : AddCreditsParams} (h : Unbooked a g w) :
    (legacyAddCredits q).wp (keeping p) (advancing p mayComplete) (fun _ g' _ => g'.activity = a)
      (fun _ => Unbooked a) g w := by
  unfold legacyAddCredits
  rw [wp_bind]
  refine wp_select steady_unbooked (s := .selectUser q.userId) trivial h ?_ fun _ _ _ hu _ => hu
  intro row g₁ w₁ hu₁ _ _
  cases row with
  | none => exact hu₁
  | some row =>
    simp only
    cases sumOfBalances row with
    | error e => exact hu₁
    | ok balanceBefore =>
      simp only [wp_bind]
      refine wp_stmt (C := keeping p) fun w₂ _ hi o ho => ?_
      obtain ⟨rfl, -⟩ := ho
      obtain ⟨hi', hadv⟩ := keeps_step mayComplete
        (s := .updateUser q.userId { purchasedCredits := some (row.purchased + q.credits) }) trivial hi
      have hledger : (exec (.updateUser q.userId { purchasedCredits := some (row.purchased + q.credits) }) w₂).2.creditTransactions =
          w₂.creditTransactions := by
        simp only [exec]
        rcases updateUserRow_cases q.userId { purchasedCredits := some (row.purchased + q.credits) } w₂ with
          ⟨-, he⟩ | ⟨old, -, he⟩ <;> rw [he]
        rfl
      have hu₂ := fun r => note_unbooked (p := p)
        (s := .updateUser q.userId { purchasedCredits := some (row.purchased + q.credits) }) (r := r) hledger hu₁
      refine ⟨hi', hadv, ?_⟩
      simp only [answer_served, exec, answered_ok] at hu₂ ⊢
      cases (updateUserRow q.userId { purchasedCredits := some (row.purchased + q.credits) } w₂).1 with
      | none => exact hu₂ _
      | some updated =>
        rw [wp_bind]
        refine wp_logCreditTransaction (I := fun g' _ => g'.activity = a) (fun g' w' hg => ?_) ?_
        · refine wp_stmt (C := keeping p) fun w₃ _ hi o ho => ?_
          obtain ⟨rfl, -⟩ := ho
          obtain ⟨hi', hadv⟩ := keeps_step mayComplete (s := .insertTransaction _) trivial hi
          refine ⟨hi', hadv, ?_⟩
          cases hr : (answer exec (.insertTransaction _) .served w₃).1 with
          | ok row => exact hg
          | error e => exact ⟨hg, hg⟩
        · have := hu₂ (.ok (some updated))
          simp only [this]

theorem wp_addCreditsToUser_unbooked {q : AddCreditsParams} (h : Unbooked a g w) :
    (addCreditsToUser q).wp (keeping p) (advancing p mayComplete) (fun _ g' _ => g'.activity = a)
      (fun _ => Unbooked a) g w := by
  unfold addCreditsToUser
  split
  · exact h
  simp only [wp_tryCatch, wp_bind, atomicAddCreditsRpc, wp_attempt]
  refine wp_stmt (C := keeping p) fun w₁ _ hi o ho => ?_
  obtain ⟨rfl, -⟩ := ho
  obtain ⟨hi', hadv⟩ := keeps_step mayComplete (s := .rpcAtomicAddCredits q.forRpc) trivial hi
  refine ⟨hi', hadv, ?_⟩
  rcases atomicAddCredits_cases q.forRpc w₁ with ⟨hw, -⟩ | ⟨row, -, -, -, he⟩
  · have hledger : (atomicAddCredits q.forRpc w₁).2.creditTransactions = w₁.creditTransactions :=
      congrArg World.creditTransactions hw
    have hu := fun r => note_unbooked (p := p) (s := .rpcAtomicAddCredits q.forRpc) (r := r) hledger h
    simp only [answer_served, exec, answered_ok]
    split
    · exact congrArg Doer.activity (hu _)
    split
    · exact hu _
    · exact wp_legacyAddCredits_unbooked (hu _)
  · simp only [answer_served, exec, he, answered_ok, RpcResult.grant, if_true, Prog.pure_eq, wp_ret]
    cases h
    rfl

/-! ## The handlers -/

theorem wp_after_completed {α : Type} {q : DbProg α} (hq : q.Only Stmt.KeepsPayments) (h : IsCompleted p a g w) :
    q.wp (keeping p) (advancing p mayComplete) (fun _ => IsCompleted p a) (fun _ => IsCompleted p a) g w :=
  kept_completed.wp hq h

/-- A checkout is completed, or it raises before it books anything. -/
theorem wp_settle_completed {r : ResolvedCheckout} (hr : r.paymentId = p) (hmay : mayComplete) (h : Unbooked a g w) :
    (r.settle config now).wp (keeping p) (advancing p mayComplete) (fun _ => IsCompleted p a) (fun _ => Accounted p a)
      g w := by
  subst hr
  unfold ResolvedCheckout.settle
  rw [wp_bind]
  refine wp_getPayment steady_unbooked h ?_ fun hfail => (not_mayFail hfail).elim
  intro g₁ w₁ hu₁
  split
  · rename_i hdone
    obtain ⟨row, hrow, hstatus⟩ := (Option.any_eq_true _ _).mp hdone
    refine ⟨congrArg Doer.activity hu₁, ?_⟩
    rw [World.statusOf, hrow]
    simpa using hstatus
  simp only [ResolvedCheckout.grant, wp_bind]
  refine wp_mono ?_ (fun _ _ _ hu => .of_unbooked hu) (wp_addCreditsToUser_unbooked hu₁)
  intro _ g₂ w₂ ha₂
  rw [wp_bind]
  refine wp_writeStatus (.inl rfl) (fun _ => hmay) fun _ w₃ hcompleted => ?_
  rw [Prog.pure_eq, wp_ret]
  have hclear : (clearTrialStatus r.userId).Only Stmt.KeepsPayments :=
    clearTrialStatus_only trivial trivial fun _ => trivial
  have hbonus : (r.firstTopupBonus now).Only Stmt.KeepsPayments :=
    firstTopupBonus_only ⟨trivial, trivial, fun _ => trivial, fun _ => trivial⟩ trivial
  exact wp_mono (fun _ _ _ hc => hc) (fun _ _ _ hc => .of_completed hc)
    (wp_after_completed (only_bind hclear fun _ => hbonus) ⟨ha₂, hcompleted⟩)

theorem wp_handleCheckoutCompleted_completed {session : CheckoutSession} (hname : session.Names p)
    (hmode : session.mode ≠ some "subscription") (hmay : mayComplete) (h : Unbooked a g w) :
    (handleCheckoutCompleted config now session).wp (keeping p) (advancing p mayComplete) (fun _ => IsCompleted p a)
      (fun _ => Accounted p a) g w := by
  unfold handleCheckoutCompleted
  rw [wp_bind]
  refine wp_resolveCheckout steady_unbooked hname h (fun hsub => absurd hsub hmode) ?_
    (fun _ _ _ hu => .of_unbooked hu)
  exact fun _ r hr g₁ w₁ hu₁ => wp_settle_completed hr.paymentId hmay hu₁

theorem wp_lookup_found (hby : a.ByIntent) {id : String} {Q : Option Payment → Doer → World → Prop}
    {E : PyErr → Doer → World → Prop} (h : Unbooked a g w)
    (hq : ∀ row g' w', Unbooked a g' w' → w'.payment? p = some row → Q (some row) g' w') :
    (getPaymentByStripeIntent id).wp (keeping p) (advancing p mayComplete) Q E g w := by
  refine wp_getPaymentByStripeIntent steady_unbooked h ?_ ?_ fun _ _ _ hfail => ?_
  · rintro row g' w' hu hfound ⟨g₀, hg₀, -, hkeeps⟩
    cases hg₀
    exact hq row g' w' hu (hkeeps hby row hfound)
  · rintro row g' w' hu hfound ⟨g₀, hg₀, -, hkeeps⟩
    cases hg₀
    obtain ⟨found, hmem, hrow⟩ := hkeeps hby
    rw [hfound] at hmem
    cases hmem
    exact hq found g' w' hu hrow
  · rcases hfail with hfail | hfail
    · exact (not_mayFail hfail).elim
    · exact (not_mayFail hfail).elim

theorem payment?_id {q : Int} {row : Payment} (h : w.payment? q = some row) : row.id = q := by
  simpa using List.find?_some h

/-- A success by the intent is completed. -/
theorem wp_handlePaymentSucceeded_completed {intent : PaymentIntent} (hby : a.ByIntent)
    (hmay : mayComplete) (h : Unbooked a g w) :
    (handlePaymentSucceeded config now intent).wp (keeping p) (advancing p mayComplete) (fun _ => IsCompleted p a)
      (fun _ => Accounted p a) g w := by
  refine wp_swallow ?_
  rw [wp_bind]
  refine wp_lookup_found hby h fun row g₁ w₁ hu₁ hrow => ?_
  simp only
  split
  · rename_i hdone
    refine ⟨congrArg Doer.activity hu₁, ?_⟩
    rw [World.statusOf, hrow]
    simpa using hdone
  obtain rfl := payment?_id hrow
  rw [wp_bind]
  refine wp_writeStatus (.inl rfl) (fun _ => hmay) fun _ w₂ hcompleted => ?_
  have hgrant : (addCreditsToUser (row.purchase config now intent.id)).Only Stmt.KeepsPayments :=
    addCreditsToUser_only ⟨trivial, trivial, fun _ => trivial, fun _ => trivial⟩
  exact wp_after_completed hgrant ⟨congrArg Doer.activity hu₁, hcompleted⟩

abbrev IsOver (p : Int) (a : PaymentActivity) : Doer → World → Prop := fun g w =>
  Unbooked a g w ∧ (w.statusOf p = some .failed ∨ w.statusOf p = some .completed)

/-- A failure by the intent is recorded. -/
theorem wp_handlePaymentFailed_over {intent : PaymentIntent} (hby : a.ByIntent) (h : Unbooked a g w) :
    (handlePaymentFailed intent).wp (keeping p) (advancing p mayComplete) (fun _ => IsOver p a) (fun _ => Accounted p a)
      g w := by
  refine wp_swallow ?_
  rw [wp_bind]
  refine wp_lookup_found hby h fun row g₁ w₁ hu₁ hrow => ?_
  obtain rfl := payment?_id hrow
  simp only [wp_bind]
  exact wp_writeStatus (.inr (.inl rfl)) nofun fun _ w₂ hfailed => ⟨hu₁, .inl hfailed⟩

def EndsAs (p : Int) (a : PaymentActivity) (ran : Bool) (g : Doer) (w : World) : Prop :=
  Accounted p a g w ∧ (ran = true → (a.Succeeds → w.statusOf p = some .completed) ∧
    (a.Fails → w.statusOf p = some .failed ∨ w.statusOf p = some .completed))

/-- Every activity writes its outcome. -/
theorem activity_ends (ha : a.About p) (hmay : a.Succeeds → mayComplete) :
    (a.prog config now).wp (keeping p) (advancing p mayComplete) (EndsAs p a) (fun _ => Accounted p a) { activity := a }
      w := by
  have hstart : Unbooked a { activity := a } w := rfl
  have hclaims : ∀ {J : Doer → World → Prop}, Kept (Doer.note p) (fun g s o w => o = .served ∧ Keeps p g.activity s w)
      (advancing p mayComplete) (fun s => s.KeepsPayments ∧ s.KeepsMoney) J →
      Kept (Doer.note p) (fun g s o w => o = .served ∧ Keeps p g.activity s w) (advancing p mayComplete)
        Stmt.OnClaims J := fun hJ => hJ.mono fun s hs => by cases s <;> trivial
  have haccounted : Kept (Doer.note p) (fun g s o w => o = .served ∧ Keeps p g.activity s w)
      (advancing p mayComplete) (fun s => s.KeepsPayments ∧ s.KeepsMoney) (Accounted p a) := by
    refine ⟨fun _ _ _ hr h => ⟨h.1, fun hb => hr.completed (h.2 hb)⟩, fun s hs g o w hi ho h => ?_⟩
    obtain ⟨rfl, -⟩ := ho
    obtain ⟨hi', hadv⟩ := keeps_step mayComplete hs.1 hi
    refine ⟨hi', hadv, h.1, fun hb => hadv.completed (h.2 ?_)⟩
    have hledger := (exec_keeps hs.2 w).ledger
    simpa [Doer.note, World.hasPurchase, hledger] using hb
  cases a with
  | created paymentId intentId sessionId =>
    obtain rfl : paymentId = p := ha
    simp only [PaymentActivity.prog, wp_bind]
    exact wp_writeStatus (.inr (.inr rfl)) (fun h => by cases h) fun _ w' _ => ⟨.of_unbooked hstart, fun h => by cases h⟩
  | reconcile session =>
    obtain ⟨hname, hmode⟩ := ha
    have hmeta : session.metadata ≠ [] := by
      intro hnil
      have := get_ne_none_of_coerce hname
      rw [hnil] at this
      exact this rfl
    simp only [PaymentActivity.prog, reconcileCheckoutSession, wp_bind]
    refine wp_mono ?_ (fun _ _ _ hu => .of_unbooked hu) (steady_unbooked.keeps
      (hydrateCheckoutSessionMetadata_only (fun _ => trivial) fun _ => trivial) hstart)
    rintro ⟨_, metadata⟩ g₁ w₁ hu₁
    simp only
    split
    · exact ⟨.of_unbooked hu₁, fun h => by cases h⟩
    split
    · exact ⟨.of_unbooked hu₁, fun h => by cases h⟩
    rw [wp_bind]
    refine wp_mono ?_ (fun _ _ _ hu => .of_unbooked hu) (steady_unbooked.keeps (getPayment_only trivial) hu₁)
    intro existing g₂ w₂ hu₂
    split
    · exact ⟨.of_unbooked hu₂, fun h => by cases h⟩
    rw [wp_bind]
    refine wp_mono (fun _ g₃ w₃ hc => ?_) (fun _ _ _ hu => hu)
      (wp_handleCheckoutCompleted_completed hname hmode (hmay trivial) hu₂)
    exact ⟨.of_completed hc, fun _ => ⟨fun _ => hc.2, fun h => by cases h⟩⟩
  | delivery eventId notice =>
    simp only [PaymentActivity.prog, handleWebhook, wp_bind]
    refine wp_withClaim (hclaims kept_unbooked) (hclaims haccounted) (fun g w hu => ?_) (fun g w hu => ?_) hstart
      fun _ _ hu => .of_unbooked hu
    · cases notice with
      | checkoutCompleted session =>
        obtain ⟨hname, hmode⟩ := ha
        refine wp_mono (fun _ g' w' hc => ?_) (fun _ _ _ hu => hu)
          (wp_handleCheckoutCompleted_completed hname hmode (hmay trivial) hu)
        exact ⟨.of_completed hc, fun _ => ⟨fun _ => hc.2, fun h => by cases h⟩⟩
      | paymentSucceeded intent =>
        have hby : (PaymentActivity.delivery eventId (.paymentSucceeded intent)).ByIntent := trivial
        refine wp_mono (fun _ g' w' hc => ?_) (fun _ _ _ hu => hu)
          (wp_handlePaymentSucceeded_completed hby (hmay trivial) hu)
        exact ⟨.of_completed hc, fun _ => ⟨fun _ => hc.2, fun h => by cases h⟩⟩
      | paymentFailed intent =>
        have hby : (PaymentActivity.delivery eventId (.paymentFailed intent)).ByIntent := trivial
        refine wp_mono (fun _ g' w' hover => ?_) (fun _ _ _ hu => hu) (wp_handlePaymentFailed_over hby hu)
        exact ⟨.of_unbooked hover.1, fun _ => ⟨(fun h => by cases h), fun _ => hover.2⟩⟩
    · refine ⟨.of_unbooked hu, fun hran => ?_⟩
      exact absurd (of_decide_eq_true hran) (duplicateResult_ne _)

end Activities

/-! ## Whole runs -/

theorem doers_compatible (p : Int) (mayComplete : Prop) (acts : ι → PaymentActivity) :
    Pool.Compatible (fun _ : ι => advancing p mayComplete) (advancing p mayComplete).inv (fun i => EndsAs p (acts i))
      (fun i (_ : PyErr) => Accounted p (acts i)) where
  inv := fun _ => rfl
  refl := fun _ _ => .of_eq rfl
  trans := fun _ _ _ _ h h' => h.trans h'
  result := fun i a g w w' hr h => by
    refine ⟨⟨h.1.1, fun hb => hr.completed (h.1.2 hb)⟩, fun hran => ?_⟩
    obtain ⟨hs, hf⟩ := h.2 hran
    refine ⟨fun ha => hr.completed (hs ha), fun ha => ?_⟩
    rcases hf ha with hfailed | hcompleted
    · exact hr.failed hfailed
    · exact .inr (hr.completed hcompleted)
  raise := fun _ _ _ _ _ hr h => ⟨h.1, fun hb => hr.completed (h.2 hb)⟩
  fits := fun _ _ _ _ _ _ _ _ hg => hg

/-- **The outcome of a payment is final**, in the runs that do not write over it and whose lookups find it. -/
theorem outcome_final [DecidableEq ι] (config : PaymentConfig) (now : ι → Time) (acts : ι → PaymentActivity) (p : Int)
    (w : World) (hrow : w.statusOf p = some .pending) (hnew : w.hasPurchase p = false) (habout : ∀ i, (acts i).About p)
    (ts : Schedule ι PyErr) (hkeeps : Pool.Admits (keeping p) ts (doerPool config now acts) w) :
    OutcomeFinal p acts (Pool.run (keeping p) ts (doerPool config now acts) w).1
      (Pool.run (keeping p) ts (doerPool config now acts) w).2 := by
  let mayComplete : Prop := ∃ i, (acts i).Succeeds
  have hsafe : Pool.Safe (keeping p) (fun _ => advancing p mayComplete) (fun i => EndsAs p (acts i))
      (fun i _ => Accounted p (acts i)) (doerPool config now acts) w := fun i =>
    activity_ends (habout i) fun hs => ⟨i, hs⟩
  have hinv : (advancing p mayComplete).inv w := by
    refine ⟨by rw [hrow]; rfl, fun hc => ?_⟩
    rw [hrow] at hc
    cases hc
  obtain ⟨hinv, hsafe, -⟩ := Pool.pool_run (doers_compatible p mayComplete acts) ts hsafe hinv hkeeps
  have hran : ∀ i, RanHandler (Pool.run (keeping p) ts (doerPool config now acts) w).1 i →
      EndsAs p (acts i) true ((Pool.run (keeping p) ts (doerPool config now acts) w).1 i).note
        (Pool.run (keeping p) ts (doerPool config now acts) w).2 := by
    intro i hi
    refine hsafe.done ?_
    unfold RanHandler at hi
    revert hi
    cases ((Pool.run (keeping p) ts (doerPool config now acts) w).1 i).prog with
    | ret b => simp [Prog.result?]
    | fail e => simp [Prog.result?]
    | ask s k => simp [Prog.result?]
  refine ⟨fun hended hbooked => ?_, fun i hs hi => ((hran i hi).2 rfl).1 hs, fun hnone i hf hi => ?_⟩
  · -- somebody booked the purchase, and has ended
    have hstays : ∀ (g : Doer) (s : Stmt) r w w', g.booked = true → (Doer.note p g s r w w').booked = true := by
      intro g s r w w' hb
      simp [Doer.note, hb]
    have hblames : ∀ (g : Doer) (s : Stmt) o w, ¬ w.hasPurchase p = true →
        (answer exec s o w).2.hasPurchase p = true →
          (Doer.note p g s (answer exec s o w).1 w (answer exec s o w).2).booked = true := by
      intro g s o w hno hyes
      simp [Doer.note, hno, hyes]
    have hblame := Pool.run_blames (C := keeping p) hstays hblames ts hbooked
    obtain ⟨i, hi⟩ := hblame.resolve_left (by rw [hnew]; nofun)
    have hend := hsafe i
    have hnext := hended i
    unfold Ended at hnext
    revert hend hnext
    cases ((Pool.run (keeping p) ts (doerPool config now acts) w).1 i).prog with
    | ret b => exact fun hq _ => hq.1.2 hi
    | fail e => exact fun hq _ => hq.2 hi
    | ask s k => exact fun _ hnext => nomatch hnext
  · refine (((hran i hi).2 rfl).2 hf).resolve_right fun hcompleted => ?_
    obtain ⟨j, hj⟩ := hinv.2 hcompleted
    exact hnone j hj

/-- An earlier attempt fails; the checkout, its intent and the status page report the success of a later one. -/
def retriedPayment : Fin 4 → PaymentActivity
  | 0 => .delivery "evt_1" (.paymentFailed { id := "pi_1" })
  | 1 => .delivery "evt_2" (.paymentSucceeded { id := "pi_1" })
  | 2 => .delivery "evt_3" (.checkoutCompleted paidSession)
  | 3 => .reconcile paidSession

theorem outcome_final_retriedPayment :
    let ts : Schedule (Fin 4) PyErr := List.replicate 6 (0, .served) ++
      (List.replicate 14 ([1, 2, 3].map fun i => (i, .served))).flatten
    OutcomeFinal 1 retriedPayment (Pool.run (keeping 1) ts (doerPool {} (fun _ => 0) retriedPayment) onePayment).1
      (Pool.run (keeping 1) ts (doerPool {} (fun _ => 0) retriedPayment) onePayment).2 :=
  outcome_final {} (fun _ => 0) retriedPayment 1 onePayment (by decide +kernel) (by decide +kernel) (by decide +kernel)
    _ (by decide +kernel)

/-- The report of the failed attempt comes after the success: all has ended, the payment is granted, and its row says
    `failed`. -/
theorem late_failure_overwrites :
    let acts : Fin 2 → PaymentActivity := fun i =>
      if i = 0 then .delivery "evt_2" (.paymentSucceeded { id := "pi_1" })
      else .delivery "evt_1" (.paymentFailed { id := "pi_1" })
    let ts : Schedule (Fin 2) PyErr := List.replicate 6 (0, .served) ++ List.replicate 6 (1, .served)
    let ran := Pool.run (setting (Doer.note 1) fun _ _ _ _ => True) ts (doerPool {} (fun _ => 0) acts) onePayment
    (∀ i, (acts i).About 1) ∧ ¬ OutcomeFinal 1 acts ran.1 ran.2 := by
  refine ⟨by decide +kernel, fun h => ?_⟩
  exact absurd (h.granted (by decide +kernel) (by decide +kernel)) (by decide +kernel)

end Gatewayz
