import Gatewayz.Billing.Rules

/-!
# `Billing.Served` — runs in which every call succeeds

If the database carries out every statement, a billing function does what it says. `callSucceeds` is this fault model; a
stored procedure may be missing, which selects the legacy path.
-/

namespace Gatewayz

open Exec

/-- Every database call succeeds; a stored procedure may be missing, which selects the legacy path. -/
def callSucceeds (_ : Unit) (s : Stmt) (o : Outcome PyErr) (w : World) : Prop :=
  match o with
  | .served => (exec s w).1.isOk = true
  | .dropped _ => s.isProcedure = true
  | .lost _ => False

instance decidableCallSucceeds : ∀ g s o w, Decidable (callSucceeds g s o w)
  | _, s, .served, w => inferInstanceAs (Decidable ((exec s w).1.isOk = true))
  | _, s, .dropped _, _ => inferInstanceAs (Decidable (s.isProcedure = true))
  | _, _, .lost _, _ => inferInstanceAs (Decidable False)

def noNote (_ : Unit) (s : Stmt) (_ : Except PyErr (Res s)) (_ _ : World) : Unit := ()

/-- The user of an API key, with his row. -/
def World.ownerOf (w : World) (apiKey : String) : Option (Int × User) :=
  match w.keyUser apiKey with
  | some u => (w.users u).map fun row => (u, row)
  | none => (w.userByApiKey apiKey).bind fun u => (w.users u).map fun row => (u, row)

def World.ownedByAdmin (w : World) (apiKey : String) : Bool := (w.ownerOf apiKey).any fun owner => w.isAdmin owner.1

/-- A deduction made: the user's row is written, and one ledger row says so. -/
structure Charges (u : Int) (tokens : ℚ) (w w' : World) (row row' : User) (t : Transaction) : Prop where
  found : w.users u = some row
  world : w' = (w.setUser u row').appendTransaction t
  user : t.userId = u
  kind : t.transactionType = .apiUsage
  amount : t.amount = -tokens
  before : t.balanceBefore = row.balance
  after : t.balanceAfter = row'.balance
  moved : row'.balance = row.balance - tokens

/-- What a deduction has done: nothing below the minimum or for an admin, else one charge. -/
def Deducted (apiKey : String) (tokens : ℚ) (w w' : World) : Prop :=
  if tokens < 1 / 1000000 ∨ w.ownedByAdmin apiKey then w' = w else ∃ u row row' t, Charges u tokens w w' row row' t

theorem Charges.written_eq {u : Int} {tokens : ℚ} {w w' : World} {row row' : User} {t : Transaction}
    (h : Charges u tokens w w' row row' t) : written w w' = [w.storedTransaction t] := by
  rw [h.world]
  exact Wrote.written_eq rfl

/-! ## Statements -/

section Statements

variable {α : Type} {E : PyErr → Unit → World → Prop} {w : World}

theorem wp_call {s : Stmt} (hs : s.isProcedure = false) {Q : Res s → Unit → World → Prop} {w : World}
    (h : ∀ a, (exec s w).1 = .ok a → Q a () (exec s w).2) :
    (query s).wp (setting noNote callSucceeds) .alone Q E () w := by
  refine wp_alone_stmt (C := setting noNote callSucceeds) fun o ho => ?_
  cases o with
  | served =>
    cases ha : (exec s w).1 with
    | ok a => simp only [answer_served, ha]; exact h a ha
    | error e => simp [callSucceeds, ha, Except.isOk, Except.toBool] at ho
  | dropped e => simp [callSucceeds, hs] at ho
  | lost e => exact ho.elim

theorem steady_start (w : World) : Steady noNote callSucceeds .alone fun _ w' => w' = w where
  rely := fun _ _ _ hr h => hr ▸ h
  read := fun _ _ _ _ _ _ _ h => ⟨trivial, h⟩

theorem wp_log {t : Transaction} {Q : Option Transaction → Unit → World → Prop} {w : World}
    (h : ∀ row, Q (some row) () (w.appendTransaction t.logged)) :
    (logCreditTransaction t).wp (setting noNote callSucceeds) .alone Q E () w := by
  refine wp_logCreditTransaction (I := fun _ w' => w' = w) ?_ rfl
  intro _ w' hw
  subst hw
  refine wp_call (s := .insertTransaction t.logged) rfl fun a ha => ?_
  rcases insertTransactionRow_cases t.logged w' with ⟨e, he⟩ | ⟨-, he⟩
  · simp [exec, he] at ha
  · simp only [exec, he]
    exact h a

theorem wp_write {u : Int} {patch : UserPatch} {row : User} {Q : Option User → Unit → World → Prop} {w : World}
    (hu : w.users u = some row) (h : Q (some (patch.apply row)) () (w.setUser u (patch.apply row))) :
    (query (.updateUser u patch)).wp (setting noNote callSucceeds) .alone Q E () w := by
  refine wp_call (s := .updateUser u patch) rfl fun updated hupd => ?_
  have hrow : updateUserRow u patch w = (some (patch.apply row), w.setUser u (patch.apply row)) := by
    rw [updateUserRow, hu]
  obtain rfl : some (patch.apply row) = updated := by simpa [exec, hrow] using hupd
  simpa only [exec, hrow] using h

theorem wp_procedure {s : Stmt} {Q : Res s → Unit → World → Prop} {w : World}
    (hserved : ∀ a, (exec s w).1 = .ok a → Q a () (exec s w).2) (hmissing : ∀ e, E e () w) :
    (query s).wp (setting noNote callSucceeds) .alone Q E () w := by
  refine wp_alone_stmt (C := setting noNote callSucceeds) fun o ho => ?_
  cases o with
  | served =>
    cases ha : (exec s w).1 with
    | ok a => simp only [answer_served, ha]; exact hserved a ha
    | error e => simp [callSucceeds, ha, Except.isOk, Except.toBool] at ho
  | dropped e => exact hmissing e
  | lost e => exact ho.elim

/-- The lookups find the owner. -/
theorem wp_lookupUserByApiKey_served {apiKey : String} {Q : Option (Int × User) → Unit → World → Prop}
    (h : Q (w.ownerOf apiKey) () w) : (lookupUserByApiKey apiKey).wp (setting noNote callSucceeds) .alone Q E () w := by
  unfold lookupUserByApiKey
  rw [wp_bind]
  refine wp_call (s := .selectApiKey apiKey) rfl fun keyResult hkey => ?_
  have hkey : w.keyUser apiKey = keyResult := by simpa [exec] using hkey
  unfold World.ownerOf at h
  rw [hkey] at h
  cases keyResult with
  | some u =>
    simp only [wp_bind]
    refine wp_call (s := .selectUser u) rfl fun row hrow => ?_
    have hrow : w.users u = row := by simpa [exec] using hrow
    change Q ((w.users u).map fun row => (u, row)) () w at h
    rw [hrow] at h
    exact h
  | none =>
    refine wp_call (s := .selectUserByApiKey apiKey) rfl fun row hrow => ?_
    have hrow : ((w.userByApiKey apiKey).bind fun u => (w.users u).map fun r => (u, r)) = row := by
      simpa [exec] using hrow
    change Q ((w.userByApiKey apiKey).bind fun u => (w.users u).map fun row => (u, row)) () w at h
    rw [hrow] at h
    exact h

theorem wp_isAdminTierUser_served {u : Int} {Q : Bool → Unit → World → Prop} (h : Q (w.isAdmin u) () w) :
    (isAdminTierUser u).wp (setting noNote callSucceeds) .alone Q E () w := by
  unfold isAdminTierUser
  simp only [wp_tryCatch, wp_bind]
  refine wp_call (s := .selectActivePlanTypes u) rfl fun planTypes hplans => ?_
  have hplans : w.activePlanTypes u = planTypes := by simpa [exec] using hplans
  unfold World.isAdmin at h
  rw [hplans] at h
  exact h

/-! ## Deducting -/

theorem wp_legacyPath_served (d : Deduction) (w : World) : d.legacyPath.wp (setting noNote callSucceeds) .alone
      (fun _ _ w' => ∃ row row' t, Charges d.userId d.tokens w w' row row' t) (fun _ _ _ => True) () w := by
  unfold Deduction.legacyPath
  split
  · trivial
  simp only [wp_bind]
  refine wp_call (s := .updateUserIf _ _ _ _) rfl fun updated hupd => ?_
  rcases exec_updateUserIf_cases d.userId d.allowanceBefore d.purchasedBefore d.chargePatch w with
    heq | ⟨row, hu, ha, hp, heq⟩
  · obtain rfl : none = updated := by simpa [heq] using hupd
    simp only [wp_bind]
    exact wp_call (s := .selectUser d.userId) rfl fun _ _ => trivial
  · rw [heq] at hupd ⊢
    cases hupd
    simp only [wp_bind]
    obtain ⟨hbefore, hafter⟩ := d.after_balance ha hp
    have hwritten : (d.chargePatch.apply row).balance = d.balanceAfter := d.chargePatch_balance row
    refine wp_log fun _ => ⟨row, d.chargePatch.apply row, d.legacyRow.logged, hu, rfl, rfl, rfl, rfl, hbefore.symm, ?_, ?_⟩
    · exact hwritten.symm
    · rw [hwritten, hafter]

theorem wp_pay_served (d : Deduction) (w : World) : d.pay.wp (setting noNote callSucceeds) .alone
      (fun _ _ w' => ∃ row row' t, Charges d.userId d.tokens w w' row row' t) (fun _ _ _ => True) () w := by
  simp only [Deduction.pay, wp_bind]
  refine wp_atomicPath (wp_procedure (fun result hresult => ?_) fun e => ⟨wp_legacyPath_served d w, trivial⟩)
  obtain rfl : (atomicDeductCredits d.rpcParams w).1 = result := by simpa [exec] using hresult
  rcases atomicDeductCredits_cases d.rpcParams w with ⟨hsame, hno⟩ | ⟨row, hu, -, -, -, -, -, heq⟩
  · simp only [exec, hsame, hno]
    exact ⟨(fun h => by cases h), fun _ => ⟨wp_legacyPath_served d w, fun _ => trivial⟩⟩
  · simp only [exec, heq]
    refine ⟨fun _ => ⟨row, d.rpcParams.charged row, d.rpcParams.ledgerRow row, hu, rfl, rfl, rfl, rfl, rfl, rfl, ?_⟩,
      fun h => by cases h⟩
    rw [DeductCreditsParams.charged_balance]
    simp [Deduction.rpcParams, Deduction.fromPurchased]

/-- `deduct_credits` without a request id. -/
theorem wp_deductCredits_served (now : Time) (apiKey : String) (tokens : ℚ) (metadata : Option Dict) (w : World) :
    (deductCredits now apiKey tokens metadata none).wp (setting noNote callSucceeds) .alone
      (fun _ _ w' => Deducted apiKey tokens w w') (fun _ _ _ => True) () w := by
  unfold deductCredits
  split
  · trivial
  split
  · rename_i hmin
    exact (if_pos (.inl hmin)).mpr rfl
  rename_i hmin
  have hnew : alreadyCharged none = pure false := rfl
  simp only [wp_tryCatch, wp_bind, hnew, Prog.pure_eq, wp_ret, Bool.false_eq_true, if_false]
  refine wp_lookupUserByApiKey_served ?_
  cases howner : w.ownerOf apiKey with
  | none => trivial
  | some owner =>
    obtain ⟨u, row⟩ := owner
    have hadmin : w.ownedByAdmin apiKey = w.isAdmin u := by rw [World.ownedByAdmin, howner]; rfl
    simp only [Deduction.settle, wp_bind]
    refine wp_isAdminTierUser_served ?_
    cases hu : w.isAdmin u with
    | true => exact (if_pos (.inr (hadmin.trans hu))).mpr rfl
    | false =>
      have hcharged : ¬ (tokens < 1 / 1000000 ∨ w.ownedByAdmin apiKey = true) := by
        rw [hadmin, hu]
        simpa using hmin
      simp only [Bool.false_eq_true, if_false, wp_bind, wp_tryCatch]
      refine wp_mono ?_ ?_ ((steady_start w).keeps (enforceDailyUsageLimit_reads now u tokens) rfl)
      · intro _ _ w' hw
        rw [hw]
        refine wp_mono (fun _ _ _ h => ?_) (fun _ _ _ _ => trivial) (wp_pay_served _ w)
        exact (if_neg hcharged).mpr ⟨u, h⟩
      · intro e _ w' _
        split <;> trivial

end Statements

end Gatewayz
