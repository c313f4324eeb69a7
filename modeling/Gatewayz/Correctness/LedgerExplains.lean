import Gatewayz.Billing.Served
import Gatewayz.Correctness.GrantedOnce

/-!
# `Correctness.LedgerExplains` — does the ledger explain the balance?

Four functions write a user's balance and the ledger row about it: `add_credits_to_user`, `deduct_credits`,
`reset_subscription_allowance` and `forfeit_subscription_allowance`, the first two by a stored procedure or by
a legacy path. A run *explains* the balance if every row it writes has the difference of its balances as its
amount, and everybody's balance moved by the sum of the amounts written for them.

Five paths do. `reset_subscription_allowance` logs the *new allowance* as the amount, although the old one is
lost; its row is right only if the old allowance was zero (`ledger_explains_iff`).

That is about operations one after the other. Where many programs run at once, and whatever the link does, the
ledger is an **audit trail** as long as none of them moves money but through the procedures (`audit_trail`).
-/

namespace Gatewayz

open Exec

/-! ## Runs of successful operations -/

/-- The operations on a balance, with their arguments. -/
inductive Operation where
  | addCreditsToUser (params : AddCreditsParams)
  | deductCredits (now : Time) (apiKey : String) (tokens : ℚ) (metadata : Option Dict)
      (requestId : Option String)
  | resetSubscriptionAllowance (now : Time) (userId : Int) (allowanceAmount : ℚ) (tier : String)
  | forfeitSubscriptionAllowance (now : Time) (userId : Int) (raiseOnError : Bool)
      (effectiveDate cancellationContext : Option String)

/-- The operation, answering whether it succeeded. -/
def Operation.prog : Operation → DbProg Bool
  | .addCreditsToUser params => do
    Gatewayz.addCreditsToUser params
    pure true
  | .deductCredits now apiKey tokens metadata requestId => do
    Gatewayz.deductCredits now apiKey tokens metadata requestId
    pure true
  | .resetSubscriptionAllowance now userId amount tier =>
    Gatewayz.resetSubscriptionAllowance now userId amount tier
  | .forfeitSubscriptionAllowance now userId raiseOnError effectiveDate context => do
    let _ ← Gatewayz.forfeitSubscriptionAllowance now userId raiseOnError effectiveDate context
    pure true

abbrev Calls := List (Operation × List (Outcome PyErr))

def Calls.run : Calls → World → World
  | [], w => w
  | (op, os) :: rest, w => Calls.run rest (op.prog.run exec os w).2.2

def Calls.Succeed : Calls → World → Prop
  | [], _ => True
  | (op, os) :: rest, w =>
    op.prog.Admits (setting noNote callSucceeds) os () w ∧
      (op.prog.run exec os w).1 = .ok true ∧ Calls.Succeed rest (op.prog.run exec os w).2.2

instance decidableSucceed : ∀ (calls : Calls) (w : World), Decidable (calls.Succeed w)
  | [], _ => .isTrue trivial
  | (op, os) :: rest, w =>
    have := decidableSucceed rest (op.prog.run exec os w).2.2
    inferInstanceAs (Decidable (_ ∧ _ ∧ _))

def Operation.ResetsFromZero (op : Operation) (w : World) : Prop :=
  match op with
  | .resetSubscriptionAllowance _ userId _ _ => w.allowance userId = 0
  | _ => True

def Calls.ResetsFromZero : Calls → World → Prop
  | [], _ => True
  | (op, os) :: rest, w => op.ResetsFromZero w ∧ Calls.ResetsFromZero rest (op.prog.run exec os w).2.2

/-- The ledger explains the balance. -/
def LedgerExplains (w w' : World) : Prop :=
  (∀ t ∈ written w w', t.Explained) ∧ ∀ u, w'.balance u = w.balance u + amountFor u (written w w')

/-! ## The books -/

/-- One step of the books. It writes rows that are right about themselves exactly under `cond`, and under
    `cond` they also add up. -/
def Accounts (w w' : World) (cond : Prop) : Prop :=
  ∃ rows, Wrote w w' rows ∧ ((∀ t ∈ rows, t.Explained) ↔ cond) ∧
    (cond → ∀ u, w'.balance u = w.balance u + amountFor u rows)

theorem Accounts.refl (w : World) : Accounts w w True :=
  ⟨[], by simp [Wrote], by simp, by simp [amountFor]⟩

theorem Accounts.trans {w w' w'' : World} {c c' : Prop} (h : Accounts w w' c) (h' : Accounts w' w'' c') :
    Accounts w w'' (c ∧ c') := by
  obtain ⟨rows, hw, hexp, hbal⟩ := h
  obtain ⟨rows', hw', hexp', hbal'⟩ := h'
  refine ⟨rows ++ rows', hw.trans hw', ?_, ?_⟩
  · rw [← hexp, ← hexp', List.forall_mem_append]
  · rintro ⟨hc, hc'⟩ u
    rw [hbal' hc' u, hbal hc u, amountFor_append, add_assoc]

theorem Accounts.explains_iff {w w' : World} {c : Prop} (h : Accounts w w' c) : LedgerExplains w w' ↔ c := by
  obtain ⟨rows, hw, hexp, hbal⟩ := h
  rw [LedgerExplains, hw.written_eq, hexp]
  exact ⟨fun h => h.1, fun hc => ⟨hc, hbal hc⟩⟩

theorem accounts_write {w : World} {u : Int} {row row' : User} {t : Transaction} (hu : w.users u = some row)
    (ht : t.userId = u) (hbefore : t.balanceBefore = row.balance) (hafter : t.balanceAfter = row'.balance)
    {c : Prop} (hc : t.amount = row'.balance - row.balance ↔ c) :
    Accounts w ((w.setUser u row').appendTransaction t) c := by
  refine ⟨[w.storedTransaction t], rfl, ?_, ?_⟩
  · simp only [List.mem_singleton, forall_eq, Transaction.Explained, World.storedTransaction, hbefore, hafter]
    rw [← hc]
    exact eq_comm
  · intro hcond v
    have hamount := hc.mpr hcond
    rw [World.balance_appendTransaction, World.balance_setUser, amountFor_single]
    by_cases hv : v = u
    · subst hv
      simp only [World.storedTransaction, ht, if_true, hamount, World.balance_of_users hu]
      ring
    · have hvu : ¬ u = v := fun h => hv h.symm
      simp [World.storedTransaction, ht, hv, hvu]

/-! ## The six paths -/

section Paths

variable {α : Type} {E : PyErr → Unit → World → Prop}

theorem sumOfBalances_ok {row : User} {b : ℚ} (h : sumOfBalances row = .ok b) : b = row.balance := by
  unfold sumOfBalances at h
  split at h
  · rename_i a p ha hp
    cases h
    simp [User.balance, User.allowance, User.purchased, ha, hp]
  all_goals cases h

theorem wp_legacyAddCredits (p : AddCreditsParams) (w : World) :
    (legacyAddCredits p).wp (setting noNote callSucceeds) .alone
      (fun _ _ w' => Accounts w w' True) (fun _ _ _ => True) () w := by
  unfold legacyAddCredits
  rw [wp_bind]
  refine wp_call (s := .selectUser p.userId) rfl fun a ha => ?_
  have ha : w.users p.userId = a := by simpa [exec] using ha
  cases a with
  | none => trivial
  | some row =>
    cases hs : sumOfBalances row with
    | error e => simp only [hs]; trivial
    | ok before =>
      simp only [hs, wp_bind]
      refine wp_write ha ?_
      simp only [wp_bind]
      refine wp_log fun _ => accounts_write ha rfl (sumOfBalances_ok hs) ?_ (iff_true_intro ?_)
      · simp [Transaction.logged, User.balance, User.allowance]
      · simp [Transaction.logged, User.balance, User.allowance, User.purchased]

theorem wp_addCreditsToUser (p : AddCreditsParams) (w : World) :
    (addCreditsToUser p).wp (setting noNote callSucceeds) .alone
      (fun _ _ w' => Accounts w w' True) (fun _ _ _ => True) () w := by
  unfold addCreditsToUser
  split
  · trivial
  simp only [wp_tryCatch, atomicAddCreditsRpc, wp_bind, wp_attempt]
  refine wp_procedure (fun result hresult => ?_) fun e => wp_legacyAddCredits p w
  obtain rfl : (atomicAddCredits p.forRpc w).1 = result := by simpa [exec] using hresult
  rcases atomicAddCredits_cases p.forRpc w with ⟨hsame, -⟩ | ⟨row, hu, -, -, heq⟩
  · simp only [exec, hsame]
    split
    · exact .refl w
    · split
      · trivial
      · exact wp_legacyAddCredits p w
  · simp only [exec, heq, RpcResult.grant, if_true]
    refine accounts_write hu rfl rfl rfl (iff_true_intro ?_)
    rw [AddCreditsParams.granted_balance]
    simp [AddCreditsParams.ledgerRow]

theorem Charges.accounts {u : Int} {tokens : ℚ} {w w' : World} {row row' : User} {t : Transaction}
    (h : Charges u tokens w w' row row' t) : Accounts w w' True := by
  rw [h.world]
  refine accounts_write h.found h.user h.before h.after (iff_true_intro ?_)
  rw [h.amount, h.moved]
  ring

theorem wp_resetSubscriptionAllowance (now : Time) (u : Int) (amount : ℚ) (tier : String) (w : World) :
    (resetSubscriptionAllowance now u amount tier).wp (setting noNote callSucceeds) .alone
      (fun done _ w' => done = true → Accounts w w' (w.allowance u = 0)) (fun _ _ _ => True) () w := by
  unfold resetSubscriptionAllowance
  simp only [wp_tryCatch, wp_bind]
  refine wp_call (s := .selectUser u) rfl fun a ha => ?_
  have ha : w.users u = a := by simpa [exec] using ha
  cases a with
  | none => exact fun h => by cases h
  | some row =>
    simp only [wp_bind]
    refine wp_write ha ?_
    simp only [wp_bind]
    refine wp_log fun _ _ => accounts_write ha rfl rfl ?_ ?_
    · simp [Transaction.logged, User.balance, User.purchased]
    · rw [World.allowance_of_users ha]
      simp only [Transaction.logged, User.balance, UserPatch.apply_allowance, UserPatch.apply_purchased,
        Option.some_or, Option.none_or, Option.getD_some]
      change amount = amount + row.purchased - (row.allowance + row.purchased) ↔ row.allowance = 0
      constructor
      · intro h; linarith
      · intro h; linarith

theorem wp_forfeitSubscriptionAllowance (now : Time) (u : Int) (raiseOnError : Bool)
    (effectiveDate context : Option String) (w : World) :
    (forfeitSubscriptionAllowance now u raiseOnError effectiveDate context).wp (setting noNote callSucceeds)
      .alone (fun _ _ w' => Accounts w w' True) (fun _ _ _ => True) () w := by
  unfold forfeitSubscriptionAllowance
  simp only [wp_tryCatch, wp_bind]
  refine wp_call (s := .selectUser u) rfl fun a ha => ?_
  have ha : w.users u = a := by simpa [exec] using ha
  cases a with
  | none =>
    cases raiseOnError with
    | true => trivial
    | false => exact .refl w
  | some row =>
    by_cases hpos : 0 < row.allowance
    · simp only [if_pos hpos, wp_bind]
      refine wp_write ha ?_
      simp only [wp_bind]
      refine wp_log fun _ => accounts_write ha rfl rfl ?_ (iff_true_intro ?_)
      · simp [Transaction.logged, User.balance, User.purchased]
      · simp [Transaction.logged, User.balance, User.allowance, User.purchased]
    · simp only [if_neg hpos]
      exact .refl w

end Paths

/-! ## Whole runs -/

/-- One operation. -/
theorem accounts_operation (op : Operation) {os : List (Outcome PyErr)} {w : World}
    (ha : op.prog.Admits (setting noNote callSucceeds) os () w) (hok : (op.prog.run exec os w).1 = .ok true) :
    Accounts w (op.prog.run exec os w).2.2 (op.ResetsFromZero w) := by
  have hwp : op.prog.wp (setting noNote callSucceeds) .alone
      (fun done _ w' => done = true → Accounts w w' (op.ResetsFromZero w)) (fun _ _ _ => True) () w := by
    cases op with
    | addCreditsToUser p =>
      simp only [Operation.prog, wp_bind]
      exact wp_post (fun _ _ _ h _ => h) (wp_addCreditsToUser p w)
    | deductCredits now apiKey tokens metadata requestId =>
      simp only [Operation.prog, wp_bind]
      refine wp_deductCredits (steady_start w) rfl ?_ (fun _ _ _ _ => trivial) ?_
      · intro _ w' hw _ _
        rw [hw]
        exact .refl w
      · intro d _ _ _ _ _ _ w' hw
        rw [hw]
        refine wp_mono ?_ (fun _ _ _ _ => trivial) (wp_pay_served d w)
        rintro _ _ w' ⟨row, row', t, hcharge⟩ -
        exact hcharge.accounts
    | resetSubscriptionAllowance now userId amount tier =>
      exact wp_resetSubscriptionAllowance now userId amount tier w
    | forfeitSubscriptionAllowance now userId raiseOnError effectiveDate context =>
      simp only [Operation.prog, wp_bind]
      exact wp_post (fun _ _ _ h _ => h)
        (wp_forfeitSubscriptionAllowance now userId raiseOnError effectiveDate context w)
  obtain ⟨_, hend⟩ := wp_run_alone hwp ha
  change Answered _ _ (op.prog.run exec os w).1 at hend
  rw [hok] at hend
  exact hend rfl

theorem accounts_run (calls : Calls) {w : World} (h : calls.Succeed w) :
    Accounts w (calls.run w) (calls.ResetsFromZero w) := by
  induction calls generalizing w with
  | nil => exact .refl w
  | cons call calls ih =>
    obtain ⟨op, os⟩ := call
    obtain ⟨ha, hok, hrest⟩ := h
    exact (accounts_operation op ha hok).trans (ih hrest)

/-- **The ledger explains the balance exactly if every reset found an allowance of zero.** -/
theorem ledger_explains_iff (calls : Calls) (w : World) (h : calls.Succeed w) :
    LedgerExplains w (calls.run w) ↔ calls.ResetsFromZero w :=
  (accounts_run calls h).explains_iff

/-- A grant, a charge by the procedure and one by the legacy path, a forfeiture and a reset after it. -/
def someCalls : Calls :=
  [(.addCreditsToUser { userId := 1, credits := 10, transactionType := .purchase }, []),
    (.deductCredits 0 "k" (1 / 2) none none, []),
    (.deductCredits 0 "k" (1 / 4) none none,
      [.served, .served, .served, .served, .dropped ⟨.apiError "PGRST202", "no such function"⟩]),
    (.forfeitSubscriptionAllowance 0 1 false none none, []),
    (.resetSubscriptionAllowance 0 1 15 "pro", [])]

theorem ledger_explains_iff_someCalls :
    LedgerExplains (oneUser 5 0) (someCalls.run (oneUser 5 0)) ↔ someCalls.ResetsFromZero (oneUser 5 0) :=
  ledger_explains_iff someCalls (oneUser 5 0) (by decide +kernel)

/-- A reset that replaces an allowance of 5 by 15 logs 15. -/
theorem reset_with_allowance_left :
    let calls : Calls := [(.resetSubscriptionAllowance 0 1 15 "pro", [])]
    calls.Succeed (oneUser 5 0) ∧ ¬ LedgerExplains (oneUser 5 0) (calls.run (oneUser 5 0)) :=
  ⟨by decide +kernel, fun h =>
    absurd h.1 (by decide +kernel)⟩

/-! ## By the procedures alone -/

/-- The rows lead from one balance to another: each starts where the one before ended, and its amount is its change, up to the
    millionth that `atomic_deduct_credits` lets pass. -/
def Chained : ℚ → List Transaction → ℚ → Prop
  | a, [], b => a = b
  | a, t :: rows, b =>
    t.balanceBefore = a ∧ |t.balanceAfter - t.balanceBefore - t.amount| ≤ 1 / 1000000 ∧ Chained t.balanceAfter rows b

theorem Chained.append {a b c : ℚ} {rows rows' : List Transaction} (h : Chained a rows b) (h' : Chained b rows' c) :
    Chained a (rows ++ rows') c := by
  induction rows generalizing a with
  | nil =>
    obtain rfl : a = b := h
    exact h'
  | cons t rows ih => exact ⟨h.1, h.2.1, ih h.2.2⟩

/-- An audit trail: the ledger has only grown, by rows that lead everybody's balance to where it is now, and no column has gone
    below zero. -/
structure AuditTrail (w w' : World) : Prop where
  chained : ∃ rows, Wrote w w' rows ∧ ∀ u, Chained (w.balance u) (rows.filter fun t => t.userId = u) (w'.balance u)
  allowance : ∀ u, 0 ≤ w.allowance u → 0 ≤ w'.allowance u
  purchased : ∀ u, 0 ≤ w.purchased u → 0 ≤ w'.purchased u

section Trail

variable {w w' w'' : World} {s : Stmt} {u : Int} {row row' : User} {t : Transaction}

theorem SameMoney.trail (h : SameMoney w w') : AuditTrail w w' where
  chained := ⟨[], by rw [Wrote, h.ledger, List.append_nil], fun u => (h.balance u).symm⟩
  allowance := fun u hu => (h.allowance u).symm ▸ hu
  purchased := fun u hu => (h.purchased u).symm ▸ hu

theorem AuditTrail.trans (h : AuditTrail w w') (h' : AuditTrail w' w'') : AuditTrail w w'' := by
  obtain ⟨rows, hrows, hchain⟩ := h.chained
  obtain ⟨rows', hrows', hchain'⟩ := h'.chained
  refine ⟨⟨rows ++ rows', hrows.trans hrows', fun u => ?_⟩, fun u hu => h'.allowance u (h.allowance u hu),
    fun u hu => h'.purchased u (h.purchased u hu)⟩
  rw [List.filter_append]
  exact (hchain u).append (hchain' u)

/-- One row of `users` written and its ledger row with it. -/
theorem trail_write (hu : w.users u = some row) (huser : t.userId = u) (hbefore : t.balanceBefore = row.balance)
    (hafter : t.balanceAfter = row'.balance) (hamount : |row'.balance - row.balance - t.amount| ≤ 1 / 1000000)
    (hallowance : 0 ≤ row.allowance → 0 ≤ row'.allowance) (hpurchased : 0 ≤ row.purchased → 0 ≤ row'.purchased) :
    AuditTrail w ((w.setUser u row').appendTransaction t) := by
  refine ⟨⟨[w.storedTransaction t], rfl, fun v => ?_⟩, fun v hv => ?_, fun v hv => ?_⟩
  · rw [World.balance_appendTransaction, World.balance_setUser]
    by_cases hv : v = u
    · subst hv
      have hown : [w.storedTransaction t].filter (fun t => t.userId = v) = [w.storedTransaction t] := by
        simp [World.storedTransaction, huser]
      rw [hown, if_pos rfl, World.balance_of_users hu]
      exact ⟨hbefore, by simpa only [World.storedTransaction, hbefore, hafter] using hamount, hafter⟩
    · have hother : [w.storedTransaction t].filter (fun t => t.userId = v) = [] := by
        simp [World.storedTransaction, huser, Ne.symm hv]
      rw [hother, if_neg hv]
      rfl
  · rw [World.allowance_appendTransaction, World.allowance_setUser]
    split
    · next he => exact hallowance (World.allowance_of_users hu ▸ he ▸ hv)
    · exact hv
  · rw [World.purchased_appendTransaction, World.purchased_setUser]
    split
    · next he => exact hpurchased (World.purchased_of_users hu ▸ he ▸ hv)
    · exact hv

theorem atomicDeductCredits_parts {p : DeductCreditsParams} (h : (atomicDeductCredits p w).1.success = true) :
    |p.fromAllowance + p.fromPurchased - p.tokensAmount| ≤ 1 / 1000000 := by
  by_contra hlarge
  unfold atomicDeductCredits at h
  rw [if_pos (lt_of_not_ge hlarge)] at h
  split at h
  · cases h
  · split at h <;> cases h

/-- Step: a statement that leaves the balances to the procedures. -/
theorem exec_trail (h : s.ByProcedure) (w : World) : AuditTrail w (exec s w).2 := by
  by_cases hkeeps : s.KeepsMoney
  · exact (exec_keeps hkeeps w).trail
  -- what moves money: the two procedures, and what `h` does not allow
  cases s with
  | rpcAtomicAddCredits p =>
    simp only [exec]
    rcases atomicAddCredits_cases p w with ⟨he, -⟩ | ⟨row, hu, hpos, -, he⟩
    · rw [he]
      exact (SameMoney.refl w).trail
    · rw [he]
      refine trail_write hu rfl rfl rfl ?_ (fun ha => ?_) fun hp => ?_
      · rw [p.granted_balance]
        simp [AddCreditsParams.ledgerRow]
      · simp only [AddCreditsParams.granted, User.allowance, Option.getD_some] at ha ⊢
        split <;> linarith
      · simp only [AddCreditsParams.granted, User.purchased, Option.getD_some] at hp ⊢
        split <;> linarith
  | rpcAtomicDeductCredits p =>
    have hparts := atomicDeductCredits_parts (p := p) (w := w)
    simp only [exec]
    rcases atomicDeductCredits_cases p w with ⟨he, -⟩ | ⟨row, hu, -, -, -, ha, hp, he⟩
    · rw [he]
      exact (SameMoney.refl w).trail
    · -- here the row shows the sum asked for, and the columns move by the parts
      rw [he] at hparts ⊢
      refine trail_write hu rfl rfl rfl ?_ (fun _ => sub_nonneg.mpr ha) fun _ => sub_nonneg.mpr hp
      rw [p.charged_balance, abs_sub_comm]
      refine le_of_eq_of_le (congrArg abs ?_) (hparts rfl)
      simp only [DeductCreditsParams.ledgerRow]
      ring
  | insertTransaction t => exact h.elim
  | updateUser v patch => exact absurd h hkeeps
  | updateUserIf v a p patch => exact absurd h hkeeps
  | _ => exact absurd trivial hkeeps

theorem answer_trail (h : s.ByProcedure) (o : Outcome PyErr) (w : World) : AuditTrail w (answer exec s o w).2 := by
  cases o with
  | served => exact exec_trail h w
  | dropped e => exact (SameMoney.refl w).trail
  | lost e => exact exec_trail h w

end Trail

theorem trail_of_log {γ ι α : Type} [DecidableEq ι] {note : γ → (s : Stmt) → Except PyErr (Res s) → World → World → γ}
    {allow : γ → Stmt → Outcome PyErr → World → Prop} {T : Pool ι PyErr Stmt Res γ α} (ts : Schedule ι PyErr) (w : World)
    (h : ∀ x ∈ Pool.log (setting note allow) ts T w, x.stmt.ByProcedure) :
    AuditTrail w (Pool.run (setting note allow) ts T w).2 := by
  refine Pool.run_of_log (fun w => (SameMoney.refl w).trail) AuditTrail.trans ts T w fun x hx => ?_
  obtain ⟨o, hafter⟩ := Pool.log_answer ts hx
  rw [hafter]
  exact answer_trail (h x hx) o x.before

instance : DecidablePred Stmt.ByProcedure := fun s => by
  apply @Stmt.casesOn (fun s => Decidable s.ByProcedure) s <;> intros <;> unfold Stmt.ByProcedure <;>
    (try unfold UserPatch.KeepsBalance) <;> infer_instance

/-- Two charges and a top-up of one user at once. -/
def threeAtOnce : Fin 3 → DbProg Unit
  | 0 => deductCredits 0 "k" (1 / 2) none (some "r1")
  | 1 => addCreditsToUser { userId := 1, credits := 10, transactionType := .purchase }
  | 2 => deductCredits 0 "k" (1 / 4) none (some "r2")

end Gatewayz
