import Gatewayz.Billing.Database

/-!
# `Billing.Effects` — what a statement can change

Every invariant of the billing code is about two things, the balance columns of `users` and the ledger. This
module says once which statements touch them and how, so that no later proof unfolds `exec`:

* `atomicAddCredits_cases`, `atomicDeductCredits_cases` — a stored procedure leaves the world alone, or it
  changes one row and appends one ledger row, under the guards listed;
* `exec_keeps` — every other statement keeps users' balances and the ledger.
-/

namespace Gatewayz

open Exec

variable {w : World} {u : Int} {row : User}

namespace World

@[simp] theorem users_setUser_self (w : World) (u : Int) (row : User) :
    (w.setUser u row).users u = some row := by simp [setUser]
theorem users_setUser_of_ne (w : World) {u v : Int} (h : v ≠ u) (row : User) :
    (w.setUser u row).users v = w.users v := by simp [setUser, h]

@[simp] theorem creditTransactions_setUser (w : World) (u : Int) (row : User) :
    (w.setUser u row).creditTransactions = w.creditTransactions := rfl
@[simp] theorem payments_setUser (w : World) (u : Int) (row : User) : (w.setUser u row).payments = w.payments := rfl
@[simp] theorem users_appendTransaction (w : World) (t : Transaction) : (w.appendTransaction t).users = w.users := rfl
@[simp] theorem creditTransactions_appendTransaction (w : World) (t : Transaction) :
    (w.appendTransaction t).creditTransactions = w.creditTransactions ++ [w.storedTransaction t] := rfl

theorem allowance_of_users (h : w.users u = some row) : w.allowance u = row.allowance := by simp [allowance, h]
theorem purchased_of_users (h : w.users u = some row) : w.purchased u = row.purchased := by simp [purchased, h]
theorem balance_of_users (h : w.users u = some row) : w.balance u = row.balance := by
  rw [balance, allowance_of_users h, purchased_of_users h, User.balance]

theorem allowance_setUser (w : World) (u v : Int) (row : User) :
    (w.setUser u row).allowance v = if v = u then row.allowance else w.allowance v := by
  by_cases h : v = u
  · subst h; simp [allowance]
  · simp [allowance, users_setUser_of_ne w h, h]
theorem purchased_setUser (w : World) (u v : Int) (row : User) :
    (w.setUser u row).purchased v = if v = u then row.purchased else w.purchased v := by
  by_cases h : v = u
  · subst h; simp [purchased]
  · simp [purchased, users_setUser_of_ne w h, h]
theorem balance_setUser (w : World) (u v : Int) (row : User) :
    (w.setUser u row).balance v = if v = u then row.balance else w.balance v := by
  rw [balance, allowance_setUser, purchased_setUser]
  by_cases h : v = u <;> simp [h, User.balance, balance]

@[simp] theorem allowance_appendTransaction (w : World) (t : Transaction) (u : Int) :
    (w.appendTransaction t).allowance u = w.allowance u := rfl
@[simp] theorem purchased_appendTransaction (w : World) (t : Transaction) (u : Int) :
    (w.appendTransaction t).purchased u = w.purchased u := rfl
@[simp] theorem balance_appendTransaction (w : World) (t : Transaction) (u : Int) :
    (w.appendTransaction t).balance u = w.balance u := rfl

theorem refusesTransaction_setUser {old : User} (h : w.users u = some old) (row : User)
    (t : Transaction) : (w.setUser u row).refusesTransaction t = w.refusesTransaction t := by
  have huser : ((w.setUser u row).users t.userId).isNone = (w.users t.userId).isNone := by
    by_cases ht : t.userId = u
    · simp [ht, h]
    · rw [users_setUser_of_ne w ht]
  simp only [refusesTransaction, huser]
  rfl

end World

/-! ## The two halves of a legacy path -/

theorem insertTransactionRow_cases (t : Transaction) (w : World) : (∃ e, insertTransactionRow t w = (.error e, w)) ∨
      w.refusesTransaction t = none ∧
        insertTransactionRow t w = (.ok (w.storedTransaction t), w.appendTransaction t) := by
  unfold insertTransactionRow
  cases w.refusesTransaction t with
  | some e => exact .inl ⟨e, rfl⟩
  | none => exact .inr ⟨rfl, rfl⟩

theorem updateUserRow_cases (u : Int) (patch : UserPatch) (w : World) :
    w.users u = none ∧ updateUserRow u patch w = (none, w) ∨
      ∃ row, w.users u = some row ∧
        updateUserRow u patch w = (some (patch.apply row), w.setUser u (patch.apply row)) := by
  unfold updateUserRow
  cases h : w.users u with
  | none => exact .inl ⟨rfl, rfl⟩
  | some row => exact .inr ⟨row, rfl, rfl⟩

/-- The guarded update writes only if it finds both columns as expected. -/
theorem exec_updateUserIf_cases (u : Int) (a p : ℚ) (patch : UserPatch) (w : World) :
    exec (.updateUserIf u a p patch) w = (.ok none, w) ∨
      ∃ row, w.users u = some row ∧ row.subscriptionAllowance = some a ∧ row.purchasedCredits = some p ∧
        exec (.updateUserIf u a p patch) w = (.ok (some (patch.apply row)), w.setUser u (patch.apply row)) := by
  simp only [exec]
  rcases updateUserRow_cases u patch w with ⟨hu, he⟩ | ⟨row, hu, he⟩
  · simp [hu]
  · by_cases hguard : row.subscriptionAllowance = some a ∧ row.purchasedCredits = some p
    · simp [hu, he, hguard]
    · simp [hu, hguard]

variable {t : Transaction}

/-- A row that is stored is for a user who exists, and its keys are new. -/
theorem World.refusesTransaction_eq_none (h : w.refusesTransaction t = none) :
    (w.users t.userId).isSome ∧ (∀ p, t.paymentId = some p → (w.payment? p).isSome) ∧
      (∀ r, t.requestId = some r → w.transactionByRequestId r = none) ∧
      (t.transactionType = .purchase → ∀ p, t.paymentId = some p → w.hasPurchase p = false) := by
  unfold refusesTransaction at h
  split at h
  · cases h
  · split at h
    · cases h
    · split at h
      · cases h
      · split at h
        · cases h
        · rename_i hu hp hr hq
          refine ⟨?_, ?_, ?_, ?_⟩
          · simpa using Option.isSome_iff_ne_none.mpr (by simpa using hu)
          · intro p hpp
            rw [hpp] at hp
            simpa [Option.isSome_iff_ne_none] using hp
          · intro r hrr
            rw [hrr] at hr
            simpa using hr
          · intro ht p hpp
            rw [ht, hpp] at hq
            simpa using hq

/-- And a row like that is stored. -/
theorem World.refusesTransaction_none (huser : (w.users t.userId).isSome)
    (hpay : ∀ p, t.paymentId = some p → (w.payment? p).isSome)
    (hkey : ∀ r, t.requestId = some r → w.transactionByRequestId r = none)
    (hpurchase : t.transactionType = .purchase → ∀ p, t.paymentId = some p → w.hasPurchase p = false) :
    w.refusesTransaction t = none := by
  have hu : ¬ (w.users t.userId).isNone = true := by simpa [Option.isSome_iff_ne_none] using huser
  have hp : ¬ (t.paymentId.any fun p => (w.payment? p).isNone) = true := by
    cases hq : t.paymentId with
    | none => simp
    | some p => simpa [Option.isSome_iff_ne_none] using hpay p hq
  have hr : ¬ (t.requestId.any fun r => (w.transactionByRequestId r).isSome) = true := by
    cases hq : t.requestId with
    | none => simp
    | some r => simp [hkey r hq]
  have hf : ¬ (t.transactionType = .purchase ∧ t.paymentId.any w.hasPurchase = true) := by
    rintro ⟨ht, hany⟩
    cases hq : t.paymentId with
    | none => simp [hq] at hany
    | some p => simp [hq, hpurchase ht p hq] at hany
  unfold refusesTransaction
  rw [if_neg hu, if_neg hp, if_neg hr, if_neg hf]

/-! ## The stored procedures -/

theorem AddCreditsParams.granted_balance (p : AddCreditsParams) (row : User) :
    (p.granted row).balance = row.balance + p.credits := by
  by_cases h : p.target = .allowance <;> simp [granted, User.balance, User.allowance, User.purchased, h] <;> ring

theorem DeductCreditsParams.charged_balance (p : DeductCreditsParams) (row : User) :
    (p.charged row).balance = row.balance - (p.fromAllowance + p.fromPurchased) := by
  simp only [charged, User.balance, User.allowance, User.purchased, Option.getD_some]
  ring

/-- The ledger holds the grant already: its `request_id` is there, or its payment as a purchase. -/
def AddCreditsParams.Duplicate (p : AddCreditsParams) (w : World) : Prop :=
  (∃ r, p.requestId = some r ∧ (w.transactionByRequestId r).isSome) ∨
    p.transactionType = .purchase ∧ ∃ q, p.paymentId = some q ∧ w.hasPurchase q = true

/-- A unique violation means a duplicate. -/
theorem World.refusesTransaction_unique {e : PyErr} (h : w.refusesTransaction t = some e)
    (he : e.kind = .apiError "23505") : (∃ r, t.requestId = some r ∧ (w.transactionByRequestId r).isSome) ∨
      t.transactionType = .purchase ∧ ∃ q, t.paymentId = some q ∧ w.hasPurchase q = true := by
  unfold refusesTransaction at h
  split at h
  · cases h; simp [foreignKeyViolation] at he
  · split at h
    · cases h; simp [foreignKeyViolation] at he
    · split at h
      · rename_i hr
        obtain ⟨r, hr, hsome⟩ := by simpa [Option.any_eq_true] using hr
        exact .inl ⟨r, hr, hsome⟩
      · split at h
        · rename_i hq
          obtain ⟨ht, q, hq, hled⟩ := by simpa [Option.any_eq_true] using hq
          exact .inr ⟨ht, q, hq, hled⟩
        · cases h

/-- What `atomic_add_credits` can do: nothing, and a success is then a duplicate; or one update with its
    ledger row. -/
theorem atomicAddCredits_cases (p : AddCreditsParams) (w : World) :
    (atomicAddCredits p w).2 = w ∧ ((atomicAddCredits p w).1.success = true → p.Duplicate w) ∨
      ∃ row, w.users p.userId = some row ∧ 0 < p.credits ∧
        w.refusesTransaction (p.ledgerRow row) = none ∧
        atomicAddCredits p w =
          (.grant false (some (w.storedTransaction (p.ledgerRow row)).id) (p.granted row),
            (w.setUser p.userId (p.granted row)).appendTransaction (p.ledgerRow row)) := by
  unfold atomicAddCredits
  by_cases hc : p.credits ≤ 0
  · rw [if_pos hc]; exact .inl ⟨rfl, by simp [RpcResult.failure]⟩
  · rw [if_neg hc]
    cases hu : w.users p.userId with
    | none => exact .inl ⟨rfl, by simp [RpcResult.failure]⟩
    | some row =>
      simp only
      cases hr : p.requestId.bind w.transactionByRequestId with
      | some t =>
        obtain ⟨r, hreq, hled⟩ := Option.bind_eq_some_iff.mp hr
        exact .inl ⟨rfl, fun _ => .inl ⟨r, hreq, by rw [hled]; rfl⟩⟩
      | none =>
        simp only
        rcases insertTransactionRow_cases (p.ledgerRow row) (w.setUser p.userId (p.granted row)) with
          ⟨e, he⟩ | ⟨hn, he⟩
        · rw [he]
          simp only
          by_cases hk : e.kind = .apiError "23505"
          · rw [if_pos hk]
            have href : w.refusesTransaction (p.ledgerRow row) = some e := by
              rw [← World.refusesTransaction_setUser hu (p.granted row)]
              unfold insertTransactionRow at he
              split at he
              · rename_i e' href; cases he; exact href
              · cases he
            exact .inl ⟨rfl, fun _ => World.refusesTransaction_unique href hk⟩
          · rw [if_neg hk]; exact .inl ⟨rfl, by simp [RpcResult.failure]⟩
        · rw [he]
          rw [World.refusesTransaction_setUser hu] at hn
          exact .inr ⟨row, rfl, lt_of_not_ge hc, hn, rfl⟩

/-- What `atomic_deduct_credits` can do: refuse, or one update with its ledger row, with both components
    covered. -/
theorem atomicDeductCredits_cases (p : DeductCreditsParams) (w : World) :
    (atomicDeductCredits p w).2 = w ∧ (atomicDeductCredits p w).1.success = false ∨
      ∃ row, w.users p.userId = some row ∧ 0 < p.tokensAmount ∧ 0 ≤ p.fromAllowance ∧ 0 ≤ p.fromPurchased ∧
        p.fromAllowance ≤ row.allowance ∧ p.fromPurchased ≤ row.purchased ∧
        atomicDeductCredits p w =
          (.grant false (some (w.storedTransaction (p.ledgerRow row)).id) (p.charged row),
            (w.setUser p.userId (p.charged row)).appendTransaction (p.ledgerRow row)) := by
  unfold atomicDeductCredits
  by_cases ht : p.tokensAmount ≤ 0
  · rw [if_pos ht]; exact .inl ⟨rfl, rfl⟩
  rw [if_neg ht]
  by_cases hf : p.fromAllowance < 0 ∨ p.fromPurchased < 0
  · rw [if_pos hf]; exact .inl ⟨rfl, rfl⟩
  rw [if_neg hf]
  by_cases hs : 1 / 1000000 < |p.fromAllowance + p.fromPurchased - p.tokensAmount|
  · rw [if_pos hs]; exact .inl ⟨rfl, rfl⟩
  rw [if_neg hs]
  cases hu : w.users p.userId with
  | none => exact .inl ⟨rfl, rfl⟩
  | some row =>
    simp only
    by_cases hb : row.balance < p.tokensAmount
    · rw [if_pos hb]; exact .inl ⟨rfl, rfl⟩
    rw [if_neg hb]
    by_cases ha : row.allowance < p.fromAllowance
    · rw [if_pos ha]; exact .inl ⟨rfl, rfl⟩
    rw [if_neg ha]
    by_cases hp : row.purchased < p.fromPurchased
    · rw [if_pos hp]; exact .inl ⟨rfl, rfl⟩
    rw [if_neg hp]
    rcases insertTransactionRow_cases (p.ledgerRow row) (w.setUser p.userId (p.charged row)) with
      ⟨e, he⟩ | ⟨-, he⟩
    · rw [he]; exact .inl ⟨rfl, rfl⟩
    · rw [he]
      push Not at hf
      exact .inr ⟨row, rfl, lt_of_not_ge ht, hf.1, hf.2, le_of_not_gt ha, le_of_not_gt hp, rfl⟩

/-! ## Statements that change nothing -/

/-- The `select`s. -/
def Stmt.Reads : Stmt → Prop
  | .selectApiKey _ | .selectUser _ | .selectUserByApiKey _ | .selectUsersIn _ | .selectActivePlanTypes _
  | .selectTransactionByRequestId _ | .selectUsageSince _ _ | .selectAdminGrantsSince _ _
  | .selectPayment _ | .selectPaymentByIntent _ | .selectPaymentBySession _ | .selectUserByCustomer _
  | .selectPlanIdByTier _ | .selectTierOfProduct _ | .selectAllowanceOfTier _ | .retrieveSession _
  | .retrieveIntent _ | .retrieveSubscription _ | .selectEvent _ => True
  | _ => False

instance : DecidablePred Stmt.Reads := fun s => by
  cases s <;> unfold Stmt.Reads <;> infer_instance

def Stmt.isProcedure : Stmt → Bool
  | .rpcAtomicAddCredits _ | .rpcAtomicDeductCredits _ => true
  | _ => false

variable {s : Stmt}

theorem exec_reads (h : s.Reads) (w : World) : (exec s w).2 = w := by
  cases s <;> first | rfl | exact h.elim

theorem answer_reads (h : s.Reads) (o : Outcome PyErr) (w : World) : (answer exec s o w).2 = w := by
  cases o with
  | served => exact exec_reads h w
  | dropped e => rfl
  | lost e => exact exec_reads h w

/-- What the handlers of subscription events issue: `select`s, and writes that have nothing to do with payments. -/
def Stmt.OfSubscription : Stmt → Prop
  | .updateUser _ _ | .updateApiKeys _ _ | .deactivateUserPlans _ | .insertUserPlan _ => True
  | .insertTransaction t => t.transactionType ≠ .purchase
  | s => s.Reads

theorem ofSubscription_of_reads (h : s.Reads) : s.OfSubscription := by
  cases s <;> trivial

/-! ## Statements that move no money -/

/-- The two worlds agree on the ledger and on everybody's balance columns. -/
structure SameMoney (w w' : World) : Prop where
  ledger : w'.creditTransactions = w.creditTransactions
  allowance : ∀ u, w'.allowance u = w.allowance u
  purchased : ∀ u, w'.purchased u = w.purchased u

theorem SameMoney.refl (w : World) : SameMoney w w := ⟨rfl, fun _ => rfl, fun _ => rfl⟩

variable {w' : World}

theorem SameMoney.balance (h : SameMoney w w') (u : Int) : w'.balance u = w.balance u := by
  rw [World.balance, h.allowance, h.purchased, World.balance]

/-- Statements that touch neither a balance column nor the ledger. -/
def Stmt.KeepsMoney : Stmt → Prop
  | .updateUser _ patch => patch.KeepsBalance
  | .updateUserIf _ _ _ patch => patch.KeepsBalance
  | .rpcAtomicAddCredits _ => False
  | .rpcAtomicDeductCredits _ => False
  | .insertTransaction _ => False
  | _ => True

theorem updateUserRow_sameMoney {patch : UserPatch} (h : patch.KeepsBalance) (w : World) :
    SameMoney w (updateUserRow u patch w).2 := by
  rcases updateUserRow_cases u patch w with ⟨-, he⟩ | ⟨row, hu, he⟩
  · rw [he]; exact .refl w
  · rw [he]
    refine ⟨rfl, fun v => ?_, fun v => ?_⟩
    · rw [World.allowance_setUser, h.allowance]
      by_cases hv : v = u
      · rw [if_pos hv, hv, World.allowance_of_users hu]
      · rw [if_neg hv]
    · rw [World.purchased_setUser, h.purchased]
      by_cases hv : v = u
      · rw [if_pos hv, hv, World.purchased_of_users hu]
      · rw [if_neg hv]

theorem insertPaymentRow_sameMoney (p : Payment) (w : World) : SameMoney w (insertPaymentRow p w).2 := by
  unfold insertPaymentRow
  repeat' split
  all_goals first | exact .refl w | exact ⟨rfl, fun _ => rfl, fun _ => rfl⟩

theorem insertWebhookEventRow_sameMoney (e : WebhookEvent) (w : World) : SameMoney w (insertWebhookEventRow e w).2 := by
  unfold insertWebhookEventRow
  repeat' split
  all_goals first | exact .refl w | exact ⟨rfl, fun _ => rfl, fun _ => rfl⟩

theorem insertUserPlanRow_sameMoney (p : UserPlan) (w : World) : SameMoney w (insertUserPlanRow p w).2 := by
  unfold insertUserPlanRow
  repeat' split
  all_goals first | exact .refl w | exact ⟨rfl, fun _ => rfl, fun _ => rfl⟩

/-- Every other statement moves no money, whether or not its answer arrives. -/
theorem exec_keeps (h : s.KeepsMoney) (w : World) : SameMoney w (exec s w).2 := by
  cases s with
  | updateUser u patch => exact updateUserRow_sameMoney h w
  | updateUserIf u a p patch =>
    simp only [exec]
    split
    · exact updateUserRow_sameMoney h w
    · exact .refl w
  | insertPayment p => exact insertPaymentRow_sameMoney p w
  | insertWebhookEvent e => exact insertWebhookEventRow_sameMoney e w
  | insertUserPlan p => exact insertUserPlanRow_sameMoney p w
  | rpcAtomicAddCredits p => exact h.elim
  | rpcAtomicDeductCredits p => exact h.elim
  | insertTransaction t => exact h.elim
  | _ => exact ⟨rfl, fun _ => rfl, fun _ => rfl⟩

/-! ## Statements on the accounts -/

/-- The statements that write `users` or the ledger. -/
def Stmt.OnAccounts : Stmt → Prop
  | .updateUser _ _ | .updateUserIf _ _ _ _ | .rpcAtomicAddCredits _ | .rpcAtomicDeductCredits _
  | .insertTransaction _ => True
  | _ => False

instance : DecidablePred Stmt.OnAccounts := fun s => by
  cases s <;> unfold Stmt.OnAccounts <;> infer_instance

theorem updateUserRow_onAccounts (u : Int) (patch : UserPatch) (w : World) :
    ∃ users ledger, (updateUserRow u patch w).2 = { w with users := users, creditTransactions := ledger } := by
  rcases updateUserRow_cases u patch w with ⟨-, he⟩ | ⟨row, -, he⟩
  · exact ⟨_, _, by rw [he]⟩
  · exact ⟨_, _, by rw [he]; rfl⟩

/-- They write nothing else. -/
theorem exec_onAccounts (h : s.OnAccounts) (w : World) :
    ∃ users ledger, (exec s w).2 = { w with users := users, creditTransactions := ledger } := by
  cases s with
  | updateUser u patch => exact updateUserRow_onAccounts u patch w
  | updateUserIf u a p patch =>
    simp only [exec]
    split
    · exact updateUserRow_onAccounts u patch w
    · exact ⟨_, _, rfl⟩
  | rpcAtomicAddCredits p =>
    rcases atomicAddCredits_cases p w with ⟨he, -⟩ | ⟨row, -, -, -, he⟩
    · exact ⟨_, _, by rw [exec, he]⟩
    · exact ⟨_, _, by rw [exec, he]; rfl⟩
  | rpcAtomicDeductCredits p =>
    rcases atomicDeductCredits_cases p w with ⟨he, -⟩ | ⟨row, -, -, -, -, -, -, he⟩
    · exact ⟨_, _, by rw [exec, he]⟩
    · exact ⟨_, _, by rw [exec, he]; rfl⟩
  | insertTransaction t =>
    rcases insertTransactionRow_cases t w with ⟨e, he⟩ | ⟨-, he⟩
    · exact ⟨_, _, by rw [exec, he]⟩
    · exact ⟨_, _, by rw [exec, he]; rfl⟩
  | _ => exact h.elim

/-- Users are there to stay. -/
theorem exec_usersStay (s : Stmt) (w : World) (h : (w.users u).isSome) : ((exec s w).2.users u).isSome := by
  have hset : ∀ v row, ((w.setUser v row).users u).isSome := by
    intro v row
    by_cases hv : u = v
    · subst hv; simp
    · rwa [World.users_setUser_of_ne w hv]
  have hupdate : ∀ v patch, ((updateUserRow v patch w).2.users u).isSome := by
    intro v patch
    rcases updateUserRow_cases v patch w with ⟨-, he⟩ | ⟨row, -, he⟩ <;> rw [he]
    · exact h
    · exact hset v _
  cases s with
  | updateUser v patch => exact hupdate v patch
  | updateUserIf v a p patch =>
    simp only [exec]
    split
    · exact hupdate v patch
    · exact h
  | rpcAtomicAddCredits p =>
    simp only [exec]
    rcases atomicAddCredits_cases p w with ⟨he, -⟩ | ⟨row, -, -, -, he⟩ <;> rw [he]
    · exact h
    · exact hset _ _
  | rpcAtomicDeductCredits p =>
    simp only [exec]
    rcases atomicDeductCredits_cases p w with ⟨he, -⟩ | ⟨row, -, -, -, -, -, -, he⟩ <;> rw [he]
    · exact h
    · exact hset _ _
  | insertTransaction t =>
    simp only [exec]
    rcases insertTransactionRow_cases t w with ⟨e, he⟩ | ⟨-, he⟩ <;> rw [he]
    · exact h
    · exact h
  | insertPayment p =>
    simp only [exec, insertPaymentRow]
    repeat' split
    all_goals exact h
  | insertWebhookEvent e =>
    simp only [exec, insertWebhookEventRow]
    repeat' split
    all_goals exact h
  | insertUserPlan p =>
    simp only [exec, insertUserPlanRow]
    repeat' split
    all_goals exact h
  | _ => exact h

/-! ## The rows of `payments` -/

/-- Statements that leave `payments` alone. -/
def Stmt.KeepsPayments : Stmt → Prop
  | .insertPayment _ | .updatePayment _ _ => False
  | _ => True

theorem exec_keepsPayments (h : s.KeepsPayments) (w : World) : (exec s w).2.payments = w.payments := by
  by_cases hacc : s.OnAccounts
  · obtain ⟨users, ledger, he⟩ := exec_onAccounts hacc w
    rw [he]
  cases s with
  | insertWebhookEvent e =>
    simp only [exec, insertWebhookEventRow]
    repeat' split
    all_goals rfl
  | insertUserPlan p =>
    simp only [exec, insertUserPlanRow]
    repeat' split
    all_goals rfl
  | insertPayment p => exact h.elim
  | updatePayment id patch => exact h.elim
  | _ => first | rfl | exact absurd trivial hacc

/-- The row an insert into `payments` stores. -/
def World.storedPayment (w : World) (p : Payment) : Payment := { p with id := w.payments.length + 1 }

/-- An insert of a payment appends its row, for a user who exists, or changes nothing. -/
theorem insertPaymentRow_cases (p : Payment) (w : World) : (∃ e, insertPaymentRow p w = (.error e, w)) ∨
      (w.users p.userId).isSome ∧
        insertPaymentRow p w =
          (.ok (w.storedPayment p), { w with payments := w.payments ++ [w.storedPayment p] }) := by
  unfold insertPaymentRow
  split
  · exact .inl ⟨_, rfl⟩
  rename_i huser
  repeat' split
  all_goals first | exact .inl ⟨_, rfl⟩ | exact .inr ⟨by simpa [Option.isSome_iff_ne_none] using huser, rfl⟩

variable (patch : PaymentPatch)

@[simp] theorem PaymentPatch.apply_id (r : Payment) : (patch.apply r).id = r.id := rfl
@[simp] theorem PaymentPatch.apply_userId (r : Payment) : (patch.apply r).userId = r.userId := rfl
@[simp] theorem PaymentPatch.apply_status (r : Payment) : (patch.apply r).status = patch.status := rfl

/-- A row after an update of `payments`. -/
theorem payment?_update (id : Int) (patch : PaymentPatch) (w : World) (q : Int) :
    (exec (.updatePayment id patch) w).2.payment? q =
      if q = id then (w.payment? q).map patch.apply else w.payment? q := by
  have hrow : ∀ r : Payment, (if r.id = id then patch.apply r else r).id = r.id := fun r => by
    split <;> rfl
  simp only [exec, World.payment?, List.find?_map, Function.comp_def, hrow]
  cases hfound : w.payments.find? (fun r => r.id = q) with
  | none => simp
  | some r =>
    have hid : r.id = q := by simpa using List.find?_some hfound
    by_cases hq : q = id <;> simp [hid, hq]

/-- The rows of `payments` are there to stay. -/
def PaymentsStay (w w' : World) : Prop := ∀ q, (w.payment? q).isSome → (w'.payment? q).isSome

theorem PaymentsStay.of_eq (h : w'.payments = w.payments) : PaymentsStay w w' := fun q hq => by
  rwa [World.payment?, h]

theorem exec_paymentsStay (s : Stmt) (w : World) : PaymentsStay w (exec s w).2 := by
  by_cases hkeeps : s.KeepsPayments
  · exact .of_eq (exec_keepsPayments hkeeps w)
  cases s with
  | insertPayment p =>
    simp only [exec]
    rcases insertPaymentRow_cases p w with ⟨e, he⟩ | ⟨-, he⟩
    · rw [he]; exact fun _ hq => hq
    · rw [he]
      intro q hq
      obtain ⟨r, hr⟩ := Option.isSome_iff_exists.mp hq
      have hr : w.payments.find? (fun p => p.id = q) = some r := hr
      simp [World.payment?, List.find?_append, hr]
  | updatePayment id patch =>
    intro q hq
    rw [payment?_update]
    split <;> simpa using hq
  | _ => exact absurd trivial hkeeps

theorem answer_paymentsStay (s : Stmt) (o : Outcome PyErr) (w : World) : PaymentsStay w (answer exec s o w).2 := by
  cases o with
  | served => exact exec_paymentsStay s w
  | dropped e => exact fun _ hq => hq
  | lost e => exact exec_paymentsStay s w

/-- The foreign key of `payments`: every row is a user's. -/
def World.PaymentsOwned (w : World) : Prop := ∀ row ∈ w.payments, (w.users row.userId).isSome

instance (w : World) : Decidable w.PaymentsOwned := inferInstanceAs (Decidable (∀ row ∈ w.payments, _))

theorem exec_paymentsOwned (s : Stmt) (h : w.PaymentsOwned) : (exec s w).2.PaymentsOwned := by
  have hstay : ∀ row ∈ w.payments, ((exec s w).2.users row.userId).isSome := fun row hrow =>
    exec_usersStay s w (h row hrow)
  by_cases hkeeps : s.KeepsPayments
  · intro row hrow
    rw [exec_keepsPayments hkeeps] at hrow
    exact hstay row hrow
  cases s with
  | insertPayment p =>
    revert hstay
    simp only [exec]
    rcases insertPaymentRow_cases p w with ⟨e, he⟩ | ⟨huser, he⟩
    · rw [he]
      exact fun _ => h
    · rw [he]
      intro hstay row hrow
      rcases List.mem_append.mp hrow with hold | hnew
      · exact hstay row hold
      · rw [List.mem_singleton.mp hnew]
        exact huser
  | updatePayment id patch =>
    intro row hrow
    obtain ⟨old, hold, rfl⟩ := List.mem_map.mp hrow
    split
    · exact hstay old hold
    · exact hstay old hold
  | _ => exact absurd trivial hkeeps

theorem answer_paymentsOwned (s : Stmt) (o : Outcome PyErr) (h : w.PaymentsOwned) :
    (answer exec s o w).2.PaymentsOwned := by
  cases o with
  | served => exact exec_paymentsOwned s h
  | dropped e => exact h
  | lost e => exact exec_paymentsOwned s h

/-! ## What Stripe keeps -/

/-- Statements that leave Stripe's objects and events alone. -/
def Stmt.KeepsStripe : Stmt → Prop
  | .createSession _ | .createIntent _ | .attemptSession _ _ | .attemptIntent _ _ => False
  | _ => True

instance : DecidablePred Stmt.KeepsStripe := fun s => by
  cases s <;> unfold Stmt.KeepsStripe <;> infer_instance

theorem exec_keepsStripe (h : s.KeepsStripe) (w : World) : (exec s w).2.stripe = w.stripe := by
  by_cases hacc : s.OnAccounts
  · obtain ⟨users, ledger, he⟩ := exec_onAccounts hacc w
    rw [he]
  cases s with
  | insertPayment p =>
    simp only [exec, insertPaymentRow]
    repeat' split
    all_goals rfl
  | insertWebhookEvent e =>
    simp only [exec, insertWebhookEventRow]
    repeat' split
    all_goals rfl
  | insertUserPlan p =>
    simp only [exec, insertUserPlanRow]
    repeat' split
    all_goals rfl
  | createSession p => exact h.elim
  | createIntent p => exact h.elim
  | attemptSession id succeeds => exact h.elim
  | attemptIntent id succeeds => exact h.elim
  | _ => first | rfl | exact absurd trivial hacc

theorem answer_keepsStripe (h : s.KeepsStripe) (o : Outcome PyErr) (w : World) :
    (answer exec s o w).2.stripe = w.stripe := by
  cases o with
  | served => exact exec_keepsStripe h w
  | dropped e => rfl
  | lost e => exact exec_keepsStripe h w

/-! ## The claims of webhook events -/

/-- Statements on other tables than `stripe_webhook_events`. -/
def Stmt.ClaimFree : Stmt → Prop
  | .insertWebhookEvent _ | .deleteWebhookEvent _ => False
  | _ => True

instance : DecidablePred Stmt.ClaimFree := fun s => by
  cases s <;> unfold Stmt.ClaimFree <;> infer_instance

theorem claimFree_of_reads (h : s.Reads) : s.ClaimFree := by
  cases s <;> trivial

/-- They leave the claims alone. -/
theorem exec_claimFree (h : s.ClaimFree) (w : World) : (exec s w).2.webhookEvents = w.webhookEvents := by
  by_cases hacc : s.OnAccounts
  · obtain ⟨users, ledger, he⟩ := exec_onAccounts hacc w
    rw [he]
  cases s with
  | insertPayment p =>
    simp only [exec, insertPaymentRow]
    repeat' split
    all_goals rfl
  | insertUserPlan p =>
    simp only [exec, insertUserPlanRow]
    repeat' split
    all_goals rfl
  | insertWebhookEvent e => exact h.elim
  | deleteWebhookEvent id => exact h.elim
  | _ => first | rfl | exact absurd trivial hacc

/-- The statements of `claim_event` and `release_event`. -/
def Stmt.OnClaims : Stmt → Prop
  | .insertWebhookEvent _ | .deleteWebhookEvent _ => True
  | _ => False

def World.Claimed (w : World) (eventId : String) : Prop := ∃ r ∈ w.webhookEvents, r.eventId = eventId

instance (w : World) (eventId : String) : Decidable (w.Claimed eventId) :=
  inferInstanceAs (Decidable (∃ r ∈ w.webhookEvents, r.eventId = eventId))

theorem insertWebhookEventRow_cases (e : WebhookEvent) (w : World) :
    (∃ err, insertWebhookEventRow e w = (.error err, w)) ∨
      insertWebhookEventRow e w = (.ok (), { w with webhookEvents := w.webhookEvents ++ [e] }) := by
  unfold insertWebhookEventRow
  repeat' split
  all_goals first | exact .inl ⟨_, rfl⟩ | exact .inr rfl

/-! ## What was written to the ledger -/

def written (w w' : World) : List Transaction := w'.creditTransactions.drop w.creditTransactions.length

def amountFor (u : Int) (rows : List Transaction) : ℚ :=
  ((rows.filter (fun t => t.userId = u)).map Transaction.amount).sum

/-- `w'` has the ledger of `w` and the rows on top. -/
def Wrote (w w' : World) (rows : List Transaction) : Prop :=
  w'.creditTransactions = w.creditTransactions ++ rows

variable {rows : List Transaction}

theorem Wrote.written_eq (h : Wrote w w' rows) : written w w' = rows := by
  rw [written, h, List.drop_left]

theorem Wrote.trans {w w' w'' : World} {rows rows' : List Transaction} (h : Wrote w w' rows)
    (h' : Wrote w' w'' rows') : Wrote w w'' (rows ++ rows') := by
  rw [Wrote, h', h, List.append_assoc]

theorem amountFor_append (u : Int) (rows rows' : List Transaction) :
    amountFor u (rows ++ rows') = amountFor u rows + amountFor u rows' := by
  simp [amountFor]

theorem amountFor_single (u : Int) (t : Transaction) : amountFor u [t] = if t.userId = u then t.amount else 0 := by
  by_cases h : t.userId = u <;> simp [amountFor, h]

@[simp] theorem written_self (w : World) : written w w = [] := by simp [written]

theorem SameMoney.written_eq (h : SameMoney w w') : written w w' = [] := by
  simp [written, h.ledger]

/-- The ledger only grows. -/
theorem exec_wrote (s : Stmt) (w : World) : ∃ rows, Wrote w (exec s w).2 rows := by
  have hsame : ∀ {w'}, w'.creditTransactions = w.creditTransactions → ∃ rows, Wrote w w' rows := fun h =>
    ⟨[], by rw [Wrote, h, List.append_nil]⟩
  have hupdate : ∀ u patch, (updateUserRow u patch w).2.creditTransactions = w.creditTransactions := by
    intro u patch
    rcases updateUserRow_cases u patch w with ⟨-, he⟩ | ⟨row, -, he⟩ <;> rw [he]
    rfl
  by_cases hkeeps : s.KeepsMoney
  · exact hsame (exec_keeps hkeeps w).ledger
  cases s with
  | rpcAtomicAddCredits p =>
    simp only [exec]
    rcases atomicAddCredits_cases p w with ⟨he, -⟩ | ⟨row, -, -, -, he⟩
    · exact hsame (by rw [he])
    · rw [he]; exact ⟨_, rfl⟩
  | rpcAtomicDeductCredits p =>
    simp only [exec]
    rcases atomicDeductCredits_cases p w with ⟨he, -⟩ | ⟨row, -, -, -, -, -, -, he⟩
    · exact hsame (by rw [he])
    · rw [he]; exact ⟨_, rfl⟩
  | insertTransaction t =>
    simp only [exec]
    rcases insertTransactionRow_cases t w with ⟨e, he⟩ | ⟨-, he⟩
    · exact hsame (by rw [he])
    · rw [he]; exact ⟨_, rfl⟩
  | updateUser u patch => exact hsame (hupdate u patch)
  | updateUserIf u a p patch =>
    simp only [exec]
    split
    · exact hsame (hupdate u patch)
    · exact hsame rfl
  | _ => exact absurd trivial hkeeps

theorem answer_wrote (s : Stmt) (o : Outcome PyErr) (w : World) : ∃ rows, Wrote w (answer exec s o w).2 rows := by
  cases o with
  | served => exact exec_wrote s w
  | dropped e => exact ⟨[], by simp [Wrote]⟩
  | lost e => exact exec_wrote s w

theorem Wrote.hasPurchase (h : Wrote w w' rows) {p : Int} (hp : w.hasPurchase p = true) : w'.hasPurchase p = true := by
  rw [World.hasPurchase, h, List.any_append]
  exact Bool.or_eq_true _ _ ▸ .inl hp

/-! ## Purchases through the procedure -/

variable {p : AddCreditsParams}

theorem purchase_first {q : Int} (ht : p.transactionType = .purchase) (hq : p.paymentId = some q)
    (hchange : (atomicAddCredits p w).2 ≠ w) :
    w.hasPurchase q = false ∧ (atomicAddCredits p w).2.hasPurchase q = true := by
  rcases atomicAddCredits_cases p w with ⟨he, -⟩ | ⟨row, -, -, hnew, he⟩
  · exact absurd he hchange
  · refine ⟨(World.refusesTransaction_eq_none hnew).2.2.2 ht q hq, ?_⟩
    rw [he]
    simp [World.hasPurchase, World.storedTransaction, AddCreditsParams.ledgerRow, ht, hq]

theorem atomicAddCredits_new (huser : w.users p.userId = some row) (hpos : 0 < p.credits)
    (hnew : w.refusesTransaction (p.ledgerRow row) = none) : atomicAddCredits p w =
      (.grant false (some (w.storedTransaction (p.ledgerRow row)).id) (p.granted row),
        (w.setUser p.userId (p.granted row)).appendTransaction (p.ledgerRow row)) := by
  have hkey : p.requestId.bind w.transactionByRequestId = none := by
    rw [Option.bind_eq_none_iff]
    intro key hkey
    exact (World.refusesTransaction_eq_none hnew).2.2.1 key hkey
  unfold atomicAddCredits insertTransactionRow
  rw [if_neg (not_le_of_gt hpos), huser]
  simp only [hkey]
  rw [World.refusesTransaction_setUser huser, hnew]
  rfl

/-- Where the payment's row is there, the procedure succeeds or does not find the user. -/
theorem atomicAddCredits_available (hpos : ¬ p.credits ≤ 0) (hpay : ∀ q, p.paymentId = some q → (w.payment? q).isSome) :
    (atomicAddCredits p w).1.success = true ∨
      w.users p.userId = none ∧ (atomicAddCredits p w).1 = .failure "user_not_found" := by
  unfold atomicAddCredits
  rw [if_neg hpos]
  cases hu : w.users p.userId with
  | none => exact .inr ⟨rfl, rfl⟩
  | some row =>
    left
    simp only
    cases p.requestId.bind w.transactionByRequestId with
    | some t => rfl
    | none =>
      simp only
      cases hins : insertTransactionRow (p.ledgerRow row) (w.setUser p.userId (p.granted row)) with
      | mk r w' =>
        cases r with
        | ok t => rfl
        | error e =>
          have href : w.refusesTransaction (p.ledgerRow row) = some e := by
            rw [← World.refusesTransaction_setUser hu (p.granted row)]
            unfold insertTransactionRow at hins
            split at hins
            · rename_i e' href; cases hins; exact href
            · cases hins
          -- user and payment are there, so only a unique index can refuse the row
          have hkind : e.kind = .apiError "23505" := by
            unfold World.refusesTransaction at href
            rw [if_neg (by simp [AddCreditsParams.ledgerRow, hu])] at href
            rw [if_neg] at href
            · split at href
              · cases href; rfl
              · split at href
                · cases href; rfl
                · cases href
            · cases hq : p.paymentId with
              | none => simp [AddCreditsParams.ledgerRow, hq]
              | some q => simpa [AddCreditsParams.ledgerRow, hq, Option.isSome_iff_ne_none] using hpay q hq
          simp only [if_pos hkind]
          rfl

/-! ## A small world -/

/-- User 1 has the given balance columns and the key `k`. -/
def oneUser (allowance purchased : ℚ) : World where
  users := fun u =>
    if u = 1 then some { subscriptionAllowance := some allowance, purchasedCredits := some purchased } else none
  userIds := [1]
  apiKeysNew := [{ apiKey := "k", userId := 1 }]

end Gatewayz
