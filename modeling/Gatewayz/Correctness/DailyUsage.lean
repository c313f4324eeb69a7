import Gatewayz.Billing.TierChanges
import Gatewayz.Correctness.LedgerExplains
import Mathlib.Algebra.Order.BigOperators.Group.List

/-!
# `Correctness.DailyUsage` — what counts towards the daily limit

`get_daily_usage` adds up the negative rows of the day and calls the sum usage. Charges are negative. So is the row about a forfeited
allowance, and the row about a tier change to less than was left of the old allowance; and an answer of the API stops at `max_rows` rows.

The law is about every ledger that any interleaving of calls of the six writers leaves. First, where its rows come from
(`rows_of_calls`): the charges are the rows of `deduct_credits`. Then the usage is the sum of the charges exactly if the answer leaves out
as much as it counts of other rows; for days within `max_rows`, if there are no other negative rows.
-/

namespace Gatewayz

open Exec

/-! ## The writers of the ledger -/

/-- A call that may write to `credit_transactions`. -/
inductive LedgerCall where
  | balance (op : Operation)
  | upgradeSubscription (now : Time) (userId : Int) (request : TierChangeRequest) (answers : StripeAnswers)
  | downgradeSubscription (now : Time) (userId : Int) (request : TierChangeRequest) (answers : StripeAnswers)

namespace LedgerCall

def prog : LedgerCall → DbProg Unit
  | balance op => do
    let _ ← op.prog
    pure ()
  | upgradeSubscription now userId request answers => do
    let _ ← Gatewayz.upgradeSubscription now userId request answers
    pure ()
  | downgradeSubscription now userId request answers => do
    let _ ← Gatewayz.downgradeSubscription now userId request answers
    pure ()

/-- Is it a call of `deduct_credits`? -/
def isDeduction : LedgerCall → Bool
  | balance (.deductCredits ..) => true
  | _ => false

end LedgerCall

def Operation.Logs : Operation → Transaction → Prop
  | .addCreditsToUser p, t => 0 < p.credits ∧ t.Says p.userId p.transactionType p.credits p.now
  | .deductCredits now _ tokens _ _, t => 1 / 1000000 ≤ tokens ∧ ∃ u, t.Says u .apiUsage (-tokens) now
  | .resetSubscriptionAllowance now u amount _, t => t.Says u .subscriptionRenewal amount now
  | .forfeitSubscriptionAllowance now u _ _ _, t => ∃ forfeited, 0 < forfeited ∧ t.Says u .subscriptionCancellation (-forfeited) now

def TierChange.Logs (change : TierChange) (now : Time) (u : Int) (t : Transaction) : Prop :=
  (∃ allowance, 0 < allowance ∧ t.Says u .subscriptionRenewal allowance now) ∨
    ∃ difference, t.Says u change.transactionType difference now

def LedgerCall.Logs : LedgerCall → Transaction → Prop
  | balance op => op.Logs
  | upgradeSubscription now u _ _ => TierChange.upgrade.Logs now u
  | downgradeSubscription now u _ _ => TierChange.downgrade.Logs now u

def Transaction.IsCharge (t : Transaction) : Prop := t.transactionType = .apiUsage ∧ t.amount < 0

instance : DecidablePred Transaction.IsCharge := fun _ => inferInstanceAs (Decidable (_ ∧ _))

variable {change : TierChange}

section Charges

variable {t : Transaction} {u : Int} {transactionType : TransactionType} {amount : ℚ} {now : Time}

theorem Transaction.Says.of_isCharge (h : t.Says u transactionType amount now) (hcharge : t.IsCharge) :
    transactionType = .apiUsage ∧ amount < 0 :=
  ⟨h.transactionType.symm.trans hcharge.1, h.amount ▸ hcharge.2⟩

theorem tierChange_notCharge (h : change.Logs now u t) : ¬ t.IsCharge := by
  intro hcharge
  rcases h with ⟨allowance, -, ht⟩ | ⟨difference, ht⟩
  · cases (ht.of_isCharge hcharge).1
  · have htype := (ht.of_isCharge hcharge).1
    cases change with
    | upgrade => cases htype
    | downgrade => cases htype

/-- The charges are the rows of `deduct_credits`. -/
theorem logs_isCharge {c : LedgerCall} (h : c.Logs t) : t.IsCharge ↔ c.isDeduction = true := by
  cases c with
  | upgradeSubscription now u request answers => exact iff_of_false (tierChange_notCharge h) nofun
  | downgradeSubscription now u request answers => exact iff_of_false (tierChange_notCharge h) nofun
  | balance op =>
    cases op with
    | addCreditsToUser p =>
      obtain ⟨hpos, ht⟩ := h
      exact iff_of_false (fun hcharge => absurd hpos (not_lt_of_gt (ht.of_isCharge hcharge).2)) nofun
    | deductCredits now apiKey tokens metadata requestId =>
      obtain ⟨hmin, u, ht⟩ := h
      refine iff_of_true ⟨ht.transactionType, ?_⟩ rfl
      rw [ht.amount]
      linarith
    | resetSubscriptionAllowance now u amount tier =>
      refine iff_of_false (fun hcharge => ?_) nofun
      cases (Transaction.Says.of_isCharge h hcharge).1
    | forfeitSubscriptionAllowance now u raiseOnError effectiveDate context =>
      obtain ⟨forfeited, -, ht⟩ := h
      refine iff_of_false (fun hcharge => ?_) nofun
      cases (ht.of_isCharge hcharge).1

end Charges

/-! ## Where the rows come from -/

section Books

variable {Q : Transaction → Prop}

def Stmt.Books (Q : Transaction → Prop) : Stmt → Prop
  | .insertTransaction t => ∀ id, Q { t with id := id }
  | .rpcAtomicAddCredits p => 0 < p.credits → ∀ row id, Q { p.ledgerRow row with id := id }
  | .rpcAtomicDeductCredits p => ∀ row id, Q { p.ledgerRow row with id := id }
  | _ => True

theorem books_of_reads {s : Stmt} (h : s.Reads) : s.Books Q := by
  cases s <;> trivial

theorem forall_mem_appendTransaction {w : World} {t : Transaction} (h : ∀ r ∈ w.creditTransactions, Q r)
    (ht : ∀ id, Q { t with id := id }) : ∀ r ∈ (w.appendTransaction t).creditTransactions, Q r := by
  intro r hr
  rcases List.mem_append.mp hr with hold | hnew
  · exact h r hold
  · rw [List.mem_singleton.mp hnew]
    exact ht _

/-- Step: a statement adds only the rows it may add. -/
theorem exec_books {s : Stmt} (hs : s.Books Q) {w : World} (h : ∀ t ∈ w.creditTransactions, Q t) :
    ∀ t ∈ (exec s w).2.creditTransactions, Q t := by
  have hupdate : ∀ u patch, (updateUserRow u patch w).2.creditTransactions = w.creditTransactions := by
    intro u patch
    rcases updateUserRow_cases u patch w with ⟨-, he⟩ | ⟨row, -, he⟩
    · rw [he]
    · rw [he]
      rfl
  by_cases hkeeps : s.KeepsMoney
  · rw [(exec_keeps hkeeps w).ledger]
    exact h
  cases s with
  | updateUser u patch => exact (hupdate u patch).symm ▸ h
  | updateUserIf u a p patch =>
    rcases exec_updateUserIf_cases u a p patch w with he | ⟨row, -, -, -, he⟩
    · rw [he]
      exact h
    · rw [he]
      exact h
  | rpcAtomicAddCredits p =>
    rcases atomicAddCredits_cases p w with ⟨he, -⟩ | ⟨row, -, hpos, -, he⟩
    · rw [exec, he]
      exact h
    · rw [exec, he]
      exact forall_mem_appendTransaction (w := w.setUser p.userId (p.granted row)) h (hs hpos row)
  | rpcAtomicDeductCredits p =>
    rcases atomicDeductCredits_cases p w with ⟨he, -⟩ | ⟨row, -, -, -, -, -, -, he⟩
    · rw [exec, he]
      exact h
    · rw [exec, he]
      exact forall_mem_appendTransaction (w := w.setUser p.userId (p.charged row)) h (hs row)
  | insertTransaction t =>
    rcases insertTransactionRow_cases t w with ⟨e, he⟩ | ⟨-, he⟩
    · rw [exec, he]
      exact h
    · rw [exec, he]
      exact forall_mem_appendTransaction h hs
  | _ => exact absurd trivial hkeeps

theorem pay_books {d : Deduction} (h : ∀ t : Transaction, t.Says d.userId .apiUsage (-d.tokens) d.now → Q t) :
    d.pay.Only (Stmt.Books Q) :=
  pay_only
    { procedure := fun _ _ => h _ ⟨rfl, rfl, rfl, rfl⟩
      guarded := trivial
      select := trivial
      insert := fun _ => h _ ⟨rfl, rfl, rfl, rfl⟩
      rollback := trivial }

theorem operation_books {op : Operation} (h : ∀ t, op.Logs t → Q t) : op.prog.Only (Stmt.Books Q) := by
  cases op with
  | addCreditsToUser p =>
    refine only_bind (addCreditsToUser_only_row ?_ trivial (fun _ => trivial) fun t hpos ht id => ?_) fun _ => only_ret _
    · exact fun hpos row id => h _ ⟨hpos, rfl, rfl, rfl, rfl⟩
    · exact h _ ⟨hpos, ht.1, ht.2, ht.3, ht.4⟩
  | deductCredits now apiKey tokens metadata requestId =>
    refine only_bind (deductCredits_only (fun s => books_of_reads) fun d hnow htokens hmin => ?_) fun _ => only_ret _
    refine pay_books fun t ht => ?_
    rw [hnow, htokens] at ht
    exact h t ⟨hmin, _, ht⟩
  | resetSubscriptionAllowance now u amount tier =>
    exact resetSubscriptionAllowance_only_row tier trivial trivial fun t ht id => h _ ⟨ht.1, ht.2, ht.3, ht.4⟩
  | forfeitSubscriptionAllowance now u raiseOnError effectiveDate context =>
    exact only_bind (forfeitSubscriptionAllowance_only_row raiseOnError effectiveDate context trivial trivial
      fun t forfeited hpos ht id => h _ ⟨forfeited, hpos, ht.1, ht.2, ht.3, ht.4⟩) fun _ => only_ret _

theorem only_orRaise {P : Stmt → Prop} {α : Type} (result : Except PyErr α) : (orRaise result).Only P := by
  cases result with
  | ok a => exact only_ret a
  | error e => exact only_fail e

theorem resetToNewTier_books {now : Time} {u : Int} {request : TierChangeRequest}
    {answers : StripeAnswers} {updated : Subscription} {currentTier : Option String}
    {newTier : String} (h : ∀ t, change.Logs now u t → Q t) :
    (resetToNewTier change now u request answers updated currentTier newTier).Only (Stmt.Books Q) := by
  refine only_bind (only_mono (fun _ => books_of_reads) (getAllowanceFromTier_reads _)) fun newAllowance => ?_
  refine only_bind (only_mono (fun _ => books_of_reads) (getAllowanceFromTier_reads _)) fun oldTierAllowance => ?_
  split
  · rename_i hpos
    refine only_bind (only_tryCatch (only_query trivial) fun _ => only_ret _) fun userFresh => ?_
    refine only_bind (only_orRaise _) fun remaining => ?_
    refine only_bind (resetSubscriptionAllowance_only_row newTier trivial trivial fun t ht id => ?_) fun resetResult => ?_
    · exact h _ (.inl ⟨newAllowance, hpos, ht.1, ht.2, ht.3, ht.4⟩)
    · split
      · exact only_bind (logCreditTransaction_only fun id => h _ (.inr ⟨_, rfl, rfl, rfl, rfl⟩)) fun _ => only_ret _
      · exact only_fail _
  · exact only_ret _

theorem changeTier_books {now : Time} {u : Int} {request : TierChangeRequest}
    {answers : StripeAnswers} (h : ∀ t, change.Logs now u t → Q t) :
    (changeTier change now u request answers).Only (Stmt.Books Q) := by
  refine only_tryCatch (only_bind ?_ fun found => ?_) fun e => ?_
  · unfold changeableSubscription
    refine only_bind (only_tryCatch (only_query trivial) fun _ => only_ret _) fun user => ?_
    cases user with
    | none => exact only_fail _
    | some user =>
      simp only
      split
      · exact only_fail _
      · refine only_bind (only_query trivial) fun subscription => ?_
        split
        · exact only_fail _
        split
        · exact only_fail _
        · exact only_ret _
  · refine only_bind (only_mono (fun _ => books_of_reads) (getTierFromProductId_reads _)) fun newTier => ?_
    split
    · exact only_fail _
    refine only_bind (only_orRaise _) fun updated => only_bind (only_query trivial) fun _ => ?_
    refine only_bind (assignPlan_only_of trivial trivial fun _ => trivial) fun _ => ?_
    exact only_bind (only_query trivial) fun _ => only_bind (resetToNewTier_books h) fun _ => only_bind (only_orRaise _) fun _ => only_ret _
  · split
    · exact only_fail _
    · exact only_fail _

theorem call_books {c : LedgerCall} (h : ∀ t, c.Logs t → Q t) : c.prog.Only (Stmt.Books Q) := by
  cases c with
  | balance op => exact only_bind (operation_books h) fun _ => only_ret _
  | upgradeSubscription now u request answers => exact only_bind (changeTier_books h) fun _ => only_ret _
  | downgradeSubscription now u request answers => exact only_bind (changeTier_books h) fun _ => only_ret _

end Books

/-! ## The answers of the API -/

/-- `max_rows`: how many rows an answer has at most. -/
def maxRows : Nat := 1000

/-- The API in front of the database. Of an answer that is too long it sends a part. -/
structure Api where
  sent : List ℚ → List ℚ
  part : ∀ amounts, (sent amounts).Subperm amounts
  length_sent : ∀ amounts, (sent amounts).length = min maxRows amounts.length

namespace Api

variable (api : Api)

def exec : (s : Stmt) → World → Except PyErr (Res s) × World
  | .selectUsageSince u start, w => (.ok (api.sent (w.usageSince u start)), w)
  | s, w => Gatewayz.exec s w

theorem exec_snd (s : Stmt) (w : World) : (api.exec s w).2 = (Gatewayz.exec s w).2 := by
  cases s <;> rfl

theorem sent_perm {amounts : List ℚ} (h : amounts.length ≤ maxRows) : (api.sent amounts).Perm amounts := by
  refine (api.part amounts).perm_of_length_le ?_
  rw [api.length_sent, Nat.min_eq_right h]

abbrev calls : Setting PyErr Stmt Res Unit World where
  exec := api.exec
  note := fun _ _ _ _ _ => ()
  allow := fun _ _ _ _ => True

def after {ι : Type} [DecidableEq ι] (c : ι → LedgerCall) (ts : Schedule ι PyErr) (w : World) : World :=
  (Pool.run api.calls ts (Pool.start () fun i => (c i).prog) w).2

theorem rows_of_calls {ι : Type} [DecidableEq ι] (c : ι → LedgerCall) (ts : Schedule ι PyErr) (w : World) :
    ∀ t ∈ (api.after c ts w).creditTransactions, t ∈ w.creditTransactions ∨ ∃ i, (c i).Logs t := by
  let Q : Transaction → Prop := fun t => t ∈ w.creditTransactions ∨ ∃ i, (c i).Logs t
  have hstep : ∀ (_ : ι) s, s.Books Q → ∀ w' : World, (∀ t ∈ w'.creditTransactions, Q t) →
      ∀ t ∈ (api.exec s w').2.creditTransactions, Q t := by
    intro _ s hs w' h
    rw [api.exec_snd]
    exact exec_books hs h
  exact Pool.run_keeps_of_only (C := api.calls) hstep ts (fun i => call_books fun _ ht => .inr ⟨i, ht⟩) fun _ ht => .inl ht

end Api

/-! ## What the usage is made of -/

namespace World

variable (w : World) (u : Int) (since : Time)

def charges : ℚ :=
  ((w.creditTransactions.filter (fun t => t.userId = u ∧ since ≤ t.createdAt ∧ t.IsCharge)).map fun t => -t.amount).sum

def otherDebits : List Transaction :=
  w.creditTransactions.filter fun t => t.userId = u ∧ since ≤ t.createdAt ∧ t.amount < 0 ∧ t.transactionType ≠ .apiUsage

def otherSpending : ℚ := ((w.otherDebits u since).map fun t => -t.amount).sum

theorem sum_abs_usageSince : ((w.usageSince u since).map abs).sum = w.charges u since + w.otherSpending u since := by
  let debits := w.creditTransactions.filter fun t => t.userId = u ∧ since ≤ t.createdAt ∧ t.amount < 0
  have hcharges : (debits.filter fun t => t.transactionType = .apiUsage) =
      w.creditTransactions.filter fun t => t.userId = u ∧ since ≤ t.createdAt ∧ t.IsCharge := by
    rw [List.filter_filter]
    refine List.filter_congr fun t _ => ?_
    simp only [Transaction.IsCharge, ← Bool.decide_and]
    grind
  have hothers : (debits.filter fun t => ¬ t.transactionType = .apiUsage) = w.otherDebits u since := by
    rw [List.filter_filter]
    refine List.filter_congr fun t _ => ?_
    simp only [← Bool.decide_and, decide_eq_decide]
    grind
  have habs : (w.usageSince u since).map abs = debits.map fun t => -t.amount := by
    rw [usageSince, List.map_map]
    refine List.map_congr_left fun t ht => abs_of_neg ?_
    have hdebit := (List.mem_filter.mp ht).2
    exact (of_decide_eq_true hdebit).2.2
  rw [habs, ← List.sum_map_filter_add_sum_map_filter_not (fun t : Transaction => t.transactionType = .apiUsage), hcharges, hothers]
  rfl

theorem otherSpending_eq_zero_iff : w.otherSpending u since = 0 ↔
      ∀ t ∈ w.creditTransactions, t.userId = u → since ≤ t.createdAt → t.amount < 0 → t.transactionType = .apiUsage := by
  have hpos : ∀ amount ∈ (w.otherDebits u since).map fun t => -t.amount, 0 < amount := by
    intro amount hamount
    obtain ⟨t, ht, rfl⟩ := List.mem_map.mp hamount
    have hother := (List.mem_filter.mp ht).2
    exact neg_pos.mpr (of_decide_eq_true hother).2.2.1
  constructor
  · intro hzero t ht huser hsince hneg
    by_contra htype
    have hmem : t ∈ w.otherDebits u since := List.mem_filter.mpr ⟨ht, decide_eq_true ⟨huser, hsince, hneg, htype⟩⟩
    exact absurd hzero (ne_of_gt (List.sum_pos _ hpos (List.ne_nil_of_mem (List.mem_map_of_mem hmem))))
  · intro hall
    have hnil : w.otherDebits u since = [] := by
      refine List.filter_eq_nil_iff.mpr fun t ht hother => ?_
      obtain ⟨huser, hsince, hneg, htype⟩ := of_decide_eq_true hother
      exact htype (hall t ht huser hsince hneg)
    rw [otherSpending, hnil]
    rfl

end World

/-! ## The law -/

namespace Api

variable (api : Api) (w : World) (u : Int) (now : Time)

def leftOut (since : Time) : ℚ := ((w.usageSince u since).map abs).sum - ((api.sent (w.usageSince u since)).map abs).sum

/-- The daily limit counts usage only: the usage is the sum of the charges of the day, and an amount is refused exactly if it goes
    beyond the limit on top of them. -/
def CountsUsageOnly : Prop :=
  ((getDailyUsage now u).run api.exec [] w).1 = .ok (w.charges u (startOfDay now)) ∧
    ∀ requested, ∃ check, ((checkDailyUsageLimit now u requested).run api.exec [] w).1 = .ok check ∧
      (check.allowed = false ↔ dailyUsageLimit < w.charges u (startOfDay now) + requested)

theorem getDailyUsage_run :
    (getDailyUsage now u).run api.exec [] w = (.ok (((api.sent (w.usageSince u (startOfDay now))).map abs).sum), [], w) := rfl

theorem checkDailyUsageLimit_run {used : ℚ} (h : (getDailyUsage now u).run api.exec [] w = (.ok used, [], w)) (requested : ℚ) :
    ∃ check, ((checkDailyUsageLimit now u requested).run api.exec [] w).1 = .ok check ∧
      (check.allowed = false ↔ dailyUsageLimit < used + requested) := by
  unfold checkDailyUsageLimit
  rw [Prog.run_bind, h]
  exact ⟨_, rfl, by simp⟩

theorem leftOut_eq_zero {since : Time} (h : (w.usageSince u since).length ≤ maxRows) : api.leftOut w u since = 0 := by
  rw [leftOut, ((api.sent_perm h).map abs).sum_eq, sub_self]

theorem countsUsageOnly_iff : api.CountsUsageOnly w u now ↔ api.leftOut w u (startOfDay now) = w.otherSpending u (startOfDay now) := by
  have hsent : ((api.sent (w.usageSince u (startOfDay now))).map abs).sum =
      w.charges u (startOfDay now) + w.otherSpending u (startOfDay now) - api.leftOut w u (startOfDay now) := by
    rw [leftOut, ← World.sum_abs_usageSince]
    ring
  constructor
  · rintro ⟨husage, -⟩
    rw [getDailyUsage_run, hsent] at husage
    have heq := Except.ok.inj husage
    linarith
  · intro heq
    have husage : (getDailyUsage now u).run api.exec [] w = (.ok (w.charges u (startOfDay now)), [], w) := by
      rw [getDailyUsage_run, hsent, heq, add_sub_cancel_right]
    exact ⟨by rw [husage], api.checkDailyUsageLimit_run w u now husage⟩

def firstRows : Api where
  sent := List.take maxRows
  part amounts := (List.take_sublist maxRows amounts).subperm
  length_sent _ := List.length_take

def forfeited : World :=
  firstRows.after (fun _ : Unit => .balance (.forfeitSubscriptionAllowance 86450 1 true none none)) (List.replicate 3 ((), .served))
    (oneUser 10 5)

end Api

end Gatewayz
