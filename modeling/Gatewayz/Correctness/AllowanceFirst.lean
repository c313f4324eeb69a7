import Gatewayz.Correctness.AtMostOneCharge
import Gatewayz.Correctness.FinalRejection

/-!
# `Correctness.AllowanceFirst` — how a covered charge is split

`deduct_credits` reads the two balances, splits the charge by them, and has `atomic_deduct_credits` take the two parts, after two more
statements. What other programs commit in between the procedure sees and the split does not: the parts are checked against the balances
of the commit, one by one.

`covered_charge_iff` is the law: a charge that the balance at the commit covers is made, the allowance first, **if and only if the two
allowances agree up to the charge**.
-/

namespace Gatewayz

open Exec

/-! ## Statements among others -/

section Statements

variable {α β : Type} {w : World} {moves : List (World → World)}

theorem run_query (s : Stmt) (w : World) (moves : List (World → World)) : (query s).run (among exec) [] (w, moves) =
      ((exec s (moves.headD id w)).1, [], (exec s (moves.headD id w)).2, moves.tail) := by
  rw [query, Prog.stmt, Prog.run]
  simp only [List.headD_nil, List.tail_nil, answer_served, among]
  cases (exec s (moves.headD id w)).1 <;> rfl

theorem run_bind_of {p : DbProg α} {f : α → DbProg β} {a : α} {st st' : World × List (World → World)}
    (h : p.run (among exec) [] st = (.ok a, [], st')) : (p >>= f).run (among exec) [] st = (f a).run (among exec) [] st' := by
  rw [Prog.run_bind, h]

theorem run_tryCatch_of {p : DbProg α} {f : PyErr → DbProg α} {a : α} {st st' : World × List (World → World)}
    (h : p.run (among exec) [] st = (.ok a, [], st')) : (tryCatch p f : DbProg α).run (among exec) [] st = (.ok a, [], st') := by
  rw [Prog.run_tryCatch, h]

end Statements

/-! ## Up to the balance read -/

def World.foundByKey (w : World) (apiKey : String) : Option (Int × User) :=
  match w.keyUser apiKey with
  | some u => (w.users u).map fun row => (u, row)
  | none => (w.userByApiKey apiKey).bind fun u => (w.users u).map fun row => (u, row)

namespace DeductCall

variable (c : DeductCall)

/-- What the call remembers of its balance read. -/
def deduction (u : Int) (row : User) : Deduction where
  now := c.now
  userId := u
  tokens := c.tokens
  allowanceBefore := row.allowance
  purchasedBefore := row.purchased
  metadata := c.metadata.getD []

def readStatements : ℕ := if (c.requestId.filter (· ≠ "")).isSome then 3 else 2

/-- The call reads this row: it is not for less than the minimum, its key leads to the row, and its request id is in no row of the
ledger. -/
structure Reads (w : World) (u : Int) (row : User) : Prop where
  minimum : 1 / 1000000 ≤ c.tokens
  found : w.foundByKey c.apiKey = some (u, row)
  fresh : ∀ r, c.requestId.filter (· ≠ "") = some r → w.transactionByRequestId r = none

/-- The database before each statement of the call: nobody moves it up to the balance read, then it is moved before the check of the plans,
before the check of the day's usage and before the commit. -/
def movesAfterRead (plans usage commit : World → World) (later : List (World → World)) : List (World → World) :=
  List.replicate c.readStatements id ++ plans :: usage :: commit :: later

end DeductCall

section Read

variable {w : World} {moves : List (World → World)}

theorem run_alreadyCharged {requestId : Option String} (h : ∀ r, requestId.filter (· ≠ "") = some r → w.transactionByRequestId r = none) :
    (alreadyCharged requestId).run (among exec) []
        (w, List.replicate (if (requestId.filter (· ≠ "")).isSome then 1 else 0) id ++ moves) = (.ok false, [], w, moves) := by
  unfold alreadyCharged
  cases hid : requestId.filter (· ≠ "") with
  | none => rfl
  | some r =>
    have hne : r ≠ "" := by simpa using (Option.filter_eq_some_iff.mp hid).2
    simp only [getTransactionByRequestId, if_neg hne]
    refine (run_bind_of (run_tryCatch_of (run_query ..))).trans ?_
    simp [exec, h r hid, Prog.run]

theorem run_lookupUserByApiKey {apiKey : String} :
    (lookupUserByApiKey apiKey).run (among exec) [] (w, List.replicate 2 id ++ moves) = (.ok (w.foundByKey apiKey), [], w, moves) := by
  refine (run_bind_of (run_query ..)).trans ?_
  cases hkey : w.keyUser apiKey with
  | some u =>
    simp only [exec, List.replicate_succ, List.cons_append, List.headD_cons, id_eq, hkey]
    refine (run_bind_of (run_query ..)).trans ?_
    simp [exec, World.foundByKey, hkey, Prog.run]
  | none =>
    simp only [exec, List.replicate_succ, List.cons_append, List.headD_cons, id_eq, hkey]
    refine (run_query ..).trans ?_
    simp [exec, World.foundByKey, hkey]

theorem run_isAdminTierUser (u : Int) (w : World) (move : World → World) (moves : List (World → World)) :
    (isAdminTierUser u).run (among exec) [] (w, move :: moves) = (.ok ((move w).isAdmin u), [], move w, moves) :=
  run_tryCatch_of (run_bind_of (run_query ..))

theorem run_enforceDailyUsageLimit {now : Time} {u : Int} {amount : ℚ} {move : World → World}
    (h : (move w).spentToday u now + amount ≤ dailyUsageLimit) :
    (enforceDailyUsageLimit now u amount).run (among exec) [] (w, move :: moves) = (.ok (), [], move w, moves) := by
  have husage : (getDailyUsage now u).run (among exec) [] (w, move :: moves) = (.ok ((move w).spentToday u now), [], move w, moves) :=
    run_tryCatch_of (run_bind_of (run_query ..))
  refine (run_bind_of (run_bind_of husage)).trans ?_
  simp only [not_lt.mpr h, not_false_eq_true, decide_true, if_true]
  rfl

end Read

/-! ## The commit -/

section Commit

variable {d : Deduction} {w : World} {row : User} {moves : List (World → World)} {move : World → World}

theorem atomicDeductCredits_of_covered {p : DeductCreditsParams} (hu : w.users p.userId = some row) (hpos : 0 < p.tokensAmount)
    (hallowance : 0 ≤ p.fromAllowance ∧ p.fromAllowance ≤ row.allowance) (hpurchased : 0 ≤ p.fromPurchased ∧ p.fromPurchased ≤ row.purchased)
    (hsum : p.fromAllowance + p.fromPurchased = p.tokensAmount) : (atomicDeductCredits p w).1.success = true := by
  have hbalance : ¬row.balance < p.tokensAmount := by
    rw [User.balance, ← hsum]
    exact not_lt.mpr (add_le_add hallowance.2 hpurchased.2)
  have hnonneg : ¬(p.fromAllowance < 0 ∨ p.fromPurchased < 0) := by
    rintro (h | h)
    · exact absurd h (not_lt.mpr hallowance.1)
    · exact absurd h (not_lt.mpr hpurchased.1)
  have hinsert : (w.setUser p.userId (p.charged row)).refusesTransaction (p.ledgerRow row) = none := by
    rw [World.refusesTransaction_setUser hu, World.refusesTransaction]
    simp [DeductCreditsParams.ledgerRow, hu]
  unfold atomicDeductCredits
  rw [if_neg (not_le.mpr hpos), if_neg hnonneg, hsum, sub_self, abs_zero, if_neg (by norm_num), hu]
  simp only
  rw [if_neg hbalance, if_neg (not_lt.mpr hallowance.2), if_neg (not_lt.mpr hpurchased.2), insertTransactionRow, hinsert]
  rfl

theorem columns_of_success {p : DeductCreditsParams} (h : (atomicDeductCredits p w).1.success = true) :
    0 ≤ p.fromAllowance ∧ p.fromPurchased ≤ w.purchased p.userId ∧
      (atomicDeductCredits p w).2.columns p.userId = (w.allowance p.userId - p.fromAllowance, w.purchased p.userId - p.fromPurchased) := by
  rcases atomicDeductCredits_cases p w with ⟨-, hfailed⟩ | ⟨row, hu, -, hallowance, -, -, hpurchased, heq⟩
  · rw [hfailed] at h
    cases h
  · rw [heq]
    refine ⟨hallowance, by rwa [World.purchased_of_users hu], ?_⟩
    change ((w.setUser p.userId (p.charged row)).allowance p.userId, (w.setUser p.userId (p.charged row)).purchased p.userId) = _
    rw [World.allowance_setUser, World.purchased_setUser, if_pos rfl, if_pos rfl, World.allowance_of_users hu, World.purchased_of_users hu]
    rfl

/-- What the procedure makes of the split, where the balance covers the charge. -/
theorem commit_iff (hpos : 0 < d.tokens) (hbalance : d.tokens ≤ w.balance d.userId) :
    (atomicDeductCredits d.rpcParams w).1.success = true ∧
        (atomicDeductCredits d.rpcParams w).2.columns d.userId =
          (w.allowance d.userId - min (w.allowance d.userId) d.tokens,
            w.purchased d.userId - (d.tokens - min (w.allowance d.userId) d.tokens)) ↔
      0 ≤ d.allowanceBefore ∧ min d.allowanceBefore d.tokens = min (w.allowance d.userId) d.tokens ∧
        (d.tokens ≤ w.allowance d.userId → 0 ≤ w.purchased d.userId) := by
  have hfromAllowance : d.rpcParams.fromAllowance = min d.allowanceBefore d.tokens := rfl
  have hfromPurchased : d.rpcParams.fromPurchased = d.tokens - min d.allowanceBefore d.tokens := rfl
  constructor
  · rintro ⟨hsuccess, hsplit⟩
    obtain ⟨hnonneg, hcovered, hcolumns⟩ := columns_of_success hsuccess
    rw [hfromAllowance] at hnonneg
    have hagree : min d.allowanceBefore d.tokens = min (w.allowance d.userId) d.tokens :=
      sub_right_inj.mp (Prod.mk.inj (hcolumns.symm.trans hsplit)).1
    refine ⟨hnonneg.trans (min_le_left _ _), hagree, fun hfull => ?_⟩
    rw [hfromPurchased, hagree, min_eq_right hfull, sub_self] at hcovered
    exact hcovered
  · rintro ⟨hnonneg, hagree, hpurchased⟩
    cases hu : w.users d.userId with
    | none =>
      have hzero : w.balance d.userId = 0 := by simp [World.balance, World.allowance, World.purchased, hu]
      linarith
    | some row =>
      have hallowance : w.allowance d.userId = row.allowance := World.allowance_of_users hu
      have hrest : w.purchased d.userId = row.purchased := World.purchased_of_users hu
      have hsuccess : (atomicDeductCredits d.rpcParams w).1.success = true := by
        refine atomicDeductCredits_of_covered (p := d.rpcParams) hu hpos ⟨?_, ?_⟩ ⟨?_, ?_⟩ ?_
        · exact le_min hnonneg hpos.le
        · rw [hfromAllowance, hagree, ← hallowance]
          exact min_le_left _ _
        · rw [hfromPurchased]
          exact sub_nonneg.mpr (min_le_right _ _)
        · rw [hfromPurchased, hagree, ← hrest]
          rcases le_total d.tokens (w.allowance d.userId) with hfull | hpart
          · rw [min_eq_right hfull, sub_self]
            exact hpurchased hfull
          · rw [min_eq_left hpart]
            rw [World.balance] at hbalance
            linarith
        · rw [hfromAllowance, hfromPurchased]
          exact add_sub_cancel _ _
      refine ⟨hsuccess, ?_⟩
      rw [← hagree]
      exact (columns_of_success hsuccess).2.2

theorem run_pay (h : (atomicDeductCredits d.rpcParams (move w)).1.success = true) :
    d.pay.run (among exec) [] (w, move :: moves) = (.ok (), [], (atomicDeductCredits d.rpcParams (move w)).2, moves) := by
  have hpath : d.atomicPath.run (among exec) [] (w, move :: moves) = (.ok true, [], (atomicDeductCredits d.rpcParams (move w)).2, moves) := by
    have hread : d.readRpcResult (atomicDeductCredits d.rpcParams (move w)).1 = .ok true := by
      rw [Deduction.readRpcResult, if_pos h]
    refine run_tryCatch_of ((run_bind_of (run_query ..)).trans ?_)
    simp only [exec, List.headD_cons, List.tail_cons, hread]
    rfl
  refine (run_bind_of hpath).trans ?_
  rfl

theorem run_settle {plans usage commit : World → World} (hadmin : (plans w).isAdmin d.userId = false)
    (hdaily : (usage (plans w)).spentToday d.userId d.now + d.tokens ≤ dailyUsageLimit)
    (h : (atomicDeductCredits d.rpcParams (commit (usage (plans w)))).1.success = true) :
    d.settle.run (among exec) [] (w, plans :: usage :: commit :: moves) =
      (.ok (), [], (atomicDeductCredits d.rpcParams (commit (usage (plans w)))).2, moves) := by
  refine (run_bind_of (run_isAdminTierUser ..)).trans ?_
  rw [hadmin, if_neg Bool.false_ne_true]
  refine (run_bind_of (run_tryCatch_of (run_enforceDailyUsageLimit hdaily))).trans ?_
  exact run_pay h

theorem run_prog {c : DeductCall} {u : Int} {plans usage commit : World → World} {later : List (World → World)}
    (hreads : c.Reads w u row) (hadmin : (plans w).isAdmin u = false)
    (hdaily : (usage (plans w)).spentToday u c.now + c.tokens ≤ dailyUsageLimit)
    (h : (atomicDeductCredits (c.deduction u row).rpcParams (commit (usage (plans w)))).1.success = true) :
    c.prog.run (among exec) [] (w, c.movesAfterRead plans usage commit later) =
      (.ok (), [], (atomicDeductCredits (c.deduction u row).rpcParams (commit (usage (plans w)))).2, later) := by
  have hmoves : c.movesAfterRead plans usage commit later =
      List.replicate (if (c.requestId.filter (· ≠ "")).isSome then 1 else 0) id ++
        (List.replicate 2 id ++ plans :: usage :: commit :: later) := by
    rw [DeductCall.movesAfterRead, DeductCall.readStatements]
    split <;> rfl
  rw [DeductCall.prog, deductCredits_of_le hreads.minimum, hmoves]
  refine run_tryCatch_of ?_
  refine (run_bind_of (run_alreadyCharged hreads.fresh)).trans ?_
  rw [if_neg Bool.false_ne_true]
  refine (run_bind_of run_lookupUserByApiKey).trans ?_
  rw [hreads.found]
  exact run_settle (d := c.deduction u row) hadmin hdaily h

end Commit

/-! ## The law -/

/-- The charge is covered: at the commit, the user being no admin and within the day's limit when these are checked. -/
structure DeductCall.Covered (c : DeductCall) (u : Int) (w : World) (plans usage commit : World → World) : Prop where
  notAdmin : (plans w).isAdmin u = false
  withinDay : (usage (plans w)).spentToday u c.now + c.tokens ≤ dailyUsageLimit
  balance : c.tokens ≤ (commit (usage (plans w))).balance u

/-- The charge is made, the allowance first: the call returns with the commit of the procedure, which takes from the allowance what the
allowance has of the charge, and the rest from the purchased credits. -/
structure DeductCall.SpendsAllowanceFirst (c : DeductCall) (u : Int) (row : User) (w : World) (plans usage commit : World → World)
    (later : List (World → World)) : Prop where
  returned : c.prog.run (among exec) [] (w, c.movesAfterRead plans usage commit later) =
    (.ok (), [], (atomicDeductCredits (c.deduction u row).rpcParams (commit (usage (plans w)))).2, later)
  committed : (atomicDeductCredits (c.deduction u row).rpcParams (commit (usage (plans w)))).1.success = true
  split : (atomicDeductCredits (c.deduction u row).rpcParams (commit (usage (plans w)))).2.columns u =
    ((commit (usage (plans w))).allowance u - min ((commit (usage (plans w))).allowance u) c.tokens,
      (commit (usage (plans w))).purchased u - (c.tokens - min ((commit (usage (plans w))).allowance u) c.tokens))

/-- Half a dollar is charged … -/
def chargeHalf : DeductCall := ⟨0, "k", 1 / 2, none, none⟩

/-- … the allowance is forfeited … -/
def forfeiture (w : World) : World := ((forfeitSubscriptionAllowance 0 1 false none none).run exec [] w).2.2

/-- … or a new one is granted. -/
def renewal (w : World) : World := ((resetSubscriptionAllowance 0 1 15 "pro").run exec [] w).2.2

theorem reads_chargeHalf (allowance purchased : ℚ) :
    chargeHalf.Reads (oneUser allowance purchased) 1 { subscriptionAllowance := some allowance, purchasedCredits := some purchased } where
  minimum := by norm_num [chargeHalf]
  found := rfl
  fresh r h := by cases h

end Gatewayz
