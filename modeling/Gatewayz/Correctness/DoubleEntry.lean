import Gatewayz.Billing.CreditLedger

/-!
# `Correctness.DoubleEntry` — when the lines of a charge balance

Both builders make their lines from one split, so it is enough to look at `entriesOf` (`balances_split`). The split never looks at the
sign of the allowance: with a negative one the part beyond it exceeds the charge, no allowance line is made, and the purchased credits
are debited more than revenue is credited. Apart from that the lines balance if no sum is rounded.
-/

namespace Gatewayz.CreditLedger

open Exec DecimalContext

def debited (entries : List LedgerEntry) (account : Account) : ℚ :=
  ((entries.filter fun e => e.account = account).map LedgerEntry.debit).sum

/-- The lines are a balanced transaction for a charge on these two balances. -/
structure Balances (amount allowance purchased : ℚ) (entries : List LedgerEntry) : Prop where
  debits : (entries.map LedgerEntry.debit).sum = amount
  credits : (entries.map LedgerEntry.credit).sum = amount
  nonneg : ∀ e ∈ entries, 0 ≤ e.debit ∧ 0 ≤ e.credit
  allowanceWithin : 0 < debited entries .allowance → debited entries .allowance ≤ allowance
  purchasedWithin : 0 < debited entries .purchased → debited entries .purchased ≤ purchased
  allowanceFirst : 0 < debited entries .purchased → allowance ≤ debited entries .allowance

/-! ## The lines of a split -/

section Lines

variable (state : EntryState) (ref : String) (split : ChargeSplit)

theorem sum_debits_entriesOf :
    ((entriesOf state ref split).map LedgerEntry.debit).sum = max split.fromAllowance 0 + max split.fromPurchased 0 := by
  unfold entriesOf
  split_ifs with ha hp ht hp ht <;> simp [not_lt.mp, le_of_lt, *]

theorem sum_credits_entriesOf : ((entriesOf state ref split).map LedgerEntry.credit).sum = max split.total 0 := by
  unfold entriesOf
  split_ifs with ha hp ht hp ht <;> simp [not_lt.mp, le_of_lt, *]

theorem debited_allowance : debited (entriesOf state ref split) .allowance = max split.fromAllowance 0 := by
  unfold debited entriesOf
  split_ifs with ha hp ht hp ht <;> simp [not_lt.mp, le_of_lt, *]

theorem debited_purchased : debited (entriesOf state ref split) .purchased = max split.fromPurchased 0 := by
  unfold debited entriesOf
  split_ifs with ha hp ht hp ht <;> simp [not_lt.mp, le_of_lt, *]

theorem nonneg_entriesOf : ∀ e ∈ entriesOf state ref split, 0 ≤ e.debit ∧ 0 ≤ e.credit := by
  unfold entriesOf
  split_ifs with ha hp ht hp ht <;> simp [le_of_lt, *]

end Lines

/-! ## When they balance -/

/-- Nothing of the charge is lost: no sum is rounded, and a negative allowance is too small to show. -/
def NothingLost (amount allowance : ℚ) : Prop :=
  context.Fits amount ∧
    (amount ≤ allowance ∨ (0 ≤ allowance ∧ context.Fits (amount - allowance)) ∨
      (allowance < 0 ∧ context.sub amount allowance = amount ∧ context.add allowance amount = amount))

section Split

variable {amount allowance purchased : ℚ}

variable {entries : List LedgerEntry}

theorem balances_covered {state : EntryState} {ref : String} (hamount : 0 ≤ amount)
    (hle : amount ≤ allowance) (hentries : entries = entriesOf state ref ⟨amount, 0⟩) :
    Balances amount allowance purchased entries ↔ context.Fits amount := by
  subst hentries
  have htotal : ChargeSplit.total ⟨amount, 0⟩ = context.fix amount := by rw [ChargeSplit.total, DecimalContext.add, add_zero]
  constructor
  · intro h
    have hcredits := h.credits
    rw [sum_credits_entriesOf, htotal, max_eq_left (fix_nonneg hamount)] at hcredits
    exact fix_eq_self_iff.mp hcredits
  · intro h
    refine ⟨?_, ?_, nonneg_entriesOf _ _ _, fun _ => ?_, fun hpos => ?_, fun hpos => ?_⟩
    · rw [sum_debits_entriesOf, max_eq_left hamount, max_self, add_zero]
    · rw [sum_credits_entriesOf, htotal, fix_of_fits h, max_eq_left hamount]
    · rw [debited_allowance, max_eq_left hamount]
      exact hle
    all_goals
      rw [debited_purchased, max_self] at hpos
      exact absurd hpos (lt_irrefl _)

theorem balances_spilled {state : EntryState} {ref : String} (hnonneg : 0 ≤ allowance)
    (hlt : allowance < amount) (hwithin : context.sub amount allowance ≤ purchased)
    (hentries : entries = entriesOf state ref ⟨allowance, context.sub amount allowance⟩) :
    Balances amount allowance purchased entries ↔ context.Fits amount ∧ context.Fits (amount - allowance) := by
  subst hentries
  have hpart : 0 < context.sub amount allowance := fix_pos (sub_pos.mpr hlt)
  constructor
  · intro h
    have hdebits := h.debits
    rw [sum_debits_entriesOf, max_eq_left hnonneg, max_eq_left hpart.le] at hdebits
    have hexact : context.sub amount allowance = amount - allowance := by linarith
    have hcredits := h.credits
    rw [sum_credits_entriesOf, ChargeSplit.total, hexact, DecimalContext.add, add_sub_cancel,
      max_eq_left (fix_nonneg (hnonneg.trans hlt.le))] at hcredits
    exact ⟨fix_eq_self_iff.mp hcredits, fix_eq_self_iff.mp hexact⟩
  · rintro ⟨hamount, hrest⟩
    have hexact : context.sub amount allowance = amount - allowance := fix_of_fits hrest
    refine ⟨?_, ?_, nonneg_entriesOf _ _ _, fun _ => ?_, fun _ => ?_, fun _ => ?_⟩
    · rw [sum_debits_entriesOf, max_eq_left hnonneg, max_eq_left hpart.le, hexact, add_sub_cancel]
    · rw [sum_credits_entriesOf, ChargeSplit.total, hexact, DecimalContext.add, add_sub_cancel, fix_of_fits hamount,
        max_eq_left (hnonneg.trans hlt.le)]
    · rw [debited_allowance, max_eq_left hnonneg]
    · rw [debited_purchased, max_eq_left hpart.le]
      exact hwithin
    · rw [debited_allowance, max_eq_left hnonneg]

theorem balances_overdrawn {state : EntryState} {ref : String} (hamount : 0 ≤ amount)
    (hneg : allowance < 0) (hwithin : context.sub amount allowance ≤ purchased)
    (hentries : entries = entriesOf state ref ⟨allowance, context.sub amount allowance⟩) :
    Balances amount allowance purchased entries ↔
      context.sub amount allowance = amount ∧ context.add allowance amount = amount := by
  subst hentries
  have hpart : 0 < context.sub amount allowance := fix_pos (by linarith)
  constructor
  · intro h
    have hdebits := h.debits
    rw [sum_debits_entriesOf, max_eq_right hneg.le, max_eq_left hpart.le, zero_add] at hdebits
    have hcredits := h.credits
    rw [sum_credits_entriesOf, ChargeSplit.total, hdebits] at hcredits
    refine ⟨hdebits, ?_⟩
    rcases le_total (context.add allowance amount) 0 with hle | hle
    · -- no revenue line, so there was no charge, and yet a line debits
      rw [max_eq_right hle] at hcredits
      rw [hdebits, ← hcredits] at hpart
      exact absurd hpart (lt_irrefl _)
    · rwa [max_eq_left hle] at hcredits
  · rintro ⟨hsub, hadd⟩
    refine ⟨?_, ?_, nonneg_entriesOf _ _ _, fun hpos => ?_, fun _ => ?_, fun _ => ?_⟩
    · rw [sum_debits_entriesOf, max_eq_right hneg.le, max_eq_left hpart.le, zero_add, hsub]
    · rw [sum_credits_entriesOf, ChargeSplit.total, hsub, hadd, max_eq_left hamount]
    · rw [debited_allowance, max_eq_right hneg.le] at hpos
      exact absurd hpos (lt_irrefl _)
    · rw [debited_purchased, max_eq_left hpart.le]
      exact hwithin
    · rw [debited_allowance, max_eq_right hneg.le]
      exact hneg.le

/-- The lines of a split balance if nothing of the charge is lost. -/
theorem balances_split {split : ChargeSplit} (h : splitCharge amount allowance purchased = .ok split) (state : EntryState)
    (ref : String) : Balances amount allowance purchased (entriesOf state ref split) ↔ NothingLost amount allowance := by
  obtain ⟨hamount, hwithin, rfl⟩ := splitCharge_ok_iff.mp h
  rcases le_or_gt amount allowance with hle | hlt
  · rw [min_eq_left hle, DecimalContext.sub, sub_self, fix_zero, balances_covered hamount hle rfl, NothingLost]
    simp only [hle, true_or, and_true]
  · rw [min_eq_right hlt.le] at hwithin ⊢
    unfold NothingLost
    rcases le_or_gt 0 allowance with hnonneg | hneg
    · rw [balances_spilled hnonneg hlt hwithin rfl]
      simp only [not_le.mpr hlt, hnonneg, not_lt.mpr hnonneg, false_or, true_and, false_and, or_false]
    · rw [balances_overdrawn hamount hneg hwithin rfl]
      simp only [not_le.mpr hlt, hneg, not_le.mpr hneg, false_or, true_and, false_and]
      exact ⟨fun ⟨hsub, hadd⟩ => ⟨hsub ▸ fits_fix _, hsub, hadd⟩, And.right⟩

end Split

/-! ## Both builders, and the reconciliation -/

def BalancedCharge (ref : String) (amount allowance purchased : ℚ) : Prop :=
  (∀ entries, reserve ref amount allowance purchased = .ok entries → Balances amount allowance purchased entries) ∧
    ∀ entries, buildSettledEntries ref amount allowance purchased = .ok entries → Balances amount allowance purchased entries

def Reconciled (reserved actual : ℚ) : Prop :=
  ∀ result, reconcile reserved actual = .ok result →
    result.settled + result.released = reserved ∧ result.settled + result.extra = actual ∧
      ¬(0 < result.released ∧ 0 < result.extra)

/-- The charge is refused: it is negative, or what the allowance leaves of it is beyond the purchased credits. -/
def Refused (amount allowance purchased : ℚ) : Prop := amount < 0 ∨ purchased < context.sub amount (min amount allowance)

theorem balancedCharge_iff (ref : String) (amount allowance purchased : ℚ) :
    BalancedCharge ref amount allowance purchased ↔ Refused amount allowance purchased ∨ NothingLost amount allowance := by
  by_cases hrefused : Refused amount allowance purchased
  · have hnone : ∀ split, splitCharge amount allowance purchased ≠ .ok split := by
      intro split h
      obtain ⟨hamount, hwithin, -⟩ := splitCharge_ok_iff.mp h
      exact hrefused.elim (not_lt.mpr hamount) (not_lt.mpr hwithin)
    refine iff_of_true ⟨fun entries h => ?_, fun entries h => ?_⟩ (.inl hrefused)
    · obtain ⟨split, hsplit, -⟩ := reserve_ok_iff.mp h
      exact absurd hsplit (hnone split)
    · obtain ⟨split, hsplit, -⟩ := buildSettledEntries_ok_iff.mp h
      exact absurd hsplit (hnone split)
  · obtain ⟨hamount, hwithin⟩ := not_or.mp hrefused
    have hok := splitCharge_ok_iff.mpr ⟨not_lt.mp hamount, not_lt.mp hwithin, rfl⟩
    rw [or_iff_right hrefused]
    constructor
    · exact fun h => (balances_split hok .reserved ref).mp (h.1 _ (reserve_ok_iff.mpr ⟨_, hok, rfl⟩))
    · intro hlost
      refine ⟨fun entries h => ?_, fun entries h => ?_⟩
      · obtain ⟨split, hsplit, rfl⟩ := reserve_ok_iff.mp h
        exact (balances_split hsplit .reserved ref).mpr hlost
      · obtain ⟨split, hsplit, rfl⟩ := buildSettledEntries_ok_iff.mp h
        exact (balances_split hsplit .settled ref).mpr hlost

theorem reconcile_ok_iff {reserved actual : ℚ} {result : Reconciliation} : reconcile reserved actual = .ok result ↔
      0 ≤ reserved ∧ 0 ≤ actual ∧
        result = ⟨min actual reserved, max 0 (context.sub reserved actual), max 0 (context.sub actual reserved),
          context.sub actual reserved⟩ := by
  unfold reconcile
  split_ifs with h
  · simp only [false_iff]
    rintro ⟨hreserved, hactual, -⟩
    exact h.elim (not_lt.mpr hreserved) (not_lt.mpr hactual)
  · obtain ⟨hreserved, hactual⟩ := not_or.mp h
    simp [not_lt.mp hreserved, not_lt.mp hactual, eq_comm]

theorem reconciled_iff (reserved actual : ℚ) :
    Reconciled reserved actual ↔ reserved < 0 ∨ actual < 0 ∨ context.Fits (max reserved actual - min reserved actual) := by
  rcases lt_or_ge reserved 0 with hneg | hreserved
  · refine iff_of_true (fun result h => ?_) (.inl hneg)
    exact absurd (reconcile_ok_iff.mp h).1 (not_le.mpr hneg)
  rcases lt_or_ge actual 0 with hneg | hactual
  · refine iff_of_true (fun result h => ?_) (.inr (.inl hneg))
    exact absurd (reconcile_ok_iff.mp h).2.1 (not_le.mpr hneg)
  rw [or_iff_right (not_lt.mpr hreserved), or_iff_right (not_lt.mpr hactual), ← fix_eq_self_iff]
  have hresult : Reconciled reserved actual ↔
      min actual reserved + max 0 (context.sub reserved actual) = reserved ∧
        min actual reserved + max 0 (context.sub actual reserved) = actual ∧
        ¬(0 < max 0 (context.sub reserved actual) ∧ 0 < max 0 (context.sub actual reserved)) := by
    unfold Reconciled
    simp only [reconcile_ok_iff, hreserved, hactual, true_and, forall_eq]
  rw [hresult]
  rcases le_total actual reserved with hle | hle
  · have hextra : context.sub actual reserved ≤ 0 := fix_nonpos (by linarith)
    have hreleased : 0 ≤ context.sub reserved actual := fix_nonneg (by linarith)
    rw [min_eq_left hle, max_eq_right hreleased, max_eq_left hextra, max_eq_left hle, min_eq_right hle, add_zero]
    simp only [lt_self_iff_false, and_false, not_false_eq_true, and_true, DecimalContext.sub]
    constructor <;> intro h <;> linarith
  · have hreleased : context.sub reserved actual ≤ 0 := fix_nonpos (by linarith)
    have hextra : 0 ≤ context.sub actual reserved := fix_nonneg (by linarith)
    rw [min_eq_right hle, max_eq_left hreleased, max_eq_right hextra, max_eq_right hle, min_eq_left hle, add_zero]
    simp only [lt_self_iff_false, false_and, not_false_eq_true, and_true, true_and, DecimalContext.sub]
    constructor <;> intro h <;> linarith

/-- **When double entry balances**: a charge exactly if it is refused or nothing of it is lost, and a reconciliation exactly if it is
refused or the difference fits. -/
theorem double_entry_balances (ref : String) (amount allowance purchased reserved actual : ℚ) :
    (BalancedCharge ref amount allowance purchased ↔ Refused amount allowance purchased ∨ NothingLost amount allowance) ∧
    (Reconciled reserved actual ↔
      reserved < 0 ∨ actual < 0 ∨ context.Fits (max reserved actual - min reserved actual)) :=
  ⟨balancedCharge_iff ref amount allowance purchased, reconciled_iff reserved actual⟩

/-- A charge of 3 on an allowance of -5: 8 are debited for 3. -/
theorem double_entry_unbalanced :
    reserve "req1" 3 (-5) 10 =
        .ok [⟨"req1", .purchased, 8, 0, .reserved⟩, ⟨"req1", .revenue, 0, 3, .reserved⟩] ∧
      isBalanced [⟨"req1", .purchased, 8, 0, .reserved⟩, ⟨"req1", .revenue, 0, 3, .reserved⟩] = false ∧
      ¬∀ (ref : String) (amount allowance purchased : ℚ), BalancedCharge ref amount allowance purchased := by
  have hreserve : reserve "req1" 3 (-5) 10 =
      .ok [⟨"req1", .purchased, 8, 0, .reserved⟩, ⟨"req1", .revenue, 0, 3, .reserved⟩] := by decide +kernel
  refine ⟨hreserve, by decide +kernel, fun h => ?_⟩
  have hdebits := ((h "req1" 3 (-5) 10).1 _ hreserve).debits
  norm_num at hdebits

end Gatewayz.CreditLedger
