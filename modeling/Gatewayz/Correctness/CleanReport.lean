import Gatewayz.Billing.LedgerReconciliation

/-!
# `Correctness.CleanReport` — what a clean report says of the users

The loops of the summaries are tallies of the rows (`foldl_ledgerStep`, `foldl_usageStep`), and if no sum is rounded (`Unrounded`) the
tallies are sums over the rows of a ref or a user, whatever their order. So the report is a function of these sums. Its `ok` looks at
the refs and at the total; drifts of two users that cancel are not seen.
-/

namespace Gatewayz.Reconciliation

open Exec Exec.Dictionary Exec.DecimalContext CreditLedger

variable {R U : Type}

/-! ## The rows as items -/

def refItems (rows : List (LedgerRow R U)) : List (R × ℚ × ℚ) := rows.map fun row => (row.ref, row.debit.value, row.credit.value)

def LedgerRow.isRevenue (row : LedgerRow R U) : Bool := row.account = some Account.revenue.name

def revenueItems (rows : List (LedgerRow R U)) : List (U × ℚ) :=
  (rows.filter LedgerRow.isRevenue).map fun row => (row.userId, row.credit.value)

variable [DecidableEq U] (minCost : ℚ) (excludeUserIds : List U)

def UsageRow.counts (row : UsageRow U) : Bool := ¬(row.cost.value < minCost ∨ row.userId ∈ excludeUserIds)

def usageItems (rows : List (UsageRow U)) : List (U × ℚ) :=
  (rows.filter (UsageRow.counts minCost excludeUserIds)).map fun row => (row.userId, row.cost.value)

/-- The loop of `summarize_ledger` keeps two tallies and a total. -/
theorem foldl_ledgerStep [DecidableEq R] (rows : List (LedgerRow R U)) (s : LedgerLoop R U) :
    rows.foldl LedgerLoop.step s =
      { perRef := (refItems rows).foldl (bump addLine (0, 0)) s.perRef
        revenueByUser := (revenueItems rows).foldl (bump context.add 0) s.revenueByUser
        totalRevenue := ((revenueItems rows).map Prod.snd).foldl context.add s.totalRevenue } := by
  induction rows generalizing s with
  | nil => rfl
  | cons row rows ih =>
    rw [List.foldl_cons, ih]
    unfold LedgerLoop.step refItems revenueItems
    dsimp only
    by_cases hrevenue : row.account = some Account.revenue.name
    · have hrow : row.isRevenue = true := decide_eq_true hrevenue
      rw [if_pos hrevenue, List.filter_cons_of_pos hrow]
      rfl
    · have hrow : ¬row.isRevenue = true := fun h => hrevenue (of_decide_eq_true h)
      rw [if_neg hrevenue, List.filter_cons_of_neg hrow]
      rfl

/-- The loop of `summarize_usage` keeps a tally, a total and two counts. -/
theorem foldl_usageStep (rows : List (UsageRow U)) (s : UsageLoop U) :
    rows.foldl (UsageLoop.step minCost excludeUserIds) s =
      { costByUser := (usageItems minCost excludeUserIds rows).foldl (bump context.add 0) s.costByUser
        totalCost := ((usageItems minCost excludeUserIds rows).map Prod.snd).foldl context.add s.totalCost
        included := s.included + (usageItems minCost excludeUserIds rows).length
        excluded := s.excluded + (rows.length - (usageItems minCost excludeUserIds rows).length) } := by
  induction rows generalizing s with
  | nil => rfl
  | cons row rows ih =>
    have hle : (usageItems minCost excludeUserIds rows).length ≤ rows.length := by
      rw [usageItems, List.length_map]
      exact List.length_filter_le _ _
    rw [List.foldl_cons, ih]
    unfold UsageLoop.step
    dsimp only
    by_cases hout : row.cost.value < minCost ∨ row.userId ∈ excludeUserIds
    · have hrow : ¬row.counts minCost excludeUserIds = true := fun h => of_decide_eq_true h hout
      have hitems : usageItems minCost excludeUserIds (row :: rows) = usageItems minCost excludeUserIds rows := by
        rw [usageItems, List.filter_cons_of_neg hrow, usageItems]
      rw [if_pos hout, hitems, List.length_cons, UsageLoop.mk.injEq]
      refine ⟨rfl, rfl, rfl, ?_⟩
      dsimp only
      omega
    · have hrow : row.counts minCost excludeUserIds = true := decide_eq_true hout
      have hitems : usageItems minCost excludeUserIds (row :: rows) =
          (row.userId, row.cost.value) :: usageItems minCost excludeUserIds rows := by
        rw [usageItems, List.filter_cons_of_pos hrow, List.map_cons, usageItems]
      rw [if_neg hout, hitems, List.length_cons, List.length_cons, UsageLoop.mk.injEq]
      refine ⟨rfl, rfl, ?_, ?_⟩
      all_goals
        dsimp only
        omega

/-! ## Without rounding -/

def amounts (ledgerRows : List (LedgerRow R U)) (usageRows : List (UsageRow U)) : List ℚ :=
  (ledgerRows.map fun row => row.debit.value) ++ (ledgerRows.map fun row => row.credit.value) ++
    usageRows.map fun row => row.cost.value

/-- No sum of the amounts is rounded: in units of the smallest place that one of them has, their sizes together have 28 digits. -/
def Unrounded (amounts : List ℚ) : Prop :=
  ∃ k : ℤ, (∀ a ∈ amounts, OnGrid k a) ∧ (amounts.map abs).sum < 10 ^ ((28 : ℤ) + k)

variable {xs ys : List ℚ}

theorem Unrounded.sublist (h : Unrounded ys) (hsub : xs.Sublist ys) : Unrounded xs := by
  obtain ⟨k, hgrid, hlt⟩ := h
  refine ⟨k, fun a ha => hgrid a (hsub.subset ha), lt_of_le_of_lt ?_ hlt⟩
  refine (hsub.map abs).sum_le_sum fun a ha => ?_
  obtain ⟨b, -, rfl⟩ := List.mem_map.mp ha
  exact abs_nonneg b

theorem Unrounded.foldl (h : Unrounded xs) : xs.foldl context.add 0 = xs.sum := by
  obtain ⟨k, hgrid, hlt⟩ := h
  rw [foldl_add hgrid .zero (by rw [abs_zero, zero_add]; exact hlt), zero_add]

theorem Unrounded.sub (h : Unrounded (xs ++ ys)) : context.sub xs.sum ys.sum = xs.sum - ys.sum := by
  obtain ⟨k, hgrid, hlt⟩ := h
  have hxs : OnGrid k xs.sum := .sum fun x hx => hgrid x (List.mem_append_left _ hx)
  have hys : OnGrid k ys.sum := .sum fun y hy => hgrid y (List.mem_append_right _ hy)
  refine fix_of_fits (OnGrid.fits (k := k) (sub_eq_add_neg xs.sum ys.sum ▸ hxs.add hys.neg) (lt_of_le_of_lt ?_ hlt))
  rw [List.map_append, List.sum_append]
  exact (abs_sub _ _).trans (add_le_add (abs_sum_le xs) (abs_sum_le ys))

theorem Unrounded.perm (h : Unrounded xs) (hperm : xs.Perm ys) : Unrounded ys := by
  obtain ⟨k, hgrid, hlt⟩ := h
  exact ⟨k, fun a ha => hgrid a (hperm.mem_iff.mpr ha), (hperm.map abs).sum_eq ▸ hlt⟩

/-! ## The sums of the rows -/

def revenueOf (rows : List (LedgerRow R U)) (uid : U) : ℚ := (valuesOf (revenueItems rows) uid).sum

def costOf (rows : List (UsageRow U)) (uid : U) : ℚ := (valuesOf (usageItems minCost excludeUserIds rows) uid).sum

def totalRevenue (rows : List (LedgerRow R U)) : ℚ := ((revenueItems rows).map Prod.snd).sum

def totalCost (rows : List (UsageRow U)) : ℚ := ((usageItems minCost excludeUserIds rows).map Prod.snd).sum

def refSums [DecidableEq R] (rows : List (LedgerRow R U)) (ref : R) : ℚ × ℚ :=
  (((valuesOf (refItems rows) ref).map Prod.fst).sum, ((valuesOf (refItems rows) ref).map Prod.snd).sum)

omit [DecidableEq U] in
theorem sublist_revenueItems (rows : List (LedgerRow R U)) :
    ((revenueItems rows).map Prod.snd).Sublist (rows.map fun row => row.credit.value) := by
  rw [revenueItems, List.map_map]
  exact List.filter_sublist.map fun row : LedgerRow R U => row.credit.value

theorem sublist_usageItems (rows : List (UsageRow U)) :
    ((usageItems minCost excludeUserIds rows).map Prod.snd).Sublist (rows.map fun row => row.cost.value) := by
  rw [usageItems, List.map_map]
  exact List.filter_sublist.map fun row : UsageRow U => row.cost.value

theorem sublist_valuesOf {K A : Type} [DecidableEq K] (items : List (K × A)) (k : K) :
    (valuesOf items k).Sublist (items.map Prod.snd) := List.filter_sublist.map _

section Sums

variable {minCost excludeUserIds} {ledgerRows : List (LedgerRow R U)} {usageRows : List (UsageRow U)}

theorem Unrounded.both (h : Unrounded (amounts ledgerRows usageRows))
    (hxs : xs.Sublist ((revenueItems ledgerRows).map Prod.snd))
    (hys : ys.Sublist ((usageItems minCost excludeUserIds usageRows).map Prod.snd)) :
    xs.foldl context.add 0 = xs.sum ∧ ys.foldl context.add 0 = ys.sum ∧ context.sub xs.sum ys.sum = xs.sum - ys.sum := by
  have hboth : Unrounded (xs ++ ys) := by
    refine h.sublist (List.Sublist.append ?_ (hys.trans (sublist_usageItems minCost excludeUserIds usageRows)))
    exact (hxs.trans (sublist_revenueItems ledgerRows)).trans (List.sublist_append_right _ _)
  exact ⟨(hboth.sublist (List.sublist_append_left _ _)).foldl, (hboth.sublist (List.sublist_append_right _ _)).foldl, hboth.sub⟩

theorem foldl_addLine (lines : List (ℚ × ℚ)) (sums : ℚ × ℚ) :
    lines.foldl addLine sums = ((lines.map Prod.fst).foldl context.add sums.1, (lines.map Prod.snd).foldl context.add sums.2) := by
  induction lines generalizing sums with
  | nil => rfl
  | cons line lines ih => exact ih _

omit [DecidableEq U] in
theorem foldl_valuesOf_refItems [DecidableEq R] (h : Unrounded (amounts ledgerRows usageRows)) (ref : R) :
    (valuesOf (refItems ledgerRows) ref).foldl addLine (0, 0) = refSums ledgerRows ref := by
  have hdebits : ((valuesOf (refItems ledgerRows) ref).map Prod.fst).Sublist (ledgerRows.map fun row => row.debit.value) := by
    have := (sublist_valuesOf (refItems ledgerRows) ref).map Prod.fst
    rwa [refItems, List.map_map, List.map_map] at this
  have hcredits : ((valuesOf (refItems ledgerRows) ref).map Prod.snd).Sublist (ledgerRows.map fun row => row.credit.value) := by
    have := (sublist_valuesOf (refItems ledgerRows) ref).map Prod.snd
    rwa [refItems, List.map_map, List.map_map] at this
  have hledger : ((ledgerRows.map fun row => row.debit.value) ++ ledgerRows.map fun row => row.credit.value).Sublist
      (amounts ledgerRows usageRows) := List.sublist_append_left _ _
  rw [foldl_addLine, (h.sublist ((hdebits.trans (List.sublist_append_left _ _)).trans hledger)).foldl,
    (h.sublist ((hcredits.trans (List.sublist_append_right _ _)).trans hledger)).foldl]
  rfl

/-- The user's line, from the sums. -/
def lineOf (minCost : ℚ) (excludeUserIds : List U) (ledgerRows : List (LedgerRow R U)) (usageRows : List (UsageRow U)) (tolerance : ℚ)
    (uid : U) : UserDrift U where
  userId := uid
  ledgerRevenue := revenueOf ledgerRows uid
  usageCost := costOf minCost excludeUserIds usageRows uid
  drift := revenueOf ledgerRows uid - costOf minCost excludeUserIds usageRows uid
  withinTolerance := |revenueOf ledgerRows uid - costOf minCost excludeUserIds usageRows uid| ≤ tolerance

variable [DecidableEq R] [ToString R]

theorem revenueByUser_eq : (summarizeLedger ledgerRows).revenueByUser = tally context.add 0 (revenueItems ledgerRows) := by
  rw [summarizeLedger, foldl_ledgerStep]
  rfl

theorem costByUser_eq : (summarizeUsage minCost excludeUserIds usageRows).costByUser =
    tally context.add 0 (usageItems minCost excludeUserIds usageRows) := by
  rw [summarizeUsage, foldl_usageStep]
  rfl

theorem userDrift_eq (h : Unrounded (amounts ledgerRows usageRows)) (tolerance : ℚ) :
    userDrift (summarizeLedger ledgerRows) (summarizeUsage minCost excludeUserIds usageRows) tolerance =
      lineOf minCost excludeUserIds ledgerRows usageRows tolerance := by
  funext uid
  obtain ⟨hrevenue, hcost, hdrift⟩ := h.both (sublist_valuesOf (revenueItems ledgerRows) uid)
    (sublist_valuesOf (usageItems minCost excludeUserIds usageRows) uid)
  unfold userDrift
  dsimp only
  rw [revenueByUser_eq, costByUser_eq, getD_lookup_tally, getD_lookup_tally, hrevenue, hcost, hdrift]
  rfl

theorem totals_eq (h : Unrounded (amounts ledgerRows usageRows)) (minCost : ℚ) (excludeUserIds : List U) :
    (summarizeLedger ledgerRows).totalRevenue = totalRevenue ledgerRows ∧
      (summarizeUsage minCost excludeUserIds usageRows).totalCost = totalCost minCost excludeUserIds usageRows ∧
      context.sub (totalRevenue ledgerRows) (totalCost minCost excludeUserIds usageRows) =
        totalRevenue ledgerRows - totalCost minCost excludeUserIds usageRows := by
  obtain ⟨hrevenue, hcost, hdrift⟩ := h.both (List.Sublist.refl _)
    (List.Sublist.refl ((usageItems minCost excludeUserIds usageRows).map Prod.snd))
  refine ⟨?_, ?_, hdrift⟩
  · rw [summarizeLedger, foldl_ledgerStep]
    exact hrevenue
  · rw [summarizeUsage, foldl_usageStep]
    exact hcost

theorem allUsers_spec (ledgerRows : List (LedgerRow R U)) (usageRows : List (UsageRow U)) (minCost : ℚ) (excludeUserIds : List U) :
    (allUsers (summarizeLedger ledgerRows) (summarizeUsage minCost excludeUserIds usageRows)).Nodup ∧
      ∀ uid, uid ∈ allUsers (summarizeLedger ledgerRows) (summarizeUsage minCost excludeUserIds usageRows) ↔
        uid ∈ (revenueItems ledgerRows).map Prod.fst ∨ uid ∈ (usageItems minCost excludeUserIds usageRows).map Prod.fst := by
  unfold allUsers
  rw [revenueByUser_eq, costByUser_eq]
  constructor
  · refine List.nodup_append.mpr ⟨uniqueKeys_tally _, (uniqueKeys_tally _).filter _, fun uid huid uid' huid' heq => ?_⟩
    exact of_decide_eq_true (List.mem_filter.mp huid').2 (heq ▸ huid)
  · intro uid
    have hledger := mem_keys_tally context.add 0 (revenueItems ledgerRows) uid
    have husage := mem_keys_tally context.add 0 (usageItems minCost excludeUserIds usageRows) uid
    rw [List.mem_append, List.mem_filter, decide_eq_true_eq, ← husage]
    by_cases hmem : uid ∈ (tally context.add 0 (revenueItems ledgerRows)).map Prod.fst
    · exact iff_of_true (.inl hmem) (.inl (hledger.mp hmem))
    · rw [or_iff_right hmem, or_iff_right fun h => hmem (hledger.mpr h), and_iff_left hmem]

end Sums

/-! ## The report -/

section Report

variable [DecidableEq R] [ToString R] [ToString U]

structure SameReport (report report' : ReconciliationReport U) : Prop where
  totals : ({ report with perUser := [] } : ReconciliationReport U) = { report' with perUser := [] }
  users : report.perUser.Perm report'.perUser
  sorted : report.perUser.map UserDrift.key = report'.perUser.map UserDrift.key

/-- A clean report means that every user reconciles, and the rest that is promised of a report. -/
structure CleanMeansReconciled (ledgerRows : List (LedgerRow R U)) (usageRows : List (UsageRow U)) (minCost : ℚ)
    (excludeUserIds : List U) (tolerance : Cell) : Prop where
  invariant : ∀ (order order' : SetOrder U) (ledgerRows' : List (LedgerRow R U)) (usageRows' : List (UsageRow U)),
    ledgerRows.Perm ledgerRows' → usageRows.Perm usageRows' →
      SameReport (reconcileRows order ledgerRows usageRows minCost excludeUserIds tolerance)
        (reconcileRows order' ledgerRows' usageRows' minCost excludeUserIds tolerance)
  drifts : ∀ order : SetOrder U,
    ((reconcileRows order ledgerRows usageRows minCost excludeUserIds tolerance).perUser.map UserDrift.drift).sum =
      (reconcileRows order ledgerRows usageRows minCost excludeUserIds tolerance).totalDrift
  covers : ∀ order : SetOrder U,
    ((reconcileRows order ledgerRows usageRows minCost excludeUserIds tolerance).perUser.map UserDrift.userId).Nodup ∧
      ∀ uid, uid ∈ (reconcileRows order ledgerRows usageRows minCost excludeUserIds tolerance).perUser.map UserDrift.userId ↔
        (∃ row ∈ ledgerRows, row.isRevenue = true ∧ row.userId = uid) ∨
          ∃ row ∈ usageRows, row.counts minCost excludeUserIds = true ∧ row.userId = uid
  clean : ∀ order : SetOrder U, (reconcileRows order ledgerRows usageRows minCost excludeUserIds tolerance).ok = true →
    (reconcileRows order ledgerRows usageRows minCost excludeUserIds tolerance).unbalancedRefs = [] ∧
      (reconcileRows order ledgerRows usageRows minCost excludeUserIds tolerance).withinTolerance = true ∧
      ∀ u ∈ (reconcileRows order ledgerRows usageRows minCost excludeUserIds tolerance).perUser, u.withinTolerance = true

/-- Every ref balances and the total is within the tolerance, but a user is not: other drifts cancel his. -/
def CancellingDrifts (ledgerRows : List (LedgerRow R U)) (usageRows : List (UsageRow U)) (minCost : ℚ)
    (excludeUserIds : List U) (tolerance : Cell) : Prop :=
  (∀ ref, (refSums ledgerRows ref).1 = (refSums ledgerRows ref).2) ∧
    |totalRevenue ledgerRows - totalCost minCost excludeUserIds usageRows| ≤ tolerance.value ∧
    ∃ uid, tolerance.value < |revenueOf ledgerRows uid - costOf minCost excludeUserIds usageRows uid|

variable {ledgerRows ledgerRows' : List (LedgerRow R U)} {usageRows usageRows' : List (UsageRow U)} {minCost : ℚ}
  {excludeUserIds : List U} {tolerance : Cell}

theorem perUser_perm (h : Unrounded (amounts ledgerRows usageRows)) (order : SetOrder U) (minCost : ℚ) (excludeUserIds : List U)
    (tolerance : Cell) : (reconcileRows order ledgerRows usageRows minCost excludeUserIds tolerance).perUser.Perm
      ((allUsers (summarizeLedger ledgerRows) (summarizeUsage minCost excludeUserIds usageRows)).map
        (lineOf minCost excludeUserIds ledgerRows usageRows tolerance.value)) := by
  refine (perm_sortOn _ _).trans ?_
  rw [userDrift_eq h]
  exact (order.perm _).map _

theorem mem_perUser_iff (h : Unrounded (amounts ledgerRows usageRows)) (order : SetOrder U) {u : UserDrift U} :
    u ∈ (reconcileRows order ledgerRows usageRows minCost excludeUserIds tolerance).perUser ↔
      ∃ uid, (uid ∈ (revenueItems ledgerRows).map Prod.fst ∨ uid ∈ (usageItems minCost excludeUserIds usageRows).map Prod.fst) ∧
        lineOf minCost excludeUserIds ledgerRows usageRows tolerance.value uid = u := by
  rw [(perUser_perm h order minCost excludeUserIds tolerance).mem_iff, List.mem_map]
  simp only [(allUsers_spec ledgerRows usageRows minCost excludeUserIds).2]

theorem withinTolerance_iff (h : Unrounded (amounts ledgerRows usageRows)) (order : SetOrder U) :
    (reconcileRows order ledgerRows usageRows minCost excludeUserIds tolerance).withinTolerance = true ↔
      |totalRevenue ledgerRows - totalCost minCost excludeUserIds usageRows| ≤ tolerance.value := by
  obtain ⟨hrevenue, hcost, hdrift⟩ := totals_eq h minCost excludeUserIds
  unfold reconcileRows reconcile
  dsimp only
  rw [hrevenue, hcost, hdrift, decide_eq_true_eq]

omit [ToString U] in
theorem unbalancedRefs_eq (ledgerRows : List (LedgerRow R U)) : (summarizeLedger ledgerRows).unbalancedRefs =
      sortOn id (((tally addLine (0, 0) (refItems ledgerRows)).filter fun e => e.2.1 ≠ e.2.2).map fun e => toString e.1) := by
  rw [summarizeLedger, foldl_ledgerStep]
  rfl

omit [ToString U] in
theorem unbalancedRefs_eq_nil_iff (h : Unrounded (amounts ledgerRows usageRows)) :
    (summarizeLedger ledgerRows).unbalancedRefs = [] ↔ ∀ ref, (refSums ledgerRows ref).1 = (refSums ledgerRows ref).2 := by
  rw [unbalancedRefs_eq, ← List.length_eq_zero_iff, (perm_sortOn _ _).length_eq, List.length_eq_zero_iff, List.map_eq_nil_iff,
    List.filter_eq_nil_iff]
  constructor
  · intro hall ref
    by_cases hmem : ref ∈ (refItems ledgerRows).map Prod.fst
    · have hentry := hall (ref, refSums ledgerRows ref) (mem_tally_iff.mpr ⟨hmem, (foldl_valuesOf_refItems h ref).symm⟩)
      simpa using hentry
    · rw [refSums, valuesOf_eq_nil hmem]
      rfl
  · rintro hall ⟨ref, sums⟩ hmem
    obtain ⟨-, rfl⟩ := mem_tally_iff.mp hmem
    rw [foldl_valuesOf_refItems h ref]
    simpa using hall ref

/-! ## Permuted rows -/

omit [DecidableEq U] [ToString U] [DecidableEq R] [ToString R] in
theorem amounts_perm (hledger : ledgerRows.Perm ledgerRows') (husage : usageRows.Perm usageRows') :
    (amounts ledgerRows usageRows).Perm (amounts ledgerRows' usageRows') :=
  ((hledger.map _).append (hledger.map _)).append (husage.map _)

omit [DecidableEq U] [ToString U] [DecidableEq R] [ToString R] in
theorem revenueItems_perm (hledger : ledgerRows.Perm ledgerRows') : (revenueItems ledgerRows).Perm (revenueItems ledgerRows') :=
  (hledger.filter _).map _

omit [ToString U] in
theorem usageItems_perm (husage : usageRows.Perm usageRows') (minCost : ℚ) (excludeUserIds : List U) :
    (usageItems minCost excludeUserIds usageRows).Perm (usageItems minCost excludeUserIds usageRows') := (husage.filter _).map _

omit [ToString U] [DecidableEq R] [ToString R] in
theorem lineOf_perm (hledger : ledgerRows.Perm ledgerRows') (husage : usageRows.Perm usageRows') (tolerance : ℚ) :
    lineOf minCost excludeUserIds ledgerRows usageRows tolerance = lineOf minCost excludeUserIds ledgerRows' usageRows' tolerance := by
  funext uid
  have hrevenue : revenueOf ledgerRows uid = revenueOf ledgerRows' uid := (perm_valuesOf (revenueItems_perm hledger) uid).sum_eq
  have hcost : costOf minCost excludeUserIds usageRows uid = costOf minCost excludeUserIds usageRows' uid :=
    (perm_valuesOf (usageItems_perm husage minCost excludeUserIds) uid).sum_eq
  rw [lineOf, hrevenue, hcost, lineOf]

omit [DecidableEq U] [ToString U] [ToString R] in
theorem refSums_perm (hledger : ledgerRows.Perm ledgerRows') (ref : R) : refSums ledgerRows ref = refSums ledgerRows' ref := by
  have hlines := perm_valuesOf (hledger.map fun row => (row.ref, row.debit.value, row.credit.value)) ref
  exact Prod.ext (hlines.map Prod.fst).sum_eq (hlines.map Prod.snd).sum_eq

omit [ToString U] [ToString R] [DecidableEq U] in
theorem perm_refTally (h : Unrounded (amounts ledgerRows usageRows)) (hledger : ledgerRows.Perm ledgerRows')
    (husage : usageRows.Perm usageRows') :
    (tally addLine (0, 0) (refItems ledgerRows)).Perm (tally addLine (0, 0) (refItems ledgerRows')) := by
  refine perm_tally (hledger.map _) fun ref => ?_
  rw [foldl_valuesOf_refItems h ref, foldl_valuesOf_refItems (h.perm (amounts_perm hledger husage)) ref, refSums_perm hledger]

theorem sameReport (h : Unrounded (amounts ledgerRows usageRows)) (hledger : ledgerRows.Perm ledgerRows')
    (husage : usageRows.Perm usageRows') (order order' : SetOrder U) :
    SameReport (reconcileRows order ledgerRows usageRows minCost excludeUserIds tolerance)
      (reconcileRows order' ledgerRows' usageRows' minCost excludeUserIds tolerance) := by
  have h' := h.perm (amounts_perm hledger husage)
  have hitems := usageItems_perm husage minCost excludeUserIds
  have htally := perm_refTally h hledger husage
  have hallUsers : (allUsers (summarizeLedger ledgerRows) (summarizeUsage minCost excludeUserIds usageRows)).Perm
      (allUsers (summarizeLedger ledgerRows') (summarizeUsage minCost excludeUserIds usageRows')) := by
    obtain ⟨hnodup, hmem⟩ := allUsers_spec ledgerRows usageRows minCost excludeUserIds
    obtain ⟨hnodup', hmem'⟩ := allUsers_spec ledgerRows' usageRows' minCost excludeUserIds
    refine (List.perm_ext_iff_of_nodup hnodup hnodup').mpr fun uid => ?_
    rw [hmem, hmem', ((revenueItems_perm hledger).map Prod.fst).mem_iff, (hitems.map Prod.fst).mem_iff]
  have hlines := hallUsers.map (lineOf minCost excludeUserIds ledgerRows usageRows tolerance.value)
  refine ⟨?_, ?_, ?_⟩
  · obtain ⟨hrevenue, hcost, -⟩ := totals_eq h minCost excludeUserIds
    obtain ⟨hrevenue', hcost', -⟩ := totals_eq h' minCost excludeUserIds
    have htotalRevenue : totalRevenue ledgerRows = totalRevenue ledgerRows' := ((revenueItems_perm hledger).map Prod.snd).sum_eq
    have htotalCost : totalCost minCost excludeUserIds usageRows = totalCost minCost excludeUserIds usageRows' :=
      (hitems.map Prod.snd).sum_eq
    have hrefs : (summarizeLedger ledgerRows).unbalancedRefs = (summarizeLedger ledgerRows').unbalancedRefs := by
      have := map_sortOn_eq_of_perm ((htally.filter fun e => e.2.1 ≠ e.2.2).map fun e => toString e.1) id
      rwa [List.map_id, List.map_id, ← unbalancedRefs_eq, ← unbalancedRefs_eq] at this
    have hrefCount : (summarizeLedger ledgerRows).refCount = (summarizeLedger ledgerRows').refCount := by
      rw [summarizeLedger, summarizeLedger, foldl_ledgerStep, foldl_ledgerStep]
      exact htally.length_eq
    have hrowCount : (summarizeUsage minCost excludeUserIds usageRows).rowCount =
        (summarizeUsage minCost excludeUserIds usageRows').rowCount := by
      rw [summarizeUsage, summarizeUsage, foldl_usageStep, foldl_usageStep]
      dsimp only
      rw [hitems.length_eq]
    unfold reconcileRows reconcile
    dsimp only
    rw [hrevenue, hcost, hrevenue', hcost', htotalRevenue, htotalCost, hrefs, hrefCount, hrowCount]
  · refine (perUser_perm h order minCost excludeUserIds tolerance).trans (hlines.trans ?_)
    rw [lineOf_perm hledger husage]
    exact (perUser_perm h' order' minCost excludeUserIds tolerance).symm
  · refine map_sortOn_eq_of_perm ?_ UserDrift.key
    rw [userDrift_eq h, userDrift_eq h', ← lineOf_perm hledger husage]
    exact (((order.perm _).map _).trans hlines).trans ((order'.perm _).map _).symm

/-! ## Drifts and users -/

theorem sum_drifts (h : Unrounded (amounts ledgerRows usageRows)) (order : SetOrder U) :
    ((reconcileRows order ledgerRows usageRows minCost excludeUserIds tolerance).perUser.map UserDrift.drift).sum =
      (reconcileRows order ledgerRows usageRows minCost excludeUserIds tolerance).totalDrift := by
  obtain ⟨hnodup, hmem⟩ := allUsers_spec ledgerRows usageRows minCost excludeUserIds
  obtain ⟨hrevenue, hcost, hdrift⟩ := totals_eq h minCost excludeUserIds
  have hrevenues := sum_by_key hnodup fun uid huid => (hmem uid).mpr (.inl huid)
  have hcosts := sum_by_key hnodup fun uid huid => (hmem uid).mpr (.inr huid)
  calc _ = ((allUsers (summarizeLedger ledgerRows) (summarizeUsage minCost excludeUserIds usageRows)).map fun uid =>
          revenueOf ledgerRows uid - costOf minCost excludeUserIds usageRows uid).sum := by
        rw [((perUser_perm h order minCost excludeUserIds tolerance).map UserDrift.drift).sum_eq, List.map_map]
        rfl
    _ = totalRevenue ledgerRows - totalCost minCost excludeUserIds usageRows := by
        rw [sum_map_sub]
        exact congrArg₂ _ hrevenues hcosts
    _ = _ := by
        unfold reconcileRows reconcile
        dsimp only
        rw [hrevenue, hcost, hdrift]

theorem covers (h : Unrounded (amounts ledgerRows usageRows)) (order : SetOrder U) :
    ((reconcileRows order ledgerRows usageRows minCost excludeUserIds tolerance).perUser.map UserDrift.userId).Nodup ∧
      ∀ uid, uid ∈ (reconcileRows order ledgerRows usageRows minCost excludeUserIds tolerance).perUser.map UserDrift.userId ↔
        (∃ row ∈ ledgerRows, row.isRevenue = true ∧ row.userId = uid) ∨
          ∃ row ∈ usageRows, row.counts minCost excludeUserIds = true ∧ row.userId = uid := by
  obtain ⟨hnodup, hmem⟩ := allUsers_spec ledgerRows usageRows minCost excludeUserIds
  have hids := (perUser_perm h order minCost excludeUserIds tolerance).map UserDrift.userId
  rw [List.map_map, show UserDrift.userId ∘ lineOf minCost excludeUserIds ledgerRows usageRows tolerance.value = id from rfl,
    List.map_id] at hids
  refine ⟨hids.nodup_iff.mpr hnodup, fun uid => ?_⟩
  rw [hids.mem_iff, hmem, revenueItems, usageItems]
  simp only [List.map_map, List.mem_map, List.mem_filter, Function.comp_apply, and_assoc]

theorem clean_iff (h : Unrounded (amounts ledgerRows usageRows)) (order : SetOrder U) :
    ((reconcileRows order ledgerRows usageRows minCost excludeUserIds tolerance).ok = true →
      (reconcileRows order ledgerRows usageRows minCost excludeUserIds tolerance).unbalancedRefs = [] ∧
        (reconcileRows order ledgerRows usageRows minCost excludeUserIds tolerance).withinTolerance = true ∧
        ∀ u ∈ (reconcileRows order ledgerRows usageRows minCost excludeUserIds tolerance).perUser, u.withinTolerance = true) ↔
      ¬CancellingDrifts ledgerRows usageRows minCost excludeUserIds tolerance := by
  have hok : (reconcileRows order ledgerRows usageRows minCost excludeUserIds tolerance).ok = true ↔
      |totalRevenue ledgerRows - totalCost minCost excludeUserIds usageRows| ≤ tolerance.value ∧
        ∀ ref, (refSums ledgerRows ref).1 = (refSums ledgerRows ref).2 := by
    rw [ReconciliationReport.ok, Bool.and_eq_true, withinTolerance_iff h, List.isEmpty_iff]
    exact and_congr_right' (unbalancedRefs_eq_nil_iff h)
  have hrefs : (reconcileRows order ledgerRows usageRows minCost excludeUserIds tolerance).unbalancedRefs = [] ↔
      ∀ ref, (refSums ledgerRows ref).1 = (refSums ledgerRows ref).2 := unbalancedRefs_eq_nil_iff h
  rw [hok, hrefs, withinTolerance_iff h]
  constructor
  · rintro hclean ⟨hbalanced, htotal, uid, huid⟩
    by_cases hmem : uid ∈ (revenueItems ledgerRows).map Prod.fst ∨ uid ∈ (usageItems minCost excludeUserIds usageRows).map Prod.fst
    · have hwithin := (hclean ⟨htotal, hbalanced⟩).2.2 _ ((mem_perUser_iff h order).mpr ⟨uid, hmem, rfl⟩)
      exact absurd (of_decide_eq_true hwithin) (not_le.mpr huid)
    · -- a user without rows has no drift, so the tolerance is negative
      obtain ⟨hrevenue, hcost⟩ := not_or.mp hmem
      rw [revenueOf, costOf, valuesOf_eq_nil hrevenue, valuesOf_eq_nil hcost, sub_self, abs_zero] at huid
      exact absurd ((abs_nonneg _).trans htotal) (not_le.mpr huid)
  · rintro hnot ⟨htotal, hbalanced⟩
    refine ⟨hbalanced, htotal, fun u hu => ?_⟩
    obtain ⟨uid, -, rfl⟩ := (mem_perUser_iff h order).mp hu
    exact decide_eq_true (not_lt.mp fun huid => hnot ⟨hbalanced, htotal, uid, huid⟩)

/-- **When a clean report means that every user reconciles**: exactly if no drift of a user beyond the tolerance is cancelled by
others while all refs balance. -/
theorem clean_report_iff (h : Unrounded (amounts ledgerRows usageRows)) :
    CleanMeansReconciled ledgerRows usageRows minCost excludeUserIds tolerance ↔
      ¬CancellingDrifts ledgerRows usageRows minCost excludeUserIds tolerance := by
  constructor
  · exact fun hall => (clean_iff h ⟨id, fun _ => List.Perm.refl _⟩).mp (hall.clean _)
  · intro hnot
    exact ⟨fun order order' _ _ hledger husage => sameReport h hledger husage order order', sum_drifts h, covers h,
      fun order => (clean_iff h order).mpr hnot⟩

end Report

/-- A charge of `amount` to the purchased credits of a user. -/
def settledRows (ref : String) (userId : ℕ) (amount : ℚ) : List (LedgerRow String ℕ) :=
  [⟨ref, userId, some Account.purchased.name, .number amount, .number 0⟩,
    ⟨ref, userId, some Account.revenue.name, .number 0, .number amount⟩]

/-- Two users are charged 5 and 2 … -/
def twoCharges : List (LedgerRow String ℕ) := settledRows "r1" 1 5 ++ settledRows "r2" 2 2

/-- … and have used 2 and 5. -/
def twoUsages : List (UsageRow ℕ) := [⟨1, .number 2⟩, ⟨2, .number 5⟩]

def twoReport : ReconciliationReport ℕ :=
  reconcileRows ⟨id, fun _ => List.Perm.refl _⟩ twoCharges twoUsages defaultMinCost [] (.number defaultTolerance)

theorem clean_report_iff_two_users :
    CleanMeansReconciled twoCharges twoUsages defaultMinCost [] (.number defaultTolerance) ↔
      ¬CancellingDrifts twoCharges twoUsages defaultMinCost [] (.number defaultTolerance) := by
  have hwhole : ∀ a ∈ amounts twoCharges twoUsages, a = (a.num : ℚ) * 10 ^ (0 : ℤ) := by decide +kernel
  exact clean_report_iff ⟨0, fun a ha => ⟨a.num, hwhole a ha⟩, by decide +kernel⟩

/-- One user is charged 3 more than he used and another 3 less, and the report is `ok`. -/
theorem clean_report_hides_drift :
    twoReport.ok = true ∧
      (twoReport.perUser.map fun u => (u.userId, u.drift, u.withinTolerance)) = [(1, 3, false), (2, -3, false)] ∧
      ¬∀ (ledgerRows : List (LedgerRow String ℕ)) (usageRows : List (UsageRow ℕ)) (minCost : ℚ) (excludeUserIds : List ℕ)
        (tolerance : Cell), CleanMeansReconciled ledgerRows usageRows minCost excludeUserIds tolerance := by
  have hok : twoReport.ok = true := by decide +kernel
  have husers : (twoReport.perUser.map fun u => (u.userId, u.drift, u.withinTolerance)) = [(1, 3, false), (2, -3, false)] := by
    decide +kernel
  refine ⟨hok, husers, fun hall => ?_⟩
  have hfirst : (1, 3, false) ∈ twoReport.perUser.map fun u => (u.userId, u.drift, u.withinTolerance) := by
    rw [husers]
    exact List.mem_cons_self ..
  obtain ⟨u, hu, heq⟩ := List.mem_map.mp hfirst
  have hflag : u.withinTolerance = false := congrArg (fun x => x.2.2) heq
  rw [((hall twoCharges twoUsages defaultMinCost [] (.number defaultTolerance)).clean _ hok).2.2 u hu] at hflag
  cases hflag

end Gatewayz.Reconciliation
