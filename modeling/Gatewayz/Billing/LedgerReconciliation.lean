import Gatewayz.Billing.CreditLedger
import Gatewayz.Exec.Tally
import Mathlib.Data.Prod.Lex
import Mathlib.Data.String.Basic

/-!
# `Billing.LedgerReconciliation` — the shadow ledger against the usage records

`ledger_reconciliation.py`. Rows are compared by user, and refs by their two sums. Refs and user ids are any values that can be the
keys of a dictionary and have a text. The order in which Python walks through a set of users is not fixed; it is a parameter
(`SetOrder`).
-/

namespace Gatewayz.Reconciliation

open Exec Exec.Dictionary CreditLedger

/-- What a row has under the name of an amount: nothing (or an empty text), a finite number, or something that is no number. -/
inductive Cell where
  | missing
  | number (q : ℚ)
  | unreadable

/-- `_d`. -/
def Cell.value : Cell → ℚ
  | .missing => 0
  | .number q => q
  | .unreadable => 0

def defaultMinCost : ℚ := 1 / 1000000

def defaultTolerance : ℚ := 1 / 100

/-- A row of `credit_ledger`. -/
structure LedgerRow (R U : Type) where
  ref : R
  userId : U
  account : Option String
  debit : Cell
  credit : Cell

/-- A row of `usage_records`. -/
structure UsageRow (U : Type) where
  userId : U
  cost : Cell

structure LedgerSummary (U : Type) where
  totalRevenue : ℚ
  revenueByUser : List (U × ℚ)
  refCount : ℕ
  entryCount : ℕ
  unbalancedRefs : List String

structure UsageSummary (U : Type) where
  totalCost : ℚ
  costByUser : List (U × ℚ)
  rowCount : ℕ
  excludedCount : ℕ

structure UserDrift (U : Type) where
  userId : U
  ledgerRevenue : ℚ
  usageCost : ℚ
  drift : ℚ
  withinTolerance : Bool

structure ReconciliationReport (U : Type) where
  totalLedgerRevenue : ℚ
  totalUsageCost : ℚ
  totalDrift : ℚ
  withinTolerance : Bool
  unbalancedRefs : List String
  ledgerRefCount : ℕ
  usageRowCount : ℕ
  tolerance : ℚ
  perUser : List (UserDrift U)

def ReconciliationReport.ok {U : Type} (report : ReconciliationReport U) : Bool :=
  report.withinTolerance && report.unbalancedRefs.isEmpty

structure SetOrder (U : Type) where
  list : List U → List U
  perm : ∀ members, (list members).Perm members

section Summaries

variable {R U : Type} [DecidableEq R] [DecidableEq U]

/-- The locals of the loop of `summarize_ledger`. -/
structure LedgerLoop (R U : Type) where
  perRef : List (R × ℚ × ℚ) := []
  revenueByUser : List (U × ℚ) := []
  totalRevenue : ℚ := 0

def addLine (sums line : ℚ × ℚ) : ℚ × ℚ := (context.add sums.1 line.1, context.add sums.2 line.2)

def LedgerLoop.step (s : LedgerLoop R U) (row : LedgerRow R U) : LedgerLoop R U :=
  let debit := row.debit.value
  let credit := row.credit.value
  let s := { s with perRef := bump addLine (0, 0) s.perRef (row.ref, debit, credit) }
  if row.account = some Account.revenue.name then
    { s with
      revenueByUser := bump context.add 0 s.revenueByUser (row.userId, credit)
      totalRevenue := context.add s.totalRevenue credit }
  else s

def summarizeLedger [ToString R] (rows : List (LedgerRow R U)) : LedgerSummary U :=
  let s := rows.foldl LedgerLoop.step ({} : LedgerLoop R U)
  { totalRevenue := s.totalRevenue
    revenueByUser := s.revenueByUser
    refCount := s.perRef.length
    entryCount := rows.length
    unbalancedRefs := sortOn id ((s.perRef.filter fun e => e.2.1 ≠ e.2.2).map fun e => toString e.1) }

/-- The locals of the loop of `summarize_usage`. -/
structure UsageLoop (U : Type) where
  costByUser : List (U × ℚ) := []
  totalCost : ℚ := 0
  included : ℕ := 0
  excluded : ℕ := 0

variable (minCost : ℚ) (excludeUserIds : List U)

def UsageLoop.step (s : UsageLoop U) (row : UsageRow U) : UsageLoop U :=
  let cost := row.cost.value
  if cost < minCost ∨ row.userId ∈ excludeUserIds then { s with excluded := s.excluded + 1 }
  else
    { s with
      costByUser := bump context.add 0 s.costByUser (row.userId, cost)
      totalCost := context.add s.totalCost cost
      included := s.included + 1 }

def summarizeUsage (rows : List (UsageRow U)) : UsageSummary U :=
  let s := rows.foldl (UsageLoop.step minCost excludeUserIds) {}
  { totalCost := s.totalCost, costByUser := s.costByUser, rowCount := s.included, excludedCount := s.excluded }

end Summaries

section Reconcile

variable {R U : Type} [DecidableEq R] [DecidableEq U] [ToString R] [ToString U]

def allUsers (ledger : LedgerSummary U) (usage : UsageSummary U) : List U :=
  ledger.revenueByUser.map Prod.fst ++
    (usage.costByUser.map Prod.fst).filter fun uid => uid ∉ ledger.revenueByUser.map Prod.fst

/-- A user's line; what a subtraction returns has no more digits than the context, so `abs` does not round it. -/
def userDrift (ledger : LedgerSummary U) (usage : UsageSummary U) (tolerance : ℚ) (uid : U) : UserDrift U :=
  let rev := (ledger.revenueByUser.lookup uid).getD 0
  let cost := (usage.costByUser.lookup uid).getD 0
  let drift := context.sub rev cost
  { userId := uid, ledgerRevenue := rev, usageCost := cost, drift := drift, withinTolerance := |drift| ≤ tolerance }

/-- What the lines are sorted by: the worst drift first, then the text of the user id. -/
def UserDrift.key (u : UserDrift U) : ℚ ×ₗ String := toLex (-|u.drift|, toString u.userId)

def reconcile (order : SetOrder U) (ledger : LedgerSummary U) (usage : UsageSummary U) (tolerance : Cell) :
    ReconciliationReport U :=
  let tolerance := tolerance.value
  let totalDrift := context.sub ledger.totalRevenue usage.totalCost
  { totalLedgerRevenue := ledger.totalRevenue
    totalUsageCost := usage.totalCost
    totalDrift := totalDrift
    withinTolerance := |totalDrift| ≤ tolerance
    unbalancedRefs := ledger.unbalancedRefs
    ledgerRefCount := ledger.refCount
    usageRowCount := usage.rowCount
    tolerance := tolerance
    perUser := sortOn UserDrift.key ((order.list (allUsers ledger usage)).map (userDrift ledger usage tolerance)) }

def reconcileRows (order : SetOrder U) (ledgerRows : List (LedgerRow R U)) (usageRows : List (UsageRow U)) (minCost : ℚ)
    (excludeUserIds : List U) (tolerance : Cell) : ReconciliationReport U :=
  reconcile order (summarizeLedger ledgerRows) (summarizeUsage minCost excludeUserIds usageRows) tolerance

end Reconcile

end Gatewayz.Reconciliation
