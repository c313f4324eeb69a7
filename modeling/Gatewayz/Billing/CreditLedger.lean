import Gatewayz.Billing.Numerals
import Gatewayz.Exec.Decimal

/-!
# `Billing.CreditLedger` — the double-entry ledger

`credit_ledger.py` and the entries of `credit_ledger_store.py`. The amounts are finite `Decimal`s; `_d` leaves those as they are. A
comparison, `min` and `max` are exact, while a sum and a difference are rounded by the default context of `decimal` (`context`), which
nothing in the program changes.
-/

namespace Gatewayz

namespace CreditLedger

open Exec

/-- The default context of `decimal`: 28 digits, ties to even. -/
def context : DecimalContext where
  precision := 28
  toInt := roundHalfEven
  precision_pos := by norm_num
  toInt_intCast := roundHalfEven_intCast
  toInt_mono _ _ h := roundHalfEven_mono h

inductive Account where
  | allowance
  | purchased
  | revenue
  deriving DecidableEq

/-- The name of an account in a row. -/
def Account.name : Account → String
  | .allowance => "user:subscription_allowance"
  | .purchased => "user:purchased_credits"
  | .revenue => "revenue"

inductive EntryState where
  | reserved
  | settled
  | released
  deriving DecidableEq

inductive LedgerError where
  | valueError (message : String)
  | insufficientBalance (charge available : ℚ)
  deriving DecidableEq

structure LedgerEntry where
  ref : String
  account : Account
  debit : ℚ
  credit : ℚ
  state : EntryState
  deriving DecidableEq

def isBalanced (entries : List LedgerEntry) : Bool :=
  (entries.map LedgerEntry.debit).foldl context.add 0 = (entries.map LedgerEntry.credit).foldl context.add 0

structure ChargeSplit where
  fromAllowance : ℚ
  fromPurchased : ℚ

def ChargeSplit.total (split : ChargeSplit) : ℚ := context.add split.fromAllowance split.fromPurchased

def splitCharge (amount allowance purchased : ℚ) : Except LedgerError ChargeSplit :=
  if amount < 0 then .error (.valueError "amount must be non-negative")
  else
    let fromAllowance := min amount allowance
    let fromPurchased := context.sub amount fromAllowance
    if purchased < fromPurchased then .error (.insufficientBalance amount (context.add allowance purchased))
    else .ok ⟨fromAllowance, fromPurchased⟩

/-- The lines of a split, each only if it moves something. -/
def entriesOf (state : EntryState) (ref : String) (split : ChargeSplit) : List LedgerEntry :=
  (if 0 < split.fromAllowance then [⟨ref, .allowance, split.fromAllowance, 0, state⟩] else []) ++
    (if 0 < split.fromPurchased then [⟨ref, .purchased, split.fromPurchased, 0, state⟩] else []) ++
    (if 0 < split.total then [⟨ref, .revenue, 0, split.total, state⟩] else [])

def reserve (ref : String) (estimatedCost allowance purchased : ℚ) : Except LedgerError (List LedgerEntry) := do
  let split ← splitCharge estimatedCost allowance purchased
  return entriesOf .reserved ref split

def buildSettledEntries (ref : String) (cost allowance purchased : ℚ) : Except LedgerError (List LedgerEntry) := do
  let split ← splitCharge cost allowance purchased
  return entriesOf .settled ref split

/-- What is settled, given back and still to be charged. -/
structure Reconciliation where
  settled : ℚ
  released : ℚ
  extra : ℚ
  drift : ℚ

def reconcile (reserved actual : ℚ) : Except LedgerError Reconciliation :=
  if reserved < 0 ∨ actual < 0 then .error (.valueError "reserved and actual must be non-negative")
  else
    .ok { settled := min actual reserved, released := max 0 (context.sub reserved actual),
          extra := max 0 (context.sub actual reserved), drift := context.sub actual reserved }

variable {amount allowance purchased : ℚ}

/-- A split is made of a charge that is neither negative nor beyond the purchased credits, allowance first. -/
theorem splitCharge_ok_iff {split : ChargeSplit} : splitCharge amount allowance purchased = .ok split ↔
      0 ≤ amount ∧ context.sub amount (min amount allowance) ≤ purchased ∧
        split = ⟨min amount allowance, context.sub amount (min amount allowance)⟩ := by
  unfold splitCharge
  dsimp only
  split_ifs with hneg hbeyond
  · simp [not_le.mpr hneg]
  · simp [not_le.mpr hbeyond]
  · simp [not_lt.mp hneg, not_lt.mp hbeyond, eq_comm]

theorem reserve_ok_iff {ref : String} {entries : List LedgerEntry} :
    reserve ref amount allowance purchased = .ok entries ↔
      ∃ split, splitCharge amount allowance purchased = .ok split ∧ entries = entriesOf .reserved ref split := by
  unfold reserve
  cases splitCharge amount allowance purchased with
  | error e => simp [bind, Except.bind]
  | ok split => simp [bind, Except.bind, pure, Except.pure, eq_comm]

theorem buildSettledEntries_ok_iff {ref : String} {entries : List LedgerEntry} :
    buildSettledEntries ref amount allowance purchased = .ok entries ↔
      ∃ split, splitCharge amount allowance purchased = .ok split ∧ entries = entriesOf .settled ref split := by
  unfold buildSettledEntries
  cases splitCharge amount allowance purchased with
  | error e => simp [bind, Except.bind]
  | ok split => simp [bind, Except.bind, pure, Except.pure, eq_comm]

end CreditLedger

end Gatewayz
