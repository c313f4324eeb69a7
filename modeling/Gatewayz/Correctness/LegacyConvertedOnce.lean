import Gatewayz.Billing.LegacyCredits
import Gatewayz.Billing.Rules
import Gatewayz.Exec.Pool

/-!
# `Correctness.LegacyConvertedOnce` — legacy credits are converted once, or they are not

`_migrate_legacy_credit_balance` guards its update with the legacy value and clears it; `_handle_existing_user` does neither, and may
act on a record from a cache. Both write balances that they have found to be zero some time before. So a user who has spent the
converted credits may convert them again by signing in, and a grant that is committed between the read and the write of a
conversion is overwritten.

`Audited` keeps books next to the tables: what everything but the conversions has added to a user's balance and taken from it, and
whether the legacy credits have been converted.
-/

namespace Gatewayz

open Exec

/-! ## Who works on the balances -/

/-- Statements of `Stmt`, on the tables with the legacy column. -/
def withCredits {α : Type} (prog : DbProg α) : AccountProg α := prog.embed AccountStmt.db fun _ r => r

inductive LegacyOp where
  /-- With the record of a cache, or with the one in the table. -/
  | signIn (userId : Int) (cached : Option UserRecord)
  | lookup (apiKey : String)
  | grant (params : AddCreditsParams)
  | deduct (now : Time) (apiKey : String) (tokens : ℚ) (metadata : Option Dict) (requestId : Option String)
  | reset (now : Time) (userId : Int) (allowanceAmount : ℚ) (tier : String)
  | forfeit (now : Time) (userId : Int) (raiseOnError : Bool)

def LegacyOp.prog : LegacyOp → AccountProg Unit
  | .signIn userId cached => do
    let existingUser : Option UserRecord ←
      match cached with
      | some user => pure (some user)
      | none => ask (.selectRecord userId)
    match existingUser with
    | some user => do
      let _ ← handleExistingUser user
      pure ()
    | none => pure ()
  | .lookup apiKey => do
    let _ ← getUserUncached apiKey
    pure ()
  | .grant params => withCredits (addCreditsToUser params)
  | .deduct now apiKey tokens metadata requestId => withCredits (deductCredits now apiKey tokens metadata requestId)
  | .reset now userId allowanceAmount tier =>
    withCredits (do
      let _ ← resetSubscriptionAllowance now userId allowanceAmount tier
      pure ())
  | .forfeit now userId raiseOnError =>
    withCredits (do
      let _ ← forfeitSubscriptionAllowance now userId raiseOnError none none
      pure ())

/-! ## The books -/

def LegacyWorld.legacy (w : LegacyWorld) (u : Int) : ℚ := (w.credits u).getD 0

def AccountStmt.conversion (u : Int) (w : LegacyWorld) : AccountStmt → Option ℚ
  | .migrateCredits v _ legacy => if v = u ∧ (w.db.users v).isSome ∧ w.credits v = some legacy then some legacy else none
  | .convertAtLogin v allowance purchased => if v = u ∧ (w.db.users v).isSome then some (allowance + purchased) else none
  | _ => none

/-- The tables, with books about one user: grants and deductions as far as they were committed, and the conversion. -/
structure Audited where
  world : LegacyWorld
  granted : ℚ := 0
  spent : ℚ := 0
  converted : Bool := false

namespace Audited

/-- A statement of `Stmt` is booked by what it does to the balance. -/
def book (u : Int) (a : Audited) (db : World) : Audited where
  world := { a.world with db := db }
  granted := a.granted + max 0 (db.balance u - a.world.db.balance u)
  spent := a.spent + max 0 (a.world.db.balance u - db.balance u)
  converted := a.converted

def exec (u : Int) : (s : AccountStmt) → Audited → Except PyErr (AccountRes s) × Audited
  | .db s, a => ((Gatewayz.exec s a.world.db).1, a.book u (Gatewayz.exec s a.world.db).2)
  | .selectRecord v, a => ((LegacyWorld.exec (.selectRecord v) a.world).1, a)
  | .selectRecordByApiKey k, a => ((LegacyWorld.exec (.selectRecordByApiKey k) a.world).1, a)
  | .migrateCredits v t l, a =>
    ((LegacyWorld.exec (.migrateCredits v t l) a.world).1,
      { a with
        world := (LegacyWorld.exec (.migrateCredits v t l) a.world).2
        converted := a.converted || ((AccountStmt.migrateCredits v t l).conversion u a.world).isSome })
  | .convertAtLogin v x p, a =>
    ((LegacyWorld.exec (.convertAtLogin v x p) a.world).1,
      { a with
        world := (LegacyWorld.exec (.convertAtLogin v x p) a.world).2
        converted := a.converted || ((AccountStmt.convertAtLogin v x p).conversion u a.world).isSome })

end Audited

/-- A conversion that disturbs nothing: when it writes, both balances are still zero, what it writes are the legacy credits in the
    table, and they have not been converted before. -/
def Undisturbed (u : Int) (s : AccountStmt) (a : Audited) : Prop :=
  match s.conversion u a.world with
  | none => True
  | some amount => a.world.db.columns u = (0, 0) ∧ amount = a.world.legacy u ∧ a.converted = false

instance (u : Int) (s : AccountStmt) (a : Audited) : Decidable (Undisturbed u s a) := by
  unfold Undisturbed
  cases s.conversion u a.world <;> infer_instance

abbrev auditing (u : Int) (allow : AccountStmt → Audited → Prop) : Setting PyErr AccountStmt AccountRes Unit Audited where
  exec := Audited.exec u
  note := fun _ _ _ _ _ => ()
  allow := fun _ s _ a => allow s a

def legacyPool {ι : Type} (ops : ι → LegacyOp) : Pool ι PyErr AccountStmt AccountRes Unit Unit :=
  Pool.start () fun i => (ops i).prog

/-! ## The books are right -/

section Books

variable {u : Int} {w : LegacyWorld} {a : Audited} {s : AccountStmt}

/-- The books balance since `w`: the balance is what it was, with what was granted, spent and converted; and until it is converted
    the legacy column is what it was. -/
structure Balanced (u : Int) (w : LegacyWorld) (a : Audited) : Prop where
  balance : a.world.db.balance u = w.db.balance u + a.granted - a.spent + if a.converted then w.legacy u else 0
  legacy : a.converted = false → a.world.credits u = w.credits u

theorem balance_eq_zero {db : World} (h : db.columns u = (0, 0)) : db.balance u = 0 := by
  obtain ⟨hallowance, hpurchased⟩ := Prod.ext_iff.mp h
  rw [World.balance, show db.allowance u = 0 from hallowance, show db.purchased u = 0 from hpurchased, add_zero]

theorem balance_updateUserRow {patch : UserPatch} {db : World} {row : User} (h : db.users u = some row) :
    (updateUserRow u patch db).2.balance u = (patch.apply row).balance := by
  rcases updateUserRow_cases u patch db with ⟨hnone, -⟩ | ⟨row', hrow, he⟩
  · rw [h] at hnone
    cases hnone
  · rw [h] at hrow
    cases hrow
    rw [he, World.balance_setUser, if_pos rfl]

theorem balance_updateUserRow_of_ne {patch : UserPatch} {db : World} {v : Int} (h : v ≠ u) :
    (updateUserRow v patch db).2.balance u = db.balance u := by
  rcases updateUserRow_cases v patch db with ⟨-, he⟩ | ⟨row, -, he⟩
  · rw [he]
  · rw [he, World.balance_setUser, if_neg h.symm]

theorem balanced_book (h : Balanced u w a) (db : World) : Balanced u w (a.book u db) := by
  refine ⟨?_, h.legacy⟩
  have hbalance := h.balance
  show db.balance u = w.db.balance u + (a.granted + max 0 (db.balance u - a.world.db.balance u)) -
    (a.spent + max 0 (a.world.db.balance u - db.balance u)) + if a.converted then w.legacy u else 0
  generalize (if a.converted then w.legacy u else 0) = c at hbalance ⊢
  rcases le_total (db.balance u) (a.world.db.balance u) with hle | hle
  · rw [max_eq_left (sub_nonpos.mpr hle), max_eq_right (sub_nonneg.mpr hle)]
    linarith
  · rw [max_eq_right (sub_nonneg.mpr hle), max_eq_left (sub_nonpos.mpr hle)]
    linarith

theorem balanced_convert (h : Balanced u w a) {w' : LegacyWorld} {amount : ℚ} (hzero : a.world.db.columns u = (0, 0))
    (hamount : amount = a.world.legacy u) (hfirst : a.converted = false) (hbalance : w'.db.balance u = amount) :
    Balanced u w { a with world := w', converted := true } := by
  refine ⟨?_, nofun⟩
  have hbooks := h.balance
  rw [balance_eq_zero hzero, hfirst, if_neg Bool.false_ne_true] at hbooks
  show w'.db.balance u = _
  rw [hbalance, hamount, if_pos rfl, LegacyWorld.legacy, h.legacy hfirst, LegacyWorld.legacy]
  linarith

theorem balanced_other (h : Balanced u w a) {w' : LegacyWorld} (hbalance : w'.db.balance u = a.world.db.balance u)
    (hcredits : w'.credits u = a.world.credits u) : Balanced u w { a with world := w', converted := a.converted || false } := by
  rw [Bool.or_false]
  exact ⟨hbalance.trans h.balance, fun hfirst => hcredits.trans (h.legacy hfirst)⟩

theorem conversion_migrateCredits (u v : Int) (t : CreditTarget) (l : ℚ) (w : LegacyWorld) :
    (AccountStmt.migrateCredits v t l).conversion u w =
      if v = u ∧ (w.db.users v).isSome ∧ w.credits v = some l then some l else none := rfl

theorem conversion_convertAtLogin (u v : Int) (x p : ℚ) (w : LegacyWorld) :
    (AccountStmt.convertAtLogin v x p).conversion u w = if v = u ∧ (w.db.users v).isSome then some (x + p) else none := rfl

theorem balanced_migrate (h : Balanced u w a) {v : Int} {t : CreditTarget} {l : ℚ}
    (hok : Undisturbed u (.migrateCredits v t l) a) : Balanced u w (Audited.exec u (.migrateCredits v t l) a).2 := by
  show Balanced u w
    { a with
      world := (a.world.migrate v t l).2
      converted := a.converted || ((AccountStmt.migrateCredits v t l).conversion u a.world).isSome }
  unfold Undisturbed at hok
  rw [conversion_migrateCredits] at hok ⊢
  unfold LegacyWorld.migrate
  by_cases hmatch : (a.world.db.users v).isSome ∧ a.world.credits v = some l
  · rw [if_pos hmatch]
    by_cases hv : v = u
    · subst hv
      rw [if_pos ⟨rfl, hmatch⟩] at hok ⊢
      obtain ⟨hzero, hamount, hfirst⟩ := hok
      rw [Option.isSome_some, Bool.or_true]
      refine balanced_convert h hzero hamount hfirst ?_
      obtain ⟨row, hrow⟩ := Option.isSome_iff_exists.mp hmatch.1
      obtain ⟨hallowance, hpurchased⟩ := Prod.ext_iff.mp hzero
      have hallowance : row.allowance = 0 := (World.allowance_of_users hrow).symm.trans hallowance
      have hpurchased : row.purchased = 0 := (World.purchased_of_users hrow).symm.trans hpurchased
      show (updateUserRow v (t.patch l) a.world.db).2.balance v = l
      rw [balance_updateUserRow hrow]
      cases t with
      | purchased =>
        show row.allowance + l = l
        rw [hallowance, zero_add]
      | allowance =>
        show l + row.purchased = l
        rw [hpurchased, add_zero]
    · rw [if_neg fun hc => hv hc.1]
      exact balanced_other h (balance_updateUserRow_of_ne hv) (Function.update_of_ne (Ne.symm hv) ..)
  · rw [if_neg hmatch, if_neg fun hc => hmatch hc.2]
    exact balanced_other h rfl rfl

theorem balanced_login (h : Balanced u w a) {v : Int} {x p : ℚ} (hok : Undisturbed u (.convertAtLogin v x p) a) :
    Balanced u w (Audited.exec u (.convertAtLogin v x p) a).2 := by
  show Balanced u w
    { a with
      world := { a.world with
        db := (updateUserRow v { subscriptionAllowance := some x, purchasedCredits := some p } a.world.db).2 }
      converted := a.converted || ((AccountStmt.convertAtLogin v x p).conversion u a.world).isSome }
  unfold Undisturbed at hok
  rw [conversion_convertAtLogin] at hok ⊢
  by_cases hv : v = u
  · subst hv
    by_cases hsome : (a.world.db.users v).isSome
    · rw [if_pos ⟨rfl, hsome⟩] at hok ⊢
      obtain ⟨hzero, hamount, hfirst⟩ := hok
      rw [Option.isSome_some, Bool.or_true]
      refine balanced_convert h hzero hamount hfirst ?_
      obtain ⟨row, hrow⟩ := Option.isSome_iff_exists.mp hsome
      show (updateUserRow v _ a.world.db).2.balance v = x + p
      rw [balance_updateUserRow hrow]
      rfl
    · rw [if_neg fun hc => hsome hc.2]
      refine balanced_other h ?_ rfl
      rcases updateUserRow_cases v { subscriptionAllowance := some x, purchasedCredits := some p } a.world.db with
        ⟨-, he⟩ | ⟨row, hrow, -⟩
      · rw [he]
      · rw [hrow] at hsome
        exact absurd rfl hsome
  · rw [if_neg fun hc => hv hc.1]
    exact balanced_other h (balance_updateUserRow_of_ne hv) rfl

/-- Step: an undisturbed statement keeps the books right, whether or not its answer arrives. -/
theorem balanced_step (hok : Undisturbed u s a) (h : Balanced u w a) (o : Outcome PyErr) :
    Balanced u w (answer (Audited.exec u) s o a).2 := by
  have hexec : Balanced u w (Audited.exec u s a).2 := by
    cases s with
    | db s => exact balanced_book h _
    | selectRecord v => exact h
    | selectRecordByApiKey k => exact h
    | migrateCredits v t l => exact balanced_migrate h hok
    | convertAtLogin v x p => exact balanced_login h hok
  cases o with
  | served => exact hexec
  | dropped e => exact h
  | lost e => exact hexec

variable {ι : Type} [DecidableEq ι]

end Books

/-! ## Fifty cents -/

def oldAccount : LegacyWorld where
  db :=
    { users := fun u => if u = 1 then some { subscriptionAllowance := some 0, purchasedCredits := some 0 } else none
      userIds := [1]
      apiKeysNew := [{ apiKey := "gw_live_a", userId := 1 }] }
  credits := fun u => if u = 1 then some (1 / 2) else none

def signInTwice : Fin 3 → LegacyOp
  | 0 => .signIn 1 none
  | 1 => .deduct 1750000000 "gw_live_a" (1 / 2) none none
  | 2 => .signIn 1 none

def inTurn (turns : List (Fin 3)) : Schedule (Fin 3) PyErr := turns.map fun i => (i, .served)

end Gatewayz
