import Gatewayz.Billing.Users

/-!
# `Billing.LegacyCredits` — the `credits` column, and what is left in it

Old accounts hold their money in `users.credits`, which no deduction looks at. Two pieces of code move it into the two balance
columns, when both are zero:

* `migrateLegacyCreditBalance` of `db/users.py`, whenever `getUserUncached` has read a row. Its update is guarded by the legacy
  value it has read, and clears the column;
* `handleExistingUser` of `routes/auth.py`, at sign-in, with a record that may come from a cache. Its update is not guarded, and
  leaves the column alone.
-/

namespace Gatewayz

open Exec

/-- The tables, and the legacy column of `users`. -/
structure LegacyWorld where
  db : World
  credits : Int → Option ℚ := fun _ => none

/-- A row of `users` with its id and the legacy column, as `select("*")` gives it. -/
structure UserRecord where
  id : Int
  row : User
  credits : Option ℚ := none
  deriving DecidableEq

namespace UserRecord

/-- `float(user.get("credits") or 0)` -/
def legacy (r : UserRecord) : ℚ := r.credits.getD 0

/-- Both pieces of code convert a positive legacy balance if both columns are zero. -/
def Due (r : UserRecord) : Prop := 0 < r.legacy ∧ r.row.allowance = 0 ∧ r.row.purchased = 0

instance (r : UserRecord) : Decidable r.Due := inferInstanceAs (Decidable (_ ∧ _))

/-- An active subscriber of a paid tier gets an allowance, everybody else purchased credits. -/
def target (r : UserRecord) : CreditTarget :=
  if (r.row.tier = some "pro" ∨ r.row.tier = some "max") ∧ r.row.subscriptionStatus = some "active" then .allowance
  else .purchased

end UserRecord

def CreditTarget.patch (amount : ℚ) : CreditTarget → UserPatch
  | .purchased => { purchasedCredits := some amount }
  | .allowance => { subscriptionAllowance := some amount }

def UserRecord.converted (r : UserRecord) : UserRecord :=
  { r with row := (r.target.patch r.legacy).apply r.row, credits := some 0 }

def LegacyWorld.record? (w : LegacyWorld) (u : Int) : Option UserRecord :=
  (w.db.users u).map fun row => ⟨u, row, w.credits u⟩

/-! ## Statements -/

inductive AccountStmt where
  | db (s : Stmt)
  | selectRecord (u : Int)
  /-- `users` by the legacy `api_key` column, all columns. -/
  | selectRecordByApiKey (apiKey : String)
  /-- The update of `_migrate_legacy_credit_balance`: guarded by the legacy value. -/
  | migrateCredits (u : Int) (target : CreditTarget) (legacy : ℚ)
  /-- The update of `_handle_existing_user`: both columns, for whoever has the id. -/
  | convertAtLogin (u : Int) (allowance purchased : ℚ)

@[reducible] def AccountRes : AccountStmt → Type
  | .db s => Res s
  | .selectRecord _ => Option UserRecord
  | .selectRecordByApiKey _ => Option UserRecord
  | .migrateCredits _ _ _ => Bool
  | .convertAtLogin _ _ _ => Unit

namespace LegacyWorld

/-- `update … where id = u and credits = legacy`: did a row match? -/
def migrate (w : LegacyWorld) (u : Int) (target : CreditTarget) (legacy : ℚ) : Bool × LegacyWorld :=
  if (w.db.users u).isSome ∧ w.credits u = some legacy then
    (true,
      { w with db := (updateUserRow u (target.patch legacy) w.db).2, credits := Function.update w.credits u (some 0) })
  else (false, w)

/-- What the database does with a statement. -/
def exec : (s : AccountStmt) → LegacyWorld → Except PyErr (AccountRes s) × LegacyWorld
  | .db s, w => ((Gatewayz.exec s w.db).1, { w with db := (Gatewayz.exec s w.db).2 })
  | .selectRecord u, w => (.ok (w.record? u), w)
  | .selectRecordByApiKey k, w => (.ok ((w.db.userByApiKey k).bind w.record?), w)
  | .migrateCredits u target legacy, w => (.ok (w.migrate u target legacy).1, (w.migrate u target legacy).2)
  | .convertAtLogin u a p, w =>
    (.ok (), { w with
      db := (updateUserRow u { subscriptionAllowance := some a, purchasedCredits := some p } w.db).2 })

end LegacyWorld

abbrev AccountProg := Prog PyErr AccountStmt AccountRes

def ask (s : AccountStmt) : AccountProg (AccountRes s) := Prog.stmt s

/-! ## The two conversions -/

/-- `_migrate_legacy_credit_balance`. A failure leaves the record as it was. -/
def migrateLegacyCreditBalance (user : UserRecord) : AccountProg UserRecord :=
  if user.Due then
    tryCatch
      (do
        let matched ← ask (.migrateCredits user.id user.target user.legacy)
        pure (if matched then user.converted else user))
      fun _ => pure user
  else pure user

/-- `_get_user_uncached`: a key of `api_keys_new`, else a legacy key. Any failure counts as no user. -/
def getUserUncached (apiKey : String) : AccountProg (Option UserRecord) :=
  tryCatch
    (do
      let keyResult ← ask (.db (.selectApiKey apiKey))
      let user : Option UserRecord ←
        match keyResult with
        | some userId => ask (.selectRecord userId)
        | none => pure none
      match user with
      | some user => some <$> migrateLegacyCreditBalance user
      | none => do
        let legacyResult ← ask (.selectRecordByApiKey apiKey)
        match legacyResult with
        | some user => some <$> migrateLegacyCreditBalance user
        | none => pure none)
    fun _ => pure none

/-- `_handle_existing_user`, as far as it is about credits: the two balances of the response. -/
def handleExistingUser (existingUser : UserRecord) : AccountProg (ℚ × ℚ) :=
  if existingUser.Due then do
    let allowance := if existingUser.target = .allowance then existingUser.legacy else 0
    let purchased := if existingUser.target = .allowance then 0 else existingUser.legacy
    tryCatch (ask (.convertAtLogin existingUser.id allowance purchased)) fun _ => pure ()
    pure (allowance, purchased)
  else pure (existingUser.row.allowance, existingUser.row.purchased)

end Gatewayz
