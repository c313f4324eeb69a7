import Gatewayz.Keys.Table

/-!
# `Keys.Database` — the statements of the key functions

The store is the key table with the three tables beside it: the legacy key column of `users`, the copies of the request limits in
`rate_limit_configs`, and the audit log. As everywhere, a read gives the row or the rows it finds.
-/

namespace Gatewayz.Keys

open Exec

/-- A row of `users`, as far as keys go. -/
structure KeyUser where
  id : Int
  apiKey : Option String := none

/-- A row of `rate_limit_configs`. -/
structure RateLimitConfig where
  apiKeyId : Int
  maxRequests : Int

/-- A row of `api_key_audit_logs`, without its details. -/
structure AuditLog where
  userId : Int
  action : String
  apiKeyId : Int

structure KeyWorld where
  keys : KeyTable
  users : List KeyUser := []
  rateLimitConfigs : List RateLimitConfig := []
  auditLogs : List AuditLog := []

inductive KeyStmt where
  | selectByKeyHash (keyHash : String)
  | selectByApiKey (apiKey : String)
  /-- `api_key = … and user_id = …` -/
  | selectOwned (apiKey : String) (userId : Int)
  /-- `id = … and user_id = …` -/
  | selectById (id userId : Int)
  /-- The ids of a user's keys of one name, perhaps without one id. -/
  | selectNamed (userId : Int) (keyName : String) (excluded : Option Int)
  /-- The active keys of a user, perhaps of one environment only. -/
  | selectActive (userId : Int) (environmentTag : Option String)
  | updateKey (id : Int) (patch : KeyPatch)
  | updateByApiKey (apiKey : String) (patch : KeyPatch)
  | selectUser (id : Int)
  /-- `users` by the legacy column. -/
  | selectUserByApiKey (apiKey : String)
  | updateRateLimit (apiKeyId maxRequests : Int)
  | insertAuditLog (entry : AuditLog)

@[reducible] def KeyRes : KeyStmt → Type
  | .selectByKeyHash _ | .selectByApiKey _ | .selectOwned _ _ | .selectById _ _ => Option KeyRow
  | .selectNamed _ _ _ => List Int
  | .selectActive _ _ => List KeyRow
  | .updateKey _ _ | .updateByApiKey _ _ => Bool
  | .selectUser _ | .selectUserByApiKey _ => Option KeyUser
  | .updateRateLimit _ _ | .insertAuditLog _ => Unit

namespace KeyWorld

/-- `update … where id = …`, or the refusal of a duplicate. -/
def updateKey (w : KeyWorld) (id : Int) (patch : KeyPatch) : Except PyErr Bool × KeyWorld :=
  match w.keys.update id patch with
  | .ok (matched, keys) => (.ok matched, { w with keys := keys })
  | .error e => (.error e, w)

/-- `update … where api_key = …`: there is one such row at most. -/
def updateByApiKey (w : KeyWorld) (apiKey : String) (patch : KeyPatch) : Except PyErr Bool × KeyWorld :=
  match w.keys.byApiKey apiKey with
  | some row => w.updateKey row.id patch
  | none => (.ok false, w)

/-- What the database does with a statement. -/
def exec : (s : KeyStmt) → KeyWorld → Except PyErr (KeyRes s) × KeyWorld
  | .selectByKeyHash h, w => (.ok (w.keys.byKeyHash h), w)
  | .selectByApiKey k, w => (.ok (w.keys.byApiKey k), w)
  | .selectOwned k u, w => (.ok (w.keys.rows.find? fun row => row.apiKey = k ∧ row.userId = u), w)
  | .selectById id u, w => (.ok (w.keys.rows.find? fun row => row.id = id ∧ row.userId = u), w)
  | .selectNamed u name excluded, w =>
    (.ok ((w.keys.rows.filter fun row => row.userId = u ∧ row.keyName = name ∧ some row.id ≠ excluded).map KeyRow.id), w)
  | .selectActive u tag, w =>
    (.ok (w.keys.rows.filter fun row =>
      row.userId = u ∧ row.isActive = some true ∧ (tag = none ∨ row.environmentTag = tag)), w)
  | .updateKey id patch, w => w.updateKey id patch
  | .updateByApiKey k patch, w => w.updateByApiKey k patch
  | .selectUser id, w => (.ok (w.users.find? fun user => user.id = id), w)
  | .selectUserByApiKey k, w => (.ok (w.users.find? fun user => user.apiKey = some k), w)
  | .updateRateLimit id m, w =>
    (.ok (), { w with
      rateLimitConfigs := w.rateLimitConfigs.map fun c => if c.apiKeyId = id then { c with maxRequests := m } else c })
  | .insertAuditLog entry, w => (.ok (), { w with auditLogs := w.auditLogs ++ [entry] })

end KeyWorld

abbrev KeyProg := Prog PyErr KeyStmt KeyRes

def ask (s : KeyStmt) : KeyProg (KeyRes s) := Prog.stmt s

def bestEffort (p : KeyProg Unit) : KeyProg Unit := tryCatch p fun _ => pure ()

/-- The statements that leave the key table alone. -/
def KeyStmt.Reads : KeyStmt → Prop
  | .updateKey _ _ => False
  | .updateByApiKey _ _ => False
  | _ => True

theorem exec_reads {s : KeyStmt} (hs : s.Reads) (w : KeyWorld) : (KeyWorld.exec s w).2.keys = w.keys := by
  cases s with
  | updateKey id patch => exact hs.elim
  | updateByApiKey apiKey patch => exact hs.elim
  | selectByKeyHash _ => rfl
  | selectByApiKey _ => rfl
  | selectOwned _ _ => rfl
  | selectById _ _ => rfl
  | selectNamed _ _ _ => rfl
  | selectActive _ _ => rfl
  | selectUser _ => rfl
  | selectUserByApiKey _ => rfl
  | updateRateLimit _ _ => rfl
  | insertAuditLog _ => rfl

end Gatewayz.Keys
