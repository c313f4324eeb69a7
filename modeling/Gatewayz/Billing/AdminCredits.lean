import Gatewayz.Billing.Users
import Gatewayz.Exec.Calls

/-!
# `Billing.AdminCredits` — the admin endpoints of `routes/credits.py`

`/credits/add`, `/credits/adjust`, `/credits/bulk-add` and `/credits/refund` all change `purchased_credits` in
the same way: read the row, add to the value read, write the sum, log. The write carries no guard.
`changePurchasedCredits` is that sequence; the endpoints differ in their checks before it, in the row they log
and in the errors they answer.
-/

namespace Gatewayz

open Exec

/-! ## Requests and answers -/

structure AdminUser where
  id : Int
  username : Option String := none

/-- `Config.ADMIN_MAX_CREDIT_GRANT` and `Config.ADMIN_DAILY_GRANT_LIMIT`, with their defaults. -/
structure GrantConfig where
  maxCreditGrant : ℚ := 1000
  dailyGrantLimit : ℚ := 5000

structure CreditAddRequest where
  userId : Int
  amount : ℚ
  reason : String
  metadata : Option Dict := none
  amount_pos : 0 < amount
  reason_length : 10 ≤ reason.length

structure CreditAdjustRequest where
  userId : Int
  amount : ℚ
  reason : String
  metadata : Option Dict := none
  reason_length : 10 ≤ reason.length

structure BulkCreditAddRequest where
  userIds : List Int
  amount : ℚ
  reason : String
  metadata : Option Dict := none
  amount_pos : 0 < amount
  reason_length : 10 ≤ reason.length
  users_nonempty : 1 ≤ userIds.length
  users_bounded : userIds.length ≤ 100

structure CreditRefundRequest where
  userId : Int
  amount : ℚ
  originalTransactionId : Option Int := none
  reason : String := "Refund"
  metadata : Option Dict := none
  amount_pos : 0 < amount

structure CreditResponse where
  message : String
  userId : Int
  previousBalance : ℚ
  newBalance : ℚ
  amountChanged : ℚ
  transactionId : Option Int

inductive BulkResult where
  | success (userId : Int) (username : Option String) (previousBalance newBalance : ℚ)
      (transactionId : Option Int)
  | failed (userId : Int) (error : String)

structure BulkCreditResponse where
  status : String
  message : String
  totalUsers : Nat
  successful : Nat
  failed : Nat
  amountPerUser : ℚ
  totalCreditsAdded : ℚ
  results : List BulkResult

/-! ## The grant limits -/

/-- `f"{x:.2f}"`, where nothing stands for infinity. -/
def formatTotal : Option ℚ → String
  | some q => formatFixed 2 q
  | none => "inf"

/-- `_validate_admin_credit_grant`, for `count` users at once. -/
def validateAdminCreditGrant (config : GrantConfig) (now : Time) (amount : ℚ) (adminUser : AdminUser)
    (count : Nat) : DbProg Unit :=
  if config.maxCreditGrant < amount then
    throw (.httpException 400
      ("Credit grant amount $" ++ formatFixed 2 amount ++ " exceeds the maximum single grant limit of $" ++
        formatFixed 2 config.maxCreditGrant ++
        ". Contact a super-admin to increase the ADMIN_MAX_CREDIT_GRANT limit."))
  else do
    let totalGrantAmount := amount * count
    let dailyTotal ← getAdminDailyGrantTotal now (toString adminUser.id)
    if dailyTotal.all (fun total => config.dailyGrantLimit < total + totalGrantAmount) then
      throw (.httpException 400
        ("This grant of $" ++ formatFixed 2 totalGrantAmount ++ " would exceed your 24-hour admin grant limit of $" ++
          formatFixed 2 config.dailyGrantLimit ++ ". You have already granted $" ++ formatTotal dailyTotal ++
          " in the last 24 hours ($" ++
          (if dailyTotal.isNone then "-" else "") ++
          formatTotal (dailyTotal.map fun total => config.dailyGrantLimit - total) ++
          " remaining). Contact a super-admin to increase the ADMIN_DAILY_GRANT_LIMIT."))
    else pure ()

/-! ## Read, add, write, log -/

/-- The sequence the single-user endpoints share. `refuse` sees the balance and the new value before the
    write. -/
def changePurchasedCredits (userId : Int) (amount : ℚ) (message : String) (refuse : ℚ → ℚ → Option PyErr)
    (row : ℚ → ℚ → Transaction) : DbProg CreditResponse := do
  let userResult ← query (.selectUser userId)
  match userResult with
  | none => throw (.httpException 404 ("User " ++ toString userId ++ " not found"))
  | some user =>
    match refuse (user.purchased + user.allowance) (user.purchased + amount) with
    | some e => throw e
    | none => do
      let done ← writePurchasedCredits userId user amount row
      match done with
      | none => throw (.httpException 500 "Failed to update user credits")
      | some (balanceBefore, balanceAfter, transactionId) =>
        pure
          { message := message, userId := userId, previousBalance := balanceBefore,
            newBalance := balanceAfter, amountChanged := amount, transactionId := transactionId }

/-- `except HTTPException: raise`, anything else is a 500. -/
def asHttp {α : Type} (detail : String) (p : DbProg α) : DbProg α :=
  tryCatch p fun e => if e.isHttp then throw e else throw (.httpException 500 detail)

/-- The metadata every endpoint logs: the request's own, then these entries. -/
def auditMetadata (metadata : Option Dict) (entries : Dict) (adminUser : AdminUser) : Dict :=
  (metadata.getD []).update
    (entries ++
      [("admin_user_id", .int adminUser.id),
        ("admin_username", (adminUser.username.map PyValue.str).getD .none)])

def createdByAdmin (adminUser : AdminUser) : String := "admin:" ++ toString adminUser.id

/-! ## The endpoints -/

/-- `/credits/add`. -/
def addCreditsEndpoint (config : GrantConfig) (now : Time) (request : CreditAddRequest) (adminUser : AdminUser) :
    DbProg CreditResponse :=
  asHttp "Failed to add credits" do
    validateAdminCreditGrant config now request.amount adminUser 1
    changePurchasedCredits request.userId request.amount
      ("Added " ++ floatRepr request.amount ++ " credits to user " ++ toString request.userId)
      (fun _ _ => none)
      fun balanceBefore balanceAfter =>
        { id := 0, userId := request.userId, amount := request.amount, transactionType := .adminCredit,
          balanceBefore := balanceBefore, balanceAfter := balanceAfter,
          metadata := auditMetadata request.metadata [("reason", .str request.reason)] adminUser,
          createdBy := some (createdByAdmin adminUser), createdAt := now }

/-- `/credits/adjust`: either sign, but not below zero purchased credits. -/
def adjustCreditsEndpoint (config : GrantConfig) (now : Time) (request : CreditAdjustRequest)
    (adminUser : AdminUser) : DbProg CreditResponse :=
  asHttp "Failed to adjust credits" do
    if 0 < request.amount then validateAdminCreditGrant config now request.amount adminUser 1 else pure ()
    changePurchasedCredits request.userId request.amount
      ("Adjusted credits for user " ++ toString request.userId ++ " by " ++ floatRepr request.amount)
      (fun balanceBefore newPurchased =>
        if newPurchased < 0 then
          some (.httpException 400
            ("Adjustment would result in negative purchased_credits. Current: " ++ floatRepr balanceBefore ++
              ", Adjustment: " ++ floatRepr request.amount))
        else none)
      fun balanceBefore balanceAfter =>
        { id := 0, userId := request.userId, amount := request.amount,
          transactionType := if 0 < request.amount then .adminCredit else .adminDebit,
          balanceBefore := balanceBefore, balanceAfter := balanceAfter,
          metadata := auditMetadata request.metadata [("reason", .str request.reason)] adminUser,
          createdBy := some (createdByAdmin adminUser), createdAt := now }

/-- `/credits/refund`: no grant limit. -/
def refundCreditsEndpoint (now : Time) (request : CreditRefundRequest) (adminUser : AdminUser) :
    DbProg CreditResponse :=
  asHttp "Failed to refund credits" do
    changePurchasedCredits request.userId request.amount
      ("Refunded " ++ floatRepr request.amount ++ " credits to user " ++ toString request.userId)
      (fun _ _ => none)
      fun balanceBefore balanceAfter =>
        { id := 0, userId := request.userId, amount := request.amount, transactionType := .refund,
          balanceBefore := balanceBefore, balanceAfter := balanceAfter,
          metadata := auditMetadata request.metadata
            [("reason", .str request.reason),
              ("original_transaction_id", (request.originalTransactionId.map PyValue.int).getD .none)]
            adminUser,
          createdBy := some (createdByAdmin adminUser), createdAt := now }

/-- One user of a bulk request, from the rows read for all of them. -/
def bulkAddOne (now : Time) (request : BulkCreditAddRequest) (adminUser : AdminUser)
    (usersById : List (Int × User)) (userId : Int) : DbProg BulkResult :=
  tryCatch
    (match usersById.lookup userId with
      | none => pure (.failed userId "User not found")
      | some user => do
        let done ← writePurchasedCredits userId user request.amount fun balanceBefore balanceAfter =>
          { id := 0, userId := userId, amount := request.amount, transactionType := .adminCredit,
            balanceBefore := balanceBefore, balanceAfter := balanceAfter,
            metadata := auditMetadata request.metadata
              [("reason", .str request.reason), ("bulk_operation", .bool true)] adminUser,
            createdBy := some (createdByAdmin adminUser), createdAt := now }
        match done with
        | none => pure (.failed userId "Failed to update credits")
        | some (balanceBefore, balanceAfter, transactionId) =>
          pure (.success userId user.username balanceBefore balanceAfter transactionId))
    fun e => pure (.failed userId e.text)

/-- The loop over the users of a bulk request. -/
def bulkAddEach (now : Time) (request : BulkCreditAddRequest) (adminUser : AdminUser)
    (usersById : List (Int × User)) : List Int → DbProg (List BulkResult)
  | [] => pure []
  | userId :: rest => do
    let result ← bulkAddOne now request adminUser usersById userId
    let results ← bulkAddEach now request adminUser usersById rest
    pure (result :: results)

def BulkResult.isSuccess : BulkResult → Bool
  | .success .. => true
  | .failed .. => false

/-- `/credits/bulk-add`: one read for all users, then one write for each. -/
def bulkAddCreditsEndpoint (config : GrantConfig) (now : Time) (request : BulkCreditAddRequest)
    (adminUser : AdminUser) : DbProg BulkCreditResponse :=
  asHttp "Failed to perform bulk credit addition" do
    let uniqueUserIds := request.userIds.reverse.dedup.reverse
    validateAdminCreditGrant config now request.amount adminUser uniqueUserIds.length
    let usersById ← query (.selectUsersIn uniqueUserIds)
    let results ← bulkAddEach now request adminUser usersById uniqueUserIds
    let successful := (results.filter BulkResult.isSuccess).length
    let failed := results.length - successful
    pure
      { status := if failed = 0 then "success" else if 0 < successful then "partial" else "failed"
        message := "Bulk credit addition completed: " ++ toString successful ++ " successful, " ++
          toString failed ++ " failed"
        totalUsers := uniqueUserIds.length
        successful := successful
        failed := failed
        amountPerUser := request.amount
        totalCreditsAdded := request.amount * successful
        results := results }

/-! ## The calls of one admin

Any number of times and in any order, on one database and one clock. Each endpoint reads the clock right before it asks for the grants of
the last 24 hours, and right before it inserts a ledger row. So these two statements take their time from the clock (`grantExec`), whatever
time the endpoint was begun with.
 -/

structure Increase where
  time : Time
  userId : Int
  amount : ℚ

/-- The database, the time, and what has been granted so far. -/
structure GrantWorld where
  db : World
  clock : Time := 0
  increases : List Increase := []

namespace GrantWorld

def later (w : GrantWorld) (d : Nat) : GrantWorld := { w with clock := w.clock + d }

variable (w : GrantWorld)

@[simp] theorem later_db (d : Nat) : (w.later d).db = w.db := rfl
@[simp] theorem later_clock (d : Nat) : (w.later d).clock = w.clock + d := rfl
@[simp] theorem later_increases (d : Nat) : (w.later d).increases = w.increases := rfl

theorem later_later (d d' : Nat) : (w.later d).later d' = w.later (d + d') := by
  rw [later, later, later, Nat.add_assoc]

def grantedSince (w : GrantWorld) (start : Time) : ℚ :=
  ((w.increases.filter fun g => start ≤ g.time).map Increase.amount).sum

/-- What was granted in the 24 hours that begin with a time. -/
def grantedIn (w : GrantWorld) (start : Time) : ℚ :=
  ((w.increases.filter fun g => start ≤ g.time ∧ g.time ≤ start + 86400).map Increase.amount).sum

/-- Another content of the database, and who has gained by it. -/
def write (w : GrantWorld) (u : Int) (db : World) : GrantWorld :=
  { w with
    db := db
    increases := if w.db.balance u < db.balance u then
        w.increases ++ [⟨w.clock, u, db.balance u - w.db.balance u⟩]
      else w.increases }

end GrantWorld

def World.adminGrants (w : World) (createdBy : String) (start : Time) : List ℚ :=
  (w.creditTransactions.filter (fun t => t.transactionType = .adminCredit ∧ t.createdBy = some createdBy ∧
    start ≤ t.createdAt ∧ 0 < t.amount)).map Transaction.amount

/-- What the database does with a statement, at the time of the statement. -/
def grantExec : (s : Stmt) → GrantWorld → Except PyErr (Res s) × GrantWorld
  | .selectAdminGrantsSince createdBy _, w =>
    (.ok (w.db.adminGrants createdBy (w.clock - 86400)), w)
  | .insertTransaction t, w =>
    ((exec (.insertTransaction { t with createdAt := w.clock }) w.db).1,
      { w with db := (exec (.insertTransaction { t with createdAt := w.clock }) w.db).2 })
  | .updateUser u patch, w => ((exec (.updateUser u patch) w.db).1, w.write u (exec (.updateUser u patch) w.db).2)
  | s, w => ((exec s w.db).1, { w with db := (exec s w.db).2 })

/-! ## The calls -/

inductive GrantCall where
  | add (request : CreditAddRequest)
  | adjust (request : CreditAdjustRequest)
  | bulkAdd (request : BulkCreditAddRequest)
  | refund (request : CreditRefundRequest)

inductive GrantAnswer where
  | single (response : CreditResponse)
  | bulk (response : BulkCreditResponse)

def GrantCall.isRefund : GrantCall → Bool
  | .refund _ => true
  | _ => false

/-- The endpoint that a call goes to. -/
def GrantCall.prog (config : GrantConfig) (adminUser : AdminUser) : GrantCall → DbProg GrantAnswer
  | .add request => do return .single (← addCreditsEndpoint config 0 request adminUser)
  | .adjust request => do return .single (← adjustCreditsEndpoint config 0 request adminUser)
  | .bulkAdd request => do return .bulk (← bulkAddCreditsEndpoint config 0 request adminUser)
  | .refund request => do return .single (← refundCreditsEndpoint 0 request adminUser)

/-- The calls of an admin: between their statements time goes by. -/
def grantMachine {ι : Type} [DecidableEq ι] (config : GrantConfig) (adminUser : AdminUser) (calls : ι → GrantCall)
    (w : GrantWorld) :
    Machine (CallsState ι PyErr Stmt Res GrantAnswer GrantWorld) (CallEvent ι PyErr Nat) Unit :=
  callsMachine grantExec (fun d w => w.later d) (fun i => (calls i).prog config adminUser) w

end Gatewayz
