import Gatewayz.Billing.Database

/-!
# `Billing.Users` — the balance operations of `db/users.py`

* `addCreditsToUser` and `deductCredits` try the stored procedure first and fall back to a **legacy path** of
  separate statements when the procedure is not there or its answer does not come back;
* `resetSubscriptionAllowance` and `forfeitSubscriptionAllowance` read the row, write `subscription_allowance`
  and log.
-/

namespace Gatewayz

open Exec

/-! ## The ledger, and the retry around it

`db/credit_transactions.py`. `executeWithRetry` repeats an operation after a connection error. It cannot know whether the database carried
the operation out before the connection broke; an insert may therefore be made twice, or be answered by its own earlier row.
`logCreditTransaction` gives up with `None` after it, so its callers go on with or without a row.
 -/

/-! ## `config/supabase_config.py` -/

def connectionIndicators : List String :=
  ["connectionterminated", "connection terminated", "connection reset", "connection refused", "broken pipe",
    "remotedisconnected", "remote disconnected", "connection closed", "http2 connection", "stream reset",
    "goaway", "bad file descriptor"]

def isConnectionError (e : PyErr) : Bool :=
  e.kind = .connectionError || connectionIndicators.any (fun indicator => textContains indicator (lower e.text))

/-- Up to `maxRetries` further attempts after a connection error; any other exception is raised at once. -/
def executeWithRetry {α : Type} (operation : DbProg α) : Nat → DbProg α
  | 0 => operation
  | retries + 1 =>
    tryCatch operation fun e =>
      if isConnectionError e then executeWithRetry operation retries else throw e

/-! ## `db/credit_transactions.py` -/

def getTransactionByRequestId (requestId : String) : DbProg (Option Transaction) :=
  if requestId = "" then pure none
  else tryCatch (query (.selectTransactionByRequestId requestId)) fun _ => pure none

/-- Log a credit transaction to the audit trail: the row created, or nothing if that failed. -/
def logCreditTransaction (transaction : Transaction) : DbProg (Option Transaction) :=
  let transactionData := { transaction with requestId := transaction.requestId.filter (· ≠ "") }
  tryCatch
    (do
      let row ← executeWithRetry (query (.insertTransaction transactionData)) 2
      pure (some row))
    fun _ => pure none

/-- What an admin granted in the last 24 hours; nothing stands for infinity, the answer after a failed query. -/
def getAdminDailyGrantTotal (now : Time) (adminUserId : String) : DbProg (Option ℚ) :=
  tryCatch
    (do
      let amounts ← query (.selectAdminGrantsSince ("admin:" ++ adminUserId) (now - 86400))
      pure (some amounts.sum))
    fun _ => pure none

/-- Set `purchased_credits` to the value read plus the amount, and log: how `add_credits` and the admin
    endpoints end. Nothing if no row was updated; else the balances and the id of the ledger row. -/
def writePurchasedCredits (userId : Int) (user : User) (amount : ℚ) (row : ℚ → ℚ → Transaction) :
    DbProg (Option (ℚ × ℚ × Option Int)) := do
  let balanceBefore := user.purchased + user.allowance
  let newPurchased := user.purchased + amount
  let balanceAfter := newPurchased + user.allowance
  let updateResult ← query (.updateUser userId { purchasedCredits := some newPurchased })
  match updateResult with
  | none => pure none
  | some _ => do
    let transaction ← logCreditTransaction (row balanceBefore balanceAfter)
    pure (some (balanceBefore, balanceAfter, transaction.map Transaction.id))

/-- `add_credits` (bonus, referral and coupon credits): read the row, write `purchased_credits`, log. -/
def addCredits (now : Time) (apiKey : String) (amount : ℚ) (metadata : Option Dict)
    (transactionType : TransactionType) (userId : Option Int) : DbProg Bool :=
  tryCatch
    (if amount ≤ 0 then pure false
    else do
      let userResult ←
        match userId.filter (· ≠ 0) with
        | some u => do
          let row ← query (.selectUser u)
          pure (row.map fun r => (u, r))
        | none => query (.selectUserByApiKey apiKey)
      match userResult with
      | none => pure false
      | some (resolvedUserId, user) => do
        let done ← writePurchasedCredits resolvedUserId user amount fun balanceBefore balanceAfter =>
          { id := 0, userId := resolvedUserId, amount := amount, transactionType := transactionType,
            balanceBefore := balanceBefore, balanceAfter := balanceAfter,
            metadata := metadata.getD [], createdAt := now }
        pure done.isSome)
    fun _ => pure false

/-! ## Granting -/

/-- `_atomic_add_credits_rpc`: the procedure's answer, or nothing if the caller is to use the legacy path. -/
def atomicAddCreditsRpc (params : AddCreditsParams) : DbProg (Option RpcResult) := do
  let answer ← (query (.rpcAtomicAddCredits params)).attempt
  match answer with
  | .error _ => pure none
  | .ok data =>
    if data.success then pure (some data)
    else if data.error = some "user_not_found" then
      throw (.valueError ("User with ID " ++ toString params.userId ++ " not found"))
    else pure none

/-- `safe_get_value(…, default=0.0, expected_type=float)`: a `NULL` column stays `None`, and the sum that
    follows is a `TypeError`. -/
def sumOfBalances (row : User) : Except PyErr ℚ :=
  match row.subscriptionAllowance, row.purchasedCredits with
  | some a, some p => .ok (a + p)
  | none, some _ => .error (.typeError "unsupported operand type(s) for +: 'NoneType' and 'float'")
  | some _, none => .error (.typeError "unsupported operand type(s) for +: 'float' and 'NoneType'")
  | none, none => .error (.typeError "unsupported operand type(s) for +: 'NoneType' and 'NoneType'")

/-- The legacy path of `add_credits_to_user`: read, write `purchased_credits`, log. -/
def legacyAddCredits (params : AddCreditsParams) : DbProg Unit := do
  let userResult ← query (.selectUser params.userId)
  match userResult with
  | none =>
    throw (.valueError ("Failed to get user balance: User with ID " ++ toString params.userId ++ " not found"))
  | some row =>
    match sumOfBalances row with
    | .error e => throw (.valueError ("Failed to get user balance: " ++ e.text))
    | .ok balanceBefore => do
      let purchasedAfter := row.purchased + params.credits
      let balanceAfter := row.allowance + purchasedAfter
      let updated ← query (.updateUser params.userId { purchasedCredits := some purchasedAfter })
      match updated with
      | none => throw (.valueError ("User with ID " ++ toString params.userId ++ " not found"))
      | some _ => do
        let _ ← logCreditTransaction
          { id := 0, userId := params.userId, amount := params.credits,
            transactionType := params.transactionType, balanceBefore := balanceBefore,
            balanceAfter := balanceAfter, paymentId := params.paymentId,
            metadata := params.metadata.update
              [("allowance_before", .float row.allowance), ("allowance_after", .float row.allowance),
                ("purchased_before", .float row.purchased), ("purchased_after", .float purchasedAfter)],
            createdBy := params.createdBy, requestId := params.requestId, createdAt := params.now }
        pure ()

/-- The parameters as sent to the procedure: the target is always `purchased`, empty texts are left out. -/
def AddCreditsParams.forRpc (params : AddCreditsParams) : AddCreditsParams :=
  { params with
    target := .purchased
    requestId := params.requestId.filter (· ≠ "")
    createdBy := params.createdBy.filter (· ≠ "") }

/-- `add_credits_to_user`. The amount and the row go to `purchased_credits` whatever the transaction type. -/
def addCreditsToUser (params : AddCreditsParams) : DbProg Unit :=
  if params.credits ≤ 0 then throw (.valueError "Credits must be positive")
  else
    tryCatch
      (do
        let atomicResult ← atomicAddCreditsRpc params.forRpc
        match atomicResult with
        | some _ => pure ()
        | none => legacyAddCredits params)
      fun e => throw (.runtimeError ("Failed to add credits: " ++ e.text))

/-! ## The checks before a deduction -/

def adminPlanType : String := "admin"

/-- `is_admin_tier_user`; a failed query counts as no. -/
def isAdminTierUser (userId : Int) : DbProg Bool :=
  tryCatch
    (do
      let planTypes ← query (.selectActivePlanTypes userId)
      pure (planTypes.any (· = adminPlanType)))
    fun _ => pure false

def dailyUsageLimit : ℚ := 1

def startOfDay (now : Time) : Time := now - now % 86400

/-- `get_daily_reset_time`: the next midnight. -/
def getDailyResetTime (now : Time) : Time := startOfDay now + 86400

/-- `get_daily_usage`; a failed query counts as nothing spent. -/
def getDailyUsage (now : Time) (userId : Int) : DbProg ℚ :=
  tryCatch
    (do
      let amounts ← query (.selectUsageSince userId (startOfDay now))
      pure ((amounts.map abs).sum))
    fun _ => pure 0

/-- The answer of `check_daily_usage_limit`, less its warning level. -/
structure UsageCheck where
  allowed : Bool
  remaining : ℚ
  used : ℚ
  limit : ℚ
  resetTime : Time

def checkDailyUsageLimit (now : Time) (userId : Int) (requestedAmount : ℚ) : DbProg UsageCheck := do
  let currentUsage ← getDailyUsage now userId
  pure
    { allowed := ¬ dailyUsageLimit < currentUsage + requestedAmount
      remaining := max 0 (dailyUsageLimit - currentUsage)
      used := currentUsage
      limit := dailyUsageLimit
      resetTime := getDailyResetTime now }

def enforceDailyUsageLimit (now : Time) (userId : Int) (requestedAmount : ℚ) : DbProg Unit := do
  let result ← checkDailyUsageLimit now userId requestedAmount
  if result.allowed then pure ()
  else
    throw
      ⟨.dailyUsageLimitExceeded,
        "Daily usage limit exceeded. Used: $" ++ formatFixed 4 result.used ++ ", Limit: $" ++
          formatFixed 2 result.limit ++ ". Resets at: " ++ isoformat result.resetTime⟩

/-- Find the user of an API key: first in `api_keys_new`, then by the legacy column. -/
def lookupUserByApiKey (apiKey : String) : DbProg (Option (Int × User)) := do
  let keyResult ← query (.selectApiKey apiKey)
  match keyResult with
  | some userId => do
    let row ← query (.selectUser userId)
    pure (row.map fun r => (userId, r))
  | none => query (.selectUserByApiKey apiKey)

/-! ## Deducting -/

/-- What `deduct_credits` carries from the first read to the write. -/
structure Deduction where
  now : Time
  userId : Int
  tokens : ℚ
  allowanceBefore : ℚ
  purchasedBefore : ℚ
  metadata : Dict

namespace Deduction

variable (d : Deduction)

def balanceBefore : ℚ := d.allowanceBefore + d.purchasedBefore
/-- Allowance first … -/
def fromAllowance : ℚ := min d.allowanceBefore d.tokens
/-- … then purchased credits. -/
def fromPurchased : ℚ := d.tokens - d.fromAllowance
def allowanceAfter : ℚ := d.allowanceBefore - d.fromAllowance
def purchasedAfter : ℚ := d.purchasedBefore - d.fromPurchased
def balanceAfter : ℚ := d.allowanceAfter + d.purchasedAfter

/-- `(metadata or {}).get("request_id")`, as the RPC parameter. -/
def rpcRequestId : Option String :=
  if (d.metadata.get "request_id").truthy then some (d.metadata.get "request_id").text else none

def rpcParams : DeductCreditsParams where
  userId := d.userId
  tokensAmount := d.tokens
  fromAllowance := d.fromAllowance
  fromPurchased := d.fromPurchased
  transactionType := .apiUsage
  metadata := d.metadata
  requestId := d.rpcRequestId
  now := d.now

/-- The ledger row of the legacy path. It has no request id. -/
def legacyRow : Transaction where
  id := 0
  userId := d.userId
  amount := -d.tokens
  transactionType := .apiUsage
  balanceBefore := d.balanceBefore
  balanceAfter := d.balanceAfter
  metadata := d.metadata.update
    [("from_allowance", .float d.fromAllowance), ("from_purchased", .float d.fromPurchased),
      ("allowance_before", .float d.allowanceBefore), ("allowance_after", .float d.allowanceAfter),
      ("purchased_before", .float d.purchasedBefore), ("purchased_after", .float d.purchasedAfter)]
  createdAt := d.now

/-- The columns the legacy path writes … -/
def chargePatch : UserPatch :=
  { subscriptionAllowance := some d.allowanceAfter, purchasedCredits := some d.purchasedAfter }
/-- … and the ones it writes back. -/
def rollbackPatch : UserPatch :=
  { subscriptionAllowance := some d.allowanceBefore, purchasedCredits := some d.purchasedBefore }

/-- The text of a refusal for lack of credits. -/
def insufficientText (reason : String) (rpcBalance : Option ℚ) : String :=
  "Insufficient credits" ++ reason ++ ". Current balance: ~$" ++
    formatFixed 2 (round2 (rpcBalance.getD d.balanceBefore)) ++ ", Required: ~$" ++
    formatFixed 2 (round2 d.tokens) ++ ". Please add credits to continue."

/-- The procedure's answer: done, or use the legacy path, or a business error. -/
def readRpcResult (result : RpcResult) : Except PyErr Bool :=
  if result.success then .ok true
  else if result.error = some "insufficient_credits" then
    .error (.valueError (d.insufficientText "" result.newBalance))
  else if result.error = some "user_not_found" then .error (.valueError "User with API key not found")
  else if result.error = some "insufficient_allowance" then
    .error (.valueError (d.insufficientText " (insufficient allowance)" result.newBalance))
  else if result.error = some "insufficient_purchased_credits" then
    .error (.valueError (d.insufficientText " (insufficient purchased credits)" result.newBalance))
  else .ok false

/-- The atomic path: did it do the deduction? -/
def atomicPath : DbProg Bool :=
  tryCatch
    (do
      let result ← query (.rpcAtomicDeductCredits d.rpcParams)
      match d.readRpcResult result with
      | .ok used => pure used
      | .error e => throw e)
    fun e => if e.kind = .valueError then throw e else pure false

/-- Write the balance back after the ledger insert failed. The write is not guarded. -/
def rollback : DbProg Unit := do
  let written ← (query (.updateUser d.userId d.rollbackPatch)).attempt
  match written with
  | .error _ =>
    throw (.runtimeError
      "Credit deduction failed AND rollback failed — manual reconciliation required. Do NOT retry.")
  | .ok _ =>
    throw (.runtimeError "Credit deduction rolled back — transaction logging failed. Please retry.")

/-- The legacy path: a guarded write of both columns, then the ledger row, then the rollback if that failed. -/
def legacyPath : DbProg Unit :=
  if d.balanceBefore < d.tokens then
    throw (.valueError "Insufficient credits. Please add credits to continue.")
  else do
    let result ← query (.updateUserIf d.userId d.allowanceBefore d.purchasedBefore d.chargePatch)
    match result with
    | none => do
      let _ ← query (.selectUser d.userId)
      throw (.valueError "Failed to update balance due to concurrent modification. Please retry.")
    | some _ => do
      let transactionResult ← logCreditTransaction d.legacyRow
      match transactionResult with
      | some _ => pure ()
      | none => d.rollback

/-- Move the money: by the procedure, else by the legacy path. -/
def pay : DbProg Unit := do
  let usedAtomicPath ← d.atomicPath
  if usedAtomicPath then pure () else d.legacyPath

/-- Everything after the user was found. -/
def settle : DbProg Unit := do
  let admin ← isAdminTierUser d.userId
  if admin then pure ()
  else do
    tryCatch (enforceDailyUsageLimit d.now d.userId d.tokens) fun e =>
      if e.kind = .dailyUsageLimitExceeded then throw (.valueError e.text) else throw e
    d.pay

end Deduction

/-- The idempotency check before a deduction: has the ledger a row with this `request_id`? -/
def alreadyCharged (requestId : Option String) : DbProg Bool :=
  match requestId.filter (· ≠ "") with
  | none => pure false
  | some r => do
    let existing ← getTransactionByRequestId r
    pure existing.isSome

/-- Every exception leaves `deduct_credits` as a `RuntimeError`. -/
def wrapDeductError (e : PyErr) : PyErr :=
  if e.kind = .runtimeError then e else .runtimeError ("Failed to deduct credits: " ++ e.text)

def deductCredits (now : Time) (apiKey : String) (tokens : ℚ) (metadata : Option Dict)
    (requestId : Option String) : DbProg Unit :=
  if tokens < 0 then throw (.valueError "Credits cannot be negative")
  else if tokens < 1 / 1000000 then pure ()
  else
    tryCatch
      (do
        let existing ← alreadyCharged requestId
        if existing then pure ()
        else do
          let userLookup ← lookupUserByApiKey apiKey
          match userLookup with
          | none => throw (.valueError "User with API key not found")
          | some (userId, row) =>
            Deduction.settle
              { now := now, userId := userId, tokens := tokens, allowanceBefore := row.allowance,
                purchasedBefore := row.purchased, metadata := metadata.getD [] })
      fun e => throw (wrapDeductError e)

/-! ## The retry loops of `services/billing/credit_handler.py` -/

def creditDeductionMaxRetries : Nat := 3

/-- One charge as `handle_credits_and_usage` sends it: the request id goes into the parameter and into the
    metadata. -/
structure Charge where
  now : Time
  apiKey : String
  cost : ℚ
  metadata : Dict
  requestId : String

/-- The deduction of the given attempt. -/
def Charge.deduct (c : Charge) (attempt : Nat) : DbProg Unit :=
  deductCredits c.now c.apiKey c.cost
    (some (c.metadata.update [("attempt_number", .int attempt), ("request_id", .str c.requestId)]))
    (some c.requestId)

/-- Attempts `attempt`, …; `left` more may follow. A `ValueError` is final, anything else is tried again. -/
def Charge.attempts (c : Charge) (attempt : Nat) : Nat → DbProg Unit
  | 0 =>
    tryCatch (c.deduct attempt) fun e =>
      if e.kind = .valueError then throw e
      else
        throw (.runtimeError ("Credit deduction failed after " ++ toString creditDeductionMaxRetries ++
          " attempts: " ++ e.text))
  | left + 1 =>
    tryCatch (c.deduct attempt) fun e =>
      if e.kind = .valueError then throw e else Charge.attempts c (attempt + 1) left

/-- The paid branch of `handle_credits_and_usage`: up to three attempts. -/
def chargeWithRetries (c : Charge) : DbProg Unit := c.attempts 1 (creditDeductionMaxRetries - 1)

/-- `handle_credits_and_usage_with_fallback`: up to two rounds; was the deduction made? -/
def chargeInBackground (c : Charge) : DbProg Bool :=
  tryCatch
    (do
      chargeWithRetries c
      pure true)
    fun _ => tryCatch
      (do
        chargeWithRetries c
        pure true)
      fun _ => pure false

/-! ## Subscription allowance -/

/-- `reset_subscription_allowance`: did it succeed? The old allowance is forfeited. -/
def resetSubscriptionAllowance (now : Time) (userId : Int) (allowanceAmount : ℚ) (tier : String) :
    DbProg Bool :=
  tryCatch
    (do
      let userResult ← query (.selectUser userId)
      match userResult with
      | none => pure false
      | some row => do
        let oldAllowance := row.allowance
        let purchased := row.purchased
        let result ← query (.updateUser userId { subscriptionAllowance := some allowanceAmount })
        match result with
        | none => pure false
        | some _ => do
          let _ ← logCreditTransaction
            { id := 0, userId := userId, amount := allowanceAmount, transactionType := .subscriptionRenewal,
              balanceBefore := oldAllowance + purchased, balanceAfter := allowanceAmount + purchased,
              metadata :=
                [("tier", .str tier), ("forfeited_allowance", .float oldAllowance),
                  ("new_allowance", .float allowanceAmount),
                  ("purchased_credits_unchanged", .float purchased)],
              createdAt := now }
          pure true)
    fun _ => pure false

/-- The answer of `forfeit_subscription_allowance`. -/
structure Forfeiture where
  forfeitedAllowance : ℚ
  retainedPurchasedCredits : ℚ

def Forfeiture.empty : Forfeiture := ⟨0, 0⟩

/-- `forfeit_subscription_allowance`: the allowance goes to zero, purchased credits stay. -/
def forfeitSubscriptionAllowance (now : Time) (userId : Int) (raiseOnError : Bool)
    (effectiveDate cancellationContext : Option String) : DbProg Forfeiture :=
  tryCatch
    (do
      let userResult ← query (.selectUser userId)
      match userResult with
      | none =>
        if raiseOnError then
          throw (.runtimeError ("User " ++ toString userId ++ " not found for allowance forfeiture"))
        else pure .empty
      | some row =>
        let forfeitedAmount := row.allowance
        let purchased := row.purchased
        if 0 < forfeitedAmount then do
          let updateResult ← query (.updateUser userId { subscriptionAllowance := some 0 })
          match updateResult with
          | none =>
            if raiseOnError then
              throw (.runtimeError
                ("Failed to update subscription_allowance to 0 for user " ++ toString userId))
            else pure .empty
          | some _ => do
            let _ ← logCreditTransaction
              { id := 0, userId := userId, amount := -forfeitedAmount,
                transactionType := .subscriptionCancellation,
                balanceBefore := forfeitedAmount + purchased, balanceAfter := purchased,
                metadata :=
                  [("forfeited_allowance", .float forfeitedAmount),
                    ("retained_purchased_credits", .float purchased),
                    ("effective_date", .str ((effectiveDate.filter (· ≠ "")).getD (isoformat now))),
                    ("cancellation_context", .str ((cancellationContext.filter (· ≠ "")).getD "unspecified"))],
                createdAt := now }
            pure ⟨forfeitedAmount, purchased⟩
        else pure ⟨forfeitedAmount, purchased⟩)
    fun e =>
      if raiseOnError then
        throw (.runtimeError
          ("Failed to forfeit subscription allowance for user " ++ toString userId ++ ": " ++ e.text))
      else pure .empty

end Gatewayz
