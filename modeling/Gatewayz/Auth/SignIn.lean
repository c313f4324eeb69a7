import Gatewayz.Auth.Accounts
import Mathlib.Data.List.Sort

/-!
# `Auth.SignIn` — `privy_auth` of `routes/auth.py`

A sign-in looks for the account under the Privy id of the request, in the cache and in the table. Where that gives nothing it
looks for an account under a name made from the e-mail address or the phone number, binds it to the Privy id and answers with its
key. Where that gives nothing either it creates an account; and where creating one fails, it looks again, by name and by address.

Random texts come from outside (`Draws`), and so do the checks of an address against lists and patterns (`EmailChecks`). Left out
are the tasks that run after the answer: mails, and the activity log.
-/

namespace Gatewayz.Auth

open Exec

/-! ## The request -/

inductive AuthMethod where
  | email
  | phone
  | wallet
  | google
  | github
  deriving DecidableEq

def AuthMethod.text : AuthMethod → String
  | .email => "email"
  | .phone => "phone"
  | .wallet => "wallet"
  | .google => "google"
  | .github => "github"

/-- `PrivyLinkedAccount`, its type normalized. -/
structure LinkedAccount where
  type : String
  email : Option String := none
  address : Option String := none
  name : Option String := none
  phoneNumber : Option String := none

/-- `PrivyAuthRequest`. -/
structure AuthRequest where
  /-- `user.id` -/
  privyUserId : String
  linkedAccounts : List LinkedAccount := []
  email : Option String := none
  environmentTag : Option String := some "live"
  autoCreateApiKey : Option Bool := some true

/-- `PrivyAuthResponse`. -/
structure AuthResponse where
  message : String
  userId : Int
  apiKey : String
  authMethod : AuthMethod
  privyUserId : String
  isNewUser : Bool
  displayName : Option String
  email : Option String
  phoneNumber : Option String
  credits : ℚ
  subscriptionStatus : Option String
  tier : Option String
  tierDisplayName : Option String
  trialExpiresAt : Option String
  subscriptionEndDate : Option String
  subscriptionAllowance : ℚ
  purchasedCredits : ℚ
  totalCredits : ℚ
  allowanceResetDate : Option String

structure EmailChecks where
  isValid : String → Bool
  isBlockedDomain : String → Bool
  isTemporaryDomain : String → Bool

structure Draws where
  /-- The suffixes that are tried for a name, and the last resort; the second time for the manual insert. -/
  suffixes : List String
  lastSuffix : String
  suffixes' : List String
  lastSuffix' : String
  temporaryKey : String
  key : String
  now : Nat
  five : suffixes.length = 5 := by decide
  five' : suffixes'.length = 5 := by decide

/-! ## What the request says -/

def filled (s : Option String) : Option String := s.filter (· ≠ "")

def resolveAccountEmail (account : LinkedAccount) : Option String :=
  [account.email, account.address].findSome? fun value => value.filter fun s => s ≠ "" ∧ '@' ∈ s.toList

structure AuthInfo where
  email : Option String
  phoneNumber : Option String := none
  displayName : Option String := none
  authMethod : AuthMethod := .email

/-- One linked account. -/
def AuthInfo.read (info : AuthInfo) (account : LinkedAccount) : AuthInfo :=
  let accountEmail := resolveAccountEmail account
  if account.type = "phone" ∧ (filled account.phoneNumber).isSome then
    { info with
      phoneNumber := account.phoneNumber
      authMethod := if (filled info.email).isNone then .phone else info.authMethod }
  else if account.type = "email" ∧ accountEmail.isSome ∧ (filled info.email).isNone then
    { info with email := accountEmail, authMethod := .email }
  else if account.type = "google_oauth" ∧ accountEmail.isSome ∧ (filled info.email).isNone then
    { info with email := accountEmail, displayName := account.name, authMethod := .google }
  else if account.type = "github" ∧ (filled account.name).isSome ∧ (filled info.displayName).isNone then
    { info with
      displayName := account.name
      authMethod := if (filled info.email).isNone ∧ info.authMethod ≠ .phone then .github else info.authMethod }
  else info

def AuthRequest.info (request : AuthRequest) : AuthInfo :=
  let info := request.linkedAccounts.foldl AuthInfo.read { email := request.email }
  { info with email := filled info.email }

def takeChars (n : Nat) (s : String) : String := String.ofList (s.toList.take n)

/-- The name an account is looked for under: what stands before the `@` of the address, else the end of the phone number or the
    start of the Privy id. -/
def baseUsername (request : AuthRequest) (info : AuthInfo) : String :=
  match info.email, filled info.phoneNumber with
  | some email, _ => String.ofList (email.toList.takeWhile (· ≠ '@'))
  | none, some phone =>
    let digits := phone.toList.filter Char.isDigit
    if 4 ≤ digits.length then "user_" ++ String.ofList (digits.drop (digits.length - 4))
    else "user_" ++ takeChars 8 request.privyUserId
  | none, none => "user_" ++ takeChars 8 request.privyUserId

/-! ## Queries -/

/-- A query whose failure counts as nothing found: `safe_query_with_timeout`, and the lookups that catch everything. -/
def orNone {α : Type} (p : AuthProg (Option α)) : AuthProg (Option α) := tryCatch p fun _ => pure none

def bestEffort {α : Type} (p : AuthProg α) : AuthProg Unit := tryCatch (do let _ ← p; pure ()) fun _ => pure ()

def getUserByPrivyId (privyId : String) : AuthProg (Option Account) := orNone (ask (.selectByPrivyId privyId))
def getUserByUsername (username : String) : AuthProg (Option Account) := orNone (ask (.selectByUsername username))
def getCachedUserByPrivyId (privyId : String) : AuthProg (Option Account) := orNone (ask (.getCachedByPrivyId privyId))
def getCachedUserByUsername (username : String) : AuthProg (Option Account) := orNone (ask (.getCachedByUsername username))

/-- A lookup in the cache and then in the table; what the table gives is remembered. -/
def cacheAside (cached found : AuthProg (Option Account)) (remember : Account → AuthProg Unit) : AuthProg (Option Account) := do
  let hit ← cached
  match hit with
  | some account => pure (some account)
  | none => do
    let row ← orNone found
    match row with
    | some account => do
      bestEffort (remember account)
      pure (some account)
    | none => pure none

def findByPrivyId (privyId : String) : AuthProg (Option Account) :=
  cacheAside (getCachedUserByPrivyId privyId) (getUserByPrivyId privyId) fun account => ask (.cacheByPrivyId privyId account)

/-- The account found under the name is bound to the Privy id, or so the answer will say. -/
def bindPrivyId (privyId username : String) (account : Account) : AuthProg Account := do
  let _ ← orNone (ask (.updateAccount account.id { privyUserId := some privyId }))
  bestEffort (ask (.invalidateCache privyId username))
  pure { account with privyUserId := some privyId }

/-- By the name. -/
def findByUsername (privyId username : String) : AuthProg (Option Account) := do
  let found ← cacheAside (getCachedUserByUsername username) (getUserByUsername username) fun account =>
    ask (.cacheByUsername username account)
  match found with
  | some account => do
    let bound ← bindPrivyId privyId username account
    pure (some bound)
  | none => pure none

/-! ## Keys -/

def isTemporaryApiKey (apiKey : String) : Bool := "gw_live_".toList.isPrefixOf apiKey.toList && apiKey.length < 40

def keyPrefix (environmentTag : String) : String :=
  if environmentTag = "test" then "gw_test_"
  else if environmentTag = "staging" then "gw_staging_"
  else if environmentTag = "development" then "gw_dev_"
  else "gw_live_"

/-- `has_payment_signal`: the payments, or the legacy balance. -/
def hasPaymentSignal (userId : Int) (credits : Option ℚ) : AuthProg Bool := do
  let paid ← tryCatch (ask (.selectPaymentSignal userId)) fun _ => pure false
  pure (paid || decide (0 < credits.getD 0))

/-- `resolve_key_environment`, the gate being closed. -/
def resolveKeyEnvironment (userId : Int) (credits : Option ℚ) (requested : String) : AuthProg String := do
  if requested ∉ ["live", "staging", "production"] then pure requested
  else do
    let allowed ← hasPaymentSignal userId credits
    pure (if allowed then requested else "test")

def isSchemaCacheError (e : PyErr) : Bool :=
  e.kind = .apiError "PGRST204" ∨ e.kind = .apiError "PGRST205" ∨
    ["PGRST204", "PGRST205"].any (textContains · e.text) ∨ textContains "schema cache" (lower e.text)

def isApiError (e : PyErr) : Bool :=
  match e.kind with
  | .apiError _ => true
  | _ => false

def handleSchemaCacheInsertError (key : AccountKey) (original : PyErr) : AuthProg Unit :=
  if isSchemaCacheError original then do
    let refreshed ← tryCatch (do ask .refreshSchemaCache; pure true) fun _ => pure false
    if refreshed then
      tryCatch (ask (.insertKey key)) fun retry =>
        if isApiError retry ∧ isSchemaCacheError retry then ask (.insertKey key) else throw retry
    else ask (.insertKey key)
  else throw original

/-- The insert of a key. It is repeated where the schema lags behind the code; the optional columns that the last attempt leaves
    out are not told here. -/
def insertApiKey (key : AccountKey) : AuthProg Unit :=
  tryCatch (ask (.insertKey key)) fun e =>
    if isApiError e then handleSchemaCacheInsertError key e
    else if ["encrypted_key", "key_version", "key_hash", "last4"].any (textContains · e.text) then ask (.insertKey key)
    else throw e

/-- `create_api_key` for a primary key without a request limit. -/
def createApiKey (draws : Draws) (userId : Int) (keyName environmentTag : String) : AuthProg String :=
  tryCatch
    (do
      let taken ← tryCatch (ask (.keyNameTaken userId keyName)) fun _ => pure true
      if taken then
        throw (.valueError ("Key name '" ++ keyName ++ "' already exists for this user. Please choose a different name."))
      else do
        let apiKey := keyPrefix environmentTag ++ draws.key
        insertApiKey
          { userId := userId, apiKey := apiKey, keyName := keyName, environmentTag := environmentTag, isPrimary := true,
            createdAt := draws.now }
        bestEffort (ask (.insertKeyRecords apiKey))
        pure apiKey)
    fun e => throw (.runtimeError ("Failed to create API key: " ++ e.text))

/-! ## An account that was found -/

def keyBefore (a b : AccountKey) : Bool :=
  if a.isPrimary = b.isPrimary then a.createdAt ≤ b.createdAt else a.isPrimary

/-- The key that is answered: of the active keys, or the legacy one. Temporary keys are not answered. -/
def keyToReturn (existing : Account) : AuthProg (Option String) := do
  let keys ← tryCatch (ask (.selectActiveKeys existing.id)) fun _ => pure []
  let apiKey :=
    match (keys.insertionSort fun a b => keyBefore a b).head? with
    | some key => some key.apiKey
    | none => existing.apiKey
  pure (apiKey.filter fun key => key ≠ "" ∧ ¬ isTemporaryApiKey key)

/-- The balances as answered: a legacy balance is taken over once. -/
def tieredCredits (existing : Account) : ℚ × ℚ × Bool :=
  let allowance := existing.subscriptionAllowance.getD 0
  let purchased := existing.purchasedCredits.getD 0
  let legacy := existing.credits.getD 0
  if allowance = 0 ∧ purchased = 0 ∧ 0 < legacy then
    if (existing.tier = some "pro" ∨ existing.tier = some "max") ∧ existing.subscriptionStatus = some "active" then
      (legacy, purchased, true)
    else (allowance, legacy, true)
  else (allowance, purchased, false)

def tierDisplayName (tier : Option String) : Option String :=
  tier.bind fun t => [("basic", "Basic"), ("pro", "Pro"), ("max", "MAX")].lookup t

/-- The balances taken over are written back. -/
def writeTieredCredits (existing : Account) : AuthProg Unit :=
  let (allowance, purchased, takenOver) := tieredCredits existing
  if takenOver then
    bestEffort (ask (.updateAccount existing.id
      { subscriptionAllowance := some allowance, purchasedCredits := some purchased }))
  else pure ()

/-- A new key, where there is none to answer. -/
def replaceKey (draws : Draws) (existing : Account) (request : AuthRequest) (found : Option String) :
    AuthProg (Option String) :=
  if found.isNone && request.autoCreateApiKey.getD true then
    tryCatch
      (do
        let environmentTag ← resolveKeyEnvironment existing.id existing.credits "live"
        let primaryKey ← createApiKey draws existing.id "Primary Key (Auto-created)" environmentTag
        bestEffort (ask (.updateAccount existing.id { apiKey := some primaryKey }))
        pure (some primaryKey))
      fun _ => pure none
  else pure found

/-- The answer to who has an account. -/
def loginResponse (existing : Account) (request : AuthRequest) (info : AuthInfo) (apiKey : String) : AuthResponse :=
  let (allowance, purchased, _) := tieredCredits existing
  { message := "Login successful", userId := existing.id, apiKey := apiKey, authMethod := info.authMethod,
    privyUserId := request.privyUserId, isNewUser := false,
    displayName := (filled (some existing.username)).or info.displayName,
    email := (filled (some existing.email)).or info.email,
    phoneNumber := (filled info.phoneNumber).or existing.phoneNumber,
    credits := existing.subscriptionAllowance.getD 0 + existing.purchasedCredits.getD 0,
    subscriptionStatus := existing.subscriptionStatus, tier := existing.tier,
    tierDisplayName := tierDisplayName existing.tier, trialExpiresAt := existing.trialExpiresAt,
    subscriptionEndDate := existing.subscriptionEndDate, subscriptionAllowance := allowance,
    purchasedCredits := purchased, totalCredits := allowance + purchased,
    allowanceResetDate := existing.allowanceResetDate }

def handleExistingUser (draws : Draws) (existing : Account) (request : AuthRequest) (info : AuthInfo) :
    AuthProg AuthResponse := do
  let found ← keyToReturn existing
  writeTieredCredits existing
  let apiKey ← replaceKey draws existing request found
  match apiKey with
  | none =>
    throw (.httpException 503
      "Your account exists but no API key is available. Please try again or contact support.")
  | some apiKey => pure (loginResponse existing request info apiKey)

/-! ## A new account -/

/-- `_get_subscription_status_for_email`: is the address refused? The service is asked last, and not believed if it fails. -/
def shouldBlockEmail (checks : EmailChecks) (email : String) : AuthProg Bool :=
  if ["@privy.user", "@privy.placeholder"].any (fun ending => ending.toList.isSuffixOf email.toList) then pure false
  else if checks.isBlockedDomain email then pure true
  else if checks.isTemporaryDomain email then pure false
  else tryCatch (do let verdict ← ask (.verifyEmail email); pure verdict.shouldBlock) fun _ => pure false

/-- The names that `_generate_unique_username` tries, and the last resort, which it does not look up. -/
def firstFreeName (sanitized last : String) : String → List String → AuthProg String
  | _, [] => pure (sanitized ++ "_" ++ last)
  | candidate, suffix :: suffixes => do
    let taken ← ask (.usernameTaken candidate)
    if taken then firstFreeName sanitized last (sanitized ++ "_" ++ suffix) suffixes else pure candidate

def generateUniqueUsername (suffixes : List String) (last base : String) : AuthProg String :=
  let sanitized := if base = "" then "user" else base
  firstFreeName sanitized last sanitized suffixes

/-- The address of a new account: a placeholder where there is none that is valid. -/
def newAccountEmail (checks : EmailChecks) (request : AuthRequest) (info : AuthInfo) : String :=
  match info.email.filter checks.isValid with
  | some email => email
  | none =>
    "noemail+" ++ String.ofList (request.privyUserId.toList.map fun c => if c = ':' then '_' else c) ++ "@privy.placeholder"

/-- What is known of an account that was made or found by the creation. -/
structure NewUser where
  userId : Int
  username : String
  credits : ℚ
  primaryApiKey : String
  subscriptionStatus : Option String
  tier : Option String
  trialExpiresAt : Option String := none
  subscriptionEndDate : Option String := none

def createEnhancedUser (draws : Draws) (username email : String) (authMethod : AuthMethod) (privyUserId : String) :
    AuthProg NewUser :=
  tryCatch
    (do
      let user ← ask (.insertAccount
        { id := 0, username := username, email := email, privyUserId := some privyUserId,
          apiKey := some ("gw_live_" ++ draws.temporaryKey), authMethod := some authMethod.text,
          welcomeEmailSent := some false, tier := some "basic", subscriptionStatus := some "inactive",
          subscriptionAllowance := some 0, purchasedCredits := some 0 })
      let environmentTag ← resolveKeyEnvironment user.id user.credits "live"
      let primaryKey ← createApiKey draws user.id "Primary Key" environmentTag
      let _ ← ask (.updateAccount user.id { apiKey := some primaryKey })
      pure
        { userId := user.id, username := username, credits := 0, primaryApiKey := primaryKey,
          subscriptionStatus := some "inactive", tier := some "basic" })
    fun e => throw (.runtimeError ("Failed to create enhanced user: " ++ e.text))

/-- The row of the manual insert. -/
def userPayload (username email : String) (authMethod : AuthMethod) (privyUserId : String) : Account where
  id := 0
  username := username
  email := email
  privyUserId := some privyUserId
  authMethod := some authMethod.text
  welcomeEmailSent := some false
  tier := some "basic"
  subscriptionStatus := some "inactive"
  subscriptionAllowance := some 0
  purchasedCredits := some 0

/-- The columns in which a row differs from the payload. -/
def differences (payload row : Account) : AccountPatch where
  username := if row.username ≠ payload.username then some payload.username else none
  email := if row.email ≠ payload.email then some payload.email else none
  privyUserId := if row.privyUserId ≠ payload.privyUserId then payload.privyUserId else none
  authMethod := if row.authMethod ≠ payload.authMethod then payload.authMethod else none
  welcomeEmailSent := if row.welcomeEmailSent ≠ payload.welcomeEmailSent then payload.welcomeEmailSent else none
  tier := if row.tier ≠ payload.tier then payload.tier else none
  subscriptionStatus := if row.subscriptionStatus ≠ payload.subscriptionStatus then payload.subscriptionStatus else none
  subscriptionAllowance :=
    if row.subscriptionAllowance ≠ payload.subscriptionAllowance then payload.subscriptionAllowance else none
  purchasedCredits := if row.purchasedCredits ≠ payload.purchasedCredits then payload.purchasedCredits else none

/-- A partly created row is completed. -/
def completeAccount (payload row : Account) : AuthProg Account :=
  if differences payload row = {} then pure row
  else do
    let updated ← ask (.updateAccount row.id (differences payload row))
    pure (updated.getD ((differences payload row).apply row))

/-- The manual insert; where a unique column refuses it, the account that has the name, or the address. -/
def insertOrFind (payload : Account) : AuthProg Account :=
  tryCatch (ask (.insertAccount payload)) fun e =>
    if e.kind = .apiError "23505" then do
      let byName ← ask (.selectByUsername payload.username)
      match byName with
      | some account => pure account
      | none => do
        let byEmail ← ask (.selectByEmail payload.email)
        match byEmail with
        | some account => pure account
        | none => throw (.httpException 500 "Failed to fetch existing user after duplicate insert")
    else throw e

/-- By the Privy id, else by the name. -/
def findAgain (privyId username : String) : AuthProg (Option Account) := do
  let found ← getUserByPrivyId privyId
  match found with
  | some account => pure (some account)
  | none => getUserByUsername username

/-- The key of an account that was made or found. -/
def fallbackKey (draws : Draws) (username environmentTag : String) (created : Account) : AuthProg String := do
  let keys ← tryCatch (ask (.selectActiveKeys created.id)) fun _ => pure []
  let newest := (keys.insertionSort fun a b =>
    if a.isPrimary = b.isPrimary then b.createdAt ≤ a.createdAt else a.isPrimary).head?
  match filled ((newest.map AccountKey.apiKey).or created.apiKey) with
  | some apiKey => pure apiKey
  | none => do
    let apiKey := "gw_live_" ++ username ++ "_fallback"
    bestEffort (ask (.insertKey
      { userId := created.id, apiKey := apiKey, keyName := "Primary API Key", environmentTag := environmentTag,
        isPrimary := true, createdAt := draws.now }))
    pure apiKey

/-- The account that the manual creation ends with. -/
def createdAccount (payload : Account) (privyId : String) : AuthProg Account := do
  let partialUser ← findAgain privyId payload.username
  match partialUser with
  | some row => completeAccount payload row
  | none => insertOrFind payload

/-- The manual creation. -/
def createManually (checks : EmailChecks) (draws : Draws) (request : AuthRequest) (info : AuthInfo) (username : String) :
    AuthProg NewUser := do
  let username ← generateUniqueUsername draws.suffixes' draws.lastSuffix' username
  let payload := userPayload username (newAccountEmail checks request info) info.authMethod request.privyUserId
  tryCatch
    (do
      let created ← createdAccount payload request.privyUserId
      let requestedTag := (filled request.environmentTag).getD "live"
      let environmentTag ← resolveKeyEnvironment created.id created.credits
        (if requestedTag ∈ ["live", "test", "development"] then requestedTag else "live")
      let apiKey ← fallbackKey draws username environmentTag created
      pure
        { userId := created.id, username := created.username,
          credits := created.purchasedCredits.getD 0 + created.subscriptionAllowance.getD 0, primaryApiKey := apiKey,
          subscriptionStatus := created.subscriptionStatus, tier := created.tier, trialExpiresAt := created.trialExpiresAt,
          subscriptionEndDate := created.subscriptionEndDate })
    fun _ => throw (.httpException 500 "Failed to create user account")

/-- The answer to who is new. -/
def registrationResponse (request : AuthRequest) (info : AuthInfo) (user : NewUser) : AuthResponse where
  message := "Account created successfully"
  userId := user.userId
  apiKey := user.primaryApiKey
  authMethod := info.authMethod
  privyUserId := request.privyUserId
  isNewUser := true
  displayName := (filled info.displayName).or (some user.username)
  email := info.email
  phoneNumber := info.phoneNumber
  credits := user.credits
  subscriptionStatus := user.subscriptionStatus
  tier := user.tier
  tierDisplayName := tierDisplayName user.tier
  trialExpiresAt := user.trialExpiresAt
  subscriptionEndDate := user.subscriptionEndDate
  subscriptionAllowance := 0
  purchasedCredits := user.credits
  totalCredits := user.credits
  allowanceResetDate := none

/-- Nobody gets an answer without a key. -/
def register (request : AuthRequest) (info : AuthInfo) (user : NewUser) : AuthProg AuthResponse :=
  if user.primaryApiKey = "" then
    throw (.httpException 500 "Account created but API key generation failed. Please try again or contact support.")
  else pure (registrationResponse request info user)

/-- Where creating the account has failed: whoever is found now, else the manual creation. -/
def afterFailedCreation (checks : EmailChecks) (draws : Draws) (request : AuthRequest) (info : AuthInfo) (username : String) :
    AuthProg AuthResponse := do
  let existing ← findAgain request.privyUserId username
  match existing with
  | some account => handleExistingUser draws account request info
  | none => do
    let user ← createManually checks draws request info username
    register request info user

/-- Nobody was found. -/
def createAccount (checks : EmailChecks) (draws : Draws) (request : AuthRequest) (info : AuthInfo) (base : String) :
    AuthProg AuthResponse := do
  let blocked ← match info.email with
    | some email => shouldBlockEmail checks email
    | none => pure false
  if blocked then
    throw (.httpException 400 "This email address is not allowed. Please use a valid email.")
  else do
    let username ← generateUniqueUsername draws.suffixes draws.lastSuffix base
    let created ←
      (createEnhancedUser draws username (newAccountEmail checks request info) info.authMethod request.privyUserId).attempt
    match created with
    | .ok user => register request info user
    | .error _ => afterFailedCreation checks draws request info username

/-! ## The route -/

/-- `str(e)`; that of an `HTTPException` begins with its status. -/
def errorText (e : PyErr) : String :=
  match e.kind with
  | .httpException status => toString status ++ ": " ++ e.text
  | _ => e.text

/-- The `except` clause of the route. -/
def authenticationFailed (e : PyErr) : PyErr :=
  if ["missing an 'http://' or 'https://' protocol", "supabase_url must start with",
      "supabase_url environment variable is not set"].any (textContains · (lower (errorText e))) then
    .httpException 503 "Service configuration error: Database URL is misconfigured. Please contact support."
  else .httpException 500 ("Authentication failed: " ++ errorText e)

/-- Sign in, or sign up. -/
def authenticate (checks : EmailChecks) (draws : Draws) (request : AuthRequest) : AuthProg AuthResponse := do
  let info := request.info
  let username := baseUsername request info
  let existing ← findByPrivyId request.privyUserId
  match existing with
  | some account => handleExistingUser draws account request info
  | none => do
    let named ← findByUsername request.privyUserId username
    match named with
    | some account => handleExistingUser draws account request info
    | none => createAccount checks draws request info username

/-- `privy_auth`. -/
def privyAuth (checks : EmailChecks) (draws : Draws) (request : AuthRequest) : AuthProg AuthResponse := do
  let limit ← ask .checkRateLimit
  match limit with
  | some seconds =>
    throw (.httpException 429 ("Too many login attempts. Please try again in " ++ toString seconds ++ " seconds."))
  | none => tryCatch (authenticate checks draws request) fun e => throw (authenticationFailed e)

end Gatewayz.Auth
