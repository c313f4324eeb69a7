import Gatewayz.Keys.Database

/-!
# `Keys.Operations` — changing a key

The functions behind `PUT /user/api-keys/{key_id}`: the lookups and the permission check of `db/api_keys.py`, its
`updateApiKey`, the rotations of `db_security.py`, and the route of `routes/api_keys.py` over them. Hashes, cipher texts and random
texts come from outside (`Crypto`); the time is an argument.

Of `get_user` only the keys are told here: what it does to balances on the way is in `Billing.LegacyCredits`.
-/

namespace Gatewayz.Keys

open Exec

/-! ## What comes from outside -/

/-- Hashes, cipher texts and random texts. What is different each time depends on the row it is made for. -/
structure Crypto where
  /-- `sha256_key_hash`, by which keys are looked up; it raises without a configured salt. -/
  sha256KeyHash : String → Option String
  /-- `hash_api_key`, with a salt of its own. -/
  hashApiKey : String → Except PyErr String
  encryptApiKey : Int → String → Except PyErr String
  decryptApiKey : String → Option String
  /-- `secrets.token_urlsafe(32)` -/
  token : Int → String

def last4 (apiKey : String) : String := String.ofList (apiKey.toList.drop (apiKey.length - 4))

/-- The start of a key of an environment. -/
def keyPrefix (environmentTag : String) : String :=
  if environmentTag = "test" then "gw_test_"
  else if environmentTag = "staging" then "gw_staging_"
  else if environmentTag = "development" then "gw_dev_"
  else "gw_live_"

def lift {α : Type} : Except PyErr α → KeyProg α
  | .ok a => pure a
  | .error e => throw e

def secondsPerDay : Int := 86400

/-- `now + timedelta(days=days)`, with the bounds of both types. -/
def plusDays (now days : Int) : Except PyErr Int :=
  let later := now + secondsPerDay * days
  -- the years 1 to 9999
  if |days| ≤ 999999999 ∧ -62135596800 ≤ later ∧ later ≤ 253402300799 then .ok later
  else .error ⟨.other, "date value out of range"⟩

/-! ## Lookups -/

/-- `_get_user_uncached`. Any failure counts as no user. -/
def getUserUncached (apiKey : String) : KeyProg (Option KeyUser) :=
  tryCatch
    (do
      let keyResult ← ask (.selectByApiKey apiKey)
      let user : Option KeyUser ←
        match keyResult with
        | some keyData => ask (.selectUser keyData.userId)
        | none => pure none
      match user with
      | some user => pure (some user)
      | none => ask (.selectUserByApiKey apiKey))
    fun _ => pure none

/-- `get_user`, told what the process remembers of the key. -/
def getUser (cached : Option KeyUser) (apiKey : String) : KeyProg (Option KeyUser) :=
  match cached with
  | some user => pure (some user)
  | none => getUserUncached apiKey

/-- `check_key_name_uniqueness`. When in doubt the name is taken. -/
def checkKeyNameUniqueness (userId : Int) (keyName : String) (excludeKeyId : Option Int) : KeyProg Bool :=
  tryCatch
    (do
      -- an id of 0 excludes nothing
      let ids ← ask (.selectNamed userId keyName (excludeKeyId.filter (· ≠ 0)))
      pure ids.isEmpty)
    fun _ => pure false

/-- May the row do this? -/
def KeyRow.permits (row : KeyRow) (requiredPermission resource : String) : Bool :=
  if row.isActive ≠ some true then false
  else if row.isPrimary = some true then true
  else
    match row.scopePermissions.getD [] with
    | [] => true
    | scopes =>
      match scopes.lookup requiredPermission with
      | some (.resources names) => names.contains "*" || names.contains resource
      | some (.resource name) => name = "*" || name = resource
      | _ => false

def validateApiKeyPermissions (apiKey requiredPermission resource : String) : KeyProg Bool :=
  tryCatch
    (if "gw_temp_".toList.isPrefixOf apiKey.toList then pure true
     else do
      let keyResult ← ask (.selectByApiKey apiKey)
      match keyResult with
      | none => pure false
      | some keyData => pure (keyData.permits requiredPermission resource))
    fun _ => pure false

def pct (used limit : Int) : ℚ := round6 (min 100 ((used : ℚ) / limit * 100))

/-- What `get_api_key_by_id` tells of a row. -/
structure KeyDetails where
  id : Int
  keyName : String
  apiKey : String
  environmentTag : String
  scopePermissions : Scopes
  isActive : Option Bool
  isPrimary : Option Bool
  expirationDate : Option Iso
  daysRemaining : Option Int
  maxRequests : Option Int
  requestsUsed : Option Int
  requestsRemaining : Option Int
  usagePercentage : Option ℚ
  ipAllowlist : List String
  domainReferrers : List String
  createdAt : Option Iso
  updatedAt : Option Iso
  lastUsedAt : Option Iso
  deriving DecidableEq

/-- The whole days left; a stamp that cannot be read has none. -/
def daysRemaining (now : Int) (stamp : Iso) : Option Int :=
  match stamp.parse with
  | .ok expiration => some (max 0 ((expiration - now) / secondsPerDay))
  | .error _ => none

/-- The answer of `get_api_key_by_id` for a row; a limit without a count is a `TypeError`. -/
def KeyRow.details (now : Int) (row : KeyRow) : Option KeyDetails :=
  let limit := row.maxRequests.filter (· ≠ 0)
  if limit.isSome ∧ row.requestsUsed = none then none
  else some
    { id := row.id
      keyName := row.keyName
      apiKey := row.apiKey
      environmentTag := (row.environmentTag.filter (· ≠ "")).getD "live"
      scopePermissions := row.scopePermissions.getD []
      isActive := row.isActive
      isPrimary := row.isPrimary
      expirationDate := row.expirationDate
      daysRemaining := row.expirationDate.bind (daysRemaining now)
      maxRequests := row.maxRequests
      requestsUsed := row.requestsUsed
      requestsRemaining := limit.map fun m => max 0 (m - row.requestsUsed.getD 0)
      usagePercentage := limit.bind fun m => (row.requestsUsed.filter (· ≠ 0)).map fun used => pct used m
      ipAllowlist := row.ipAllowlist.getD []
      domainReferrers := row.domainReferrers.getD []
      createdAt := row.createdAt
      updatedAt := row.updatedAt
      lastUsedAt := row.lastUsedAt }

def getApiKeyById (now : Int) (keyId userId : Int) : KeyProg (Option KeyDetails) :=
  tryCatch
    (do
      let row ← ask (.selectById keyId userId)
      pure (row.bind (KeyRow.details now)))
    fun _ => pure none

/-! ## Updates -/

/-- The `updates` dictionary: a key that is not in it is `none`. -/
structure Updates where
  apiKey : Option String := none
  keyName : Option String := none
  scopePermissions : Option Scopes := none
  /-- `some none` takes the expiration away. -/
  expirationDays : Option (Option Int) := none
  maxRequests : Option Int := none
  ipAllowlist : Option (List String) := none
  domainReferrers : Option (List String) := none
  isActive : Option Bool := none
  deriving DecidableEq

/-- The `expiration_date` an update writes, if it does. -/
def Updates.expirationDate (now : Int) (updates : Updates) : Except PyErr (Option (Option Iso)) :=
  match updates.expirationDays with
  | none => .ok none
  | some none => .ok (some none)
  | some (some days) => (plusDays now days).map fun later => some (some (.ofUtc later))

/-- `update_data`: the fields of `allowed_fields`, and the stamp. `api_key` is not one of them. -/
def Updates.patch (now : Int) (expirationDate : Option (Option Iso)) (updates : Updates) : KeyPatch where
  keyName := updates.keyName
  scopePermissions := updates.scopePermissions
  expirationDate := expirationDate
  maxRequests := updates.maxRequests
  ipAllowlist := updates.ipAllowlist
  domainReferrers := updates.domainReferrers
  isActive := updates.isActive
  updatedAt := some (.ofUtc now)

/-- A new name must be new. -/
def Updates.checkName (userId keyId : Int) (updates : Updates) : KeyProg Unit :=
  match updates.keyName with
  | none => pure ()
  | some keyName => do
    let unique ← checkKeyNameUniqueness userId keyName (some keyId)
    if unique then pure ()
    else throw (.valueError
      ("Key name '" ++ keyName ++ "' already exists for this user. Please choose a different name."))

/-- The copy of the limit in `rate_limit_configs`. -/
def Updates.copyLimit (keyId : Int) (updates : Updates) : KeyProg Unit :=
  match updates.maxRequests with
  | some maxRequests => bestEffort (ask (.updateRateLimit keyId maxRequests))
  | none => pure ()

/-- The part of `update_api_key` after the row has been found. -/
def updateFoundKey (now userId : Int) (updates : Updates) (keyId : Int) : KeyProg Bool := do
  updates.checkName userId keyId
  let expirationDate ← lift (updates.expirationDate now)
  let matched ← ask (.updateKey keyId (updates.patch now expirationDate))
  if matched then do
    updates.copyLimit keyId
    bestEffort (ask (.insertAuditLog ⟨userId, "update", keyId⟩))
    pure true
  else throw (.valueError "Failed to update API key")

/-- `update_api_key`: the row of `apiKey` is the one that is updated. Whatever goes wrong is a `RuntimeError`. -/
def updateApiKey (now : Int) (apiKey : String) (userId : Int) (updates : Updates) : KeyProg Bool :=
  tryCatch
    (do
      let keyResult ← ask (.selectOwned apiKey userId)
      match keyResult with
      | none => throw (.valueError "API key not found or not owned by user")
      | some keyData => updateFoundKey now userId updates keyData.id)
    fun e => throw (.runtimeError ("Failed to update API key: " ++ e.text))

/-! ## Rotations of `db_security.py` -/

/-- `rotate_api_key`: the key column takes the cipher text of the new key, and the hash is `hash_api_key`. -/
def rotateApiKey (crypto : Crypto) (now keyId userId : Int) : KeyProg String :=
  tryCatch
    (do
      let currentKey ← ask (.selectById keyId userId)
      match currentKey with
      | none => throw (.valueError "API key not found or not owned by user")
      | some keyData => do
        let newApiKey := keyPrefix (keyData.environmentTag.getD "live") ++ crypto.token keyId
        let newKeyHash ← lift (crypto.hashApiKey newApiKey)
        let newEncryptedKey ← lift (crypto.encryptApiKey keyId newApiKey)
        let matched ← ask (.updateKey keyId
          { apiKey := some newEncryptedKey, keyHash := some newKeyHash, updatedAt := some (.ofUtc now) })
        if matched then do
          bestEffort (ask (.insertAuditLog ⟨userId, "rotate", keyId⟩))
          pure newApiKey
        else throw (.valueError "Failed to rotate API key"))
    fun e => throw (.runtimeError ("Failed to rotate API key: " ++ e.text))

structure RotatedKey where
  keyId : Int
  keyName : String
  newApiKey : String
  deriving DecidableEq

/-- The loop of `bulk_rotate_user_keys`: a key that cannot be rotated is skipped. -/
def rotateAll (crypto : Crypto) (now userId : Int) : List KeyRow → KeyProg (List RotatedKey)
  | [] => pure []
  | keyData :: rest => do
    let rotated : Option String ←
      tryCatch (some <$> rotateApiKey crypto now keyData.id userId) fun _ => pure none
    let others ← rotateAll crypto now userId rest
    pure (match rotated with
      | some newKey => ⟨keyData.id, keyData.keyName, newKey⟩ :: others
      | none => others)

def bulkRotateUserKeys (crypto : Crypto) (now userId : Int) (environmentTag : Option String) : KeyProg (List RotatedKey) :=
  tryCatch
    (do
      let keys ← ask (.selectActive userId (environmentTag.filter (· ≠ "")))
      rotateAll crypto now userId keys)
    fun e => throw (.runtimeError ("Failed to bulk rotate user keys: " ++ e.text))

/-! ## The route -/

/-- `class UpdateApiKeyRequest` -/
structure UpdateApiKeyRequest where
  keyName : Option String := none
  scopePermissions : Option (List (String × List String)) := none
  expirationDays : Option Int := none
  maxRequests : Option Int := none
  ipAllowlist : Option (List String) := none
  domainReferrers : Option (List String) := none
  isActive : Option Bool := none
  action : Option String := none
  environmentTag : Option String := none

/-- The fields that were provided. -/
def UpdateApiKeyRequest.updates (request : UpdateApiKeyRequest) : Updates where
  keyName := request.keyName
  scopePermissions := request.scopePermissions.map fun scopes => scopes.map fun scope => (scope.1, .resources scope.2)
  expirationDays := request.expirationDays.map some
  maxRequests := request.maxRequests
  ipAllowlist := request.ipAllowlist
  domainReferrers := request.domainReferrers
  isActive := request.isActive

inductive PutResponse where
  /-- `UpdateApiKeyResponse` -/
  | updated (message : String) (updatedKey : KeyDetails)
  | bulkRotated (rotatedCount : Nat) (newKeys : List RotatedKey)
  deriving DecidableEq

/-- The types of `ApiKeyResponse`. -/
def KeyDetails.Valid (details : KeyDetails) : Prop :=
  details.isActive.isSome ∧ details.isPrimary.isSome ∧ details.requestsUsed.isSome ∧
    ∀ scope ∈ details.scopePermissions, ∃ names, scope.2 = .resources names

instance (scope : String × Allowed) : Decidable (∃ names, scope.2 = .resources names) :=
  match h : scope.2 with
  | .resources names => .isTrue ⟨names, rfl⟩
  | .resource _ => .isFalse fun ⟨_, he⟩ => by cases he
  | .other => .isFalse fun ⟨_, he⟩ => by cases he

instance (details : KeyDetails) : Decidable details.Valid := inferInstanceAs (Decidable (_ ∧ _ ∧ _ ∧ _))

/-- What the route writes, and what it says in the end. -/
def finishUpdate (now : Int) (apiKey : String) (userId keyId : Int) (updates : Updates) (message : String) :
    KeyProg PutResponse := do
  let success ← tryCatch (updateApiKey now apiKey userId updates) fun e =>
    if e.kind = .valueError then
      if textContains "already exists" e.text then throw (.httpException 400 e.text)
      else throw (.httpException 400 ("Validation error: " ++ e.text))
    else throw e
  if success then do
    let updatedKey ← getApiKeyById now keyId userId
    match updatedKey with
    | none => throw (.httpException 500 "Failed to retrieve updated key details")
    | some updatedKey =>
      if updatedKey.Valid then pure (.updated message updatedKey)
      else throw (.valueError "validation error for ApiKeyResponse")
  else throw (.httpException 500 "Failed to update API key")

/-- The route between the ownership check and its end, by action. -/
def changeKey (crypto : Crypto) (now : Int) (apiKey : String) (userId : Int) (keyToUpdate : KeyDetails)
    (request : UpdateApiKeyRequest) : KeyProg PutResponse :=
  if request.action = some "rotate" then
    let newApiKey := keyPrefix keyToUpdate.environmentTag ++ crypto.token keyToUpdate.id
    finishUpdate now apiKey userId keyToUpdate.id { apiKey := some newApiKey }
      "API key rotated successfully with new key generated"
  else if request.action = some "bulk_rotate" then
    tryCatch
      (do
        let newKeys ← bulkRotateUserKeys crypto now userId request.environmentTag
        pure (.bulkRotated newKeys.length newKeys))
      fun e => throw (.httpException 500 ("Bulk rotation failed: " ++ e.text))
  else if request.updates = {} then throw (.httpException 400 "No valid fields to update")
  else
    finishUpdate now apiKey userId keyToUpdate.id request.updates
      "API key updated successfully with enhanced security features"

/-- `PUT /user/api-keys/{key_id}`, for a caller whose key has been accepted. -/
def updateUserApiKeyEndpoint (crypto : Crypto) (now : Int) (cached : Option KeyUser) (apiKey : String) (keyId : Int)
    (request : UpdateApiKeyRequest) : KeyProg PutResponse :=
  tryCatch
    (do
      let user ← getUser cached apiKey
      match user with
      | none => throw (.httpException 401 "Invalid API key")
      | some user => do
        let allowed ← validateApiKeyPermissions apiKey "write" "api_keys"
        if allowed then do
          let keyToUpdate ← getApiKeyById now keyId user.id
          match keyToUpdate with
          | none => throw (.httpException 404 "API key not found")
          | some keyToUpdate => changeKey crypto now apiKey user.id keyToUpdate request
        else throw (.httpException 403 "Insufficient permissions to update API keys"))
    fun e => if e.isHttp then throw e else throw (.httpException 500 "Internal server error")

end Gatewayz.Keys
