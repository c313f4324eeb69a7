import Gatewayz.Keys.Operations

/-!
# `Keys.Acceptance` — who may come in with a key

`validateApiKeySecurity` looks a key up by its hash and then by its text, checks the row it finds, and where it finds none (or the
lookup fails) asks `get_user`, which checks nothing. `getOptionalApiKey` makes an anonymous caller of everybody whose key is
refused. Addresses and URLs are taken apart by library code (`Net`).
-/

namespace Gatewayz.Keys

open Exec

/-- What `ipaddress` and `urllib.parse` do. -/
structure Net where
  /-- `ip_address(ip) in ip_network(cidr, strict=False)` -/
  inNetwork : String → String → Except PyErr Bool
  hostname : String → Except PyErr (Option String)

structure Caller where
  clientIp : Option String := none
  referer : Option String := none

section Checks

variable (net : Net)

def ipInCidr (ip cidr : String) : Bool :=
  if cidr.toList.contains '/' then
    match net.inNetwork ip cidr with
    | .ok inside => inside
    | .error _ => false
  else ip = cidr

def validateIpAllowlist (clientIp : String) (allowedIps : List String) : Bool :=
  allowedIps.isEmpty || allowedIps.contains clientIp ||
    allowedIps.any fun allowedIp => allowedIp.toList.contains '/' && ipInCidr net clientIp allowedIp

def validateDomainReferrers (referer : String) (allowedDomains : List String) : Bool :=
  if allowedDomains.isEmpty then true
  else if referer = "" then false
  else
    match net.hostname referer with
    | .error _ => false
    | .ok none => false
    | .ok (some hostname) =>
      hostname ≠ "" && allowedDomains.any fun domain =>
        hostname = domain || ("." ++ domain).toList.isSuffixOf hostname.toList

def restricts (allowlist : Option (List String)) : Bool := allowlist.getD [] ≠ [] && allowlist.getD [] ≠ [""]

/-- The active flag, and the expiration. -/
def KeyRow.checkDates (row : KeyRow) (now : Int) : Except PyErr Unit :=
  if row.isActive ≠ some true then .error (.valueError "API key is inactive")
  else
    match row.expirationDate with
    | none => .ok ()
    | some stamp => do
      let expiration ← stamp.parse
      if expiration < now then .error (.valueError "API key has expired") else .ok ()

/-- The limit. A count that is `NULL` cannot be compared. -/
def KeyRow.checkLimit (row : KeyRow) : Except PyErr Unit :=
  match row.maxRequests, row.requestsUsed with
  | none, _ => .ok ()
  | some _, none => .error (.typeError "'>=' not supported between instances of 'NoneType' and 'int'")
  | some maxRequests, some used =>
    if maxRequests ≤ used then .error (.valueError "API key request limit reached") else .ok ()

/-- The two allowlists. -/
def KeyRow.checkOrigin (row : KeyRow) (caller : Caller) : Except PyErr Unit :=
  if restricts row.ipAllowlist ∧ caller.clientIp.getD "" = "" then .error (.valueError "Client IP required but not provided")
  else if restricts row.ipAllowlist ∧ ¬ validateIpAllowlist net (caller.clientIp.getD "") (row.ipAllowlist.getD []) then
    .error (.valueError "IP address not allowed for this API key")
  else if restricts row.domainReferrers ∧
      ¬ validateDomainReferrers net (caller.referer.getD "") (row.domainReferrers.getD []) then
    .error (.valueError "Domain not allowed for this API key")
  else .ok ()

/-- The five checks of `_validate_key_constraints`, in their order. -/
def KeyRow.check (row : KeyRow) (now : Int) (caller : Caller) : Except PyErr Unit := do
  row.checkDates now
  row.checkLimit
  row.checkOrigin net caller

/-- `_validate_key_constraints`: the checks, and then the stamp. -/
def validateKeyConstraints (now : Int) (keyData : KeyRow) (caller : Caller) : KeyProg Unit := do
  lift (keyData.check net now caller)
  bestEffort (do
    let _ ← ask (.updateKey keyData.id { lastUsedAt := some (.ofUtc now) })
    pure ())

end Checks

/-! ## The validation -/

section Validation

variable (crypto : Crypto) (net : Net) (now : Int) (cached : Option KeyUser)

/-- The lookup by hash: was it attempted, and what did it find? Where there is no hash, the key itself is looked up. -/
def lookupByHash (apiKey : String) : KeyProg (Bool × Option KeyRow) :=
  tryCatch
    (match crypto.sha256KeyHash apiKey with
     | none => throw (.runtimeError "KEY_HASH_SALT must be configured with at least 16 characters.")
     | some keyHash => do
       let result ← ask (.selectByKeyHash keyHash)
       pure (true, result))
    fun e =>
      if e.kind = .valueError ∨ e.kind = .runtimeError then do
        let result ← ask (.selectByApiKey apiKey)
        pure (false, result)
      else throw e

def lookupKey (apiKey : String) : KeyProg (Option KeyRow) := do
  let (attempted, result) ← lookupByHash crypto apiKey
  if attempted ∧ result = none then ask (.selectByApiKey apiKey) else pure result

/-- The check of the table: was the key found in it? Only a `ValueError` leaves it. -/
def checkTable (apiKey : String) (caller : Caller) : KeyProg Bool :=
  tryCatch
    (do
      let result ← lookupKey crypto apiKey
      match result with
      | none => pure false
      | some keyData => do
        validateKeyConstraints net now keyData caller
        pure true)
    fun e => if e.kind = .valueError then throw e else pure false

/-- `validate_api_key_security`, outside of tests. -/
def validateApiKeySecurity (apiKey : String) (caller : Caller) : KeyProg String := do
  let found ← checkTable crypto net now apiKey caller
  if found then pure apiKey
  else do
    let user ← getUser cached apiKey
    if user.isSome then pure apiKey else throw (.valueError "Invalid API key")

/-- The status for a refusal: the first keyword that its text contains. -/
def refusalStatus (text : String) : Nat :=
  if textContains "inactive" text then 401
  else if textContains "expired" text then 401
  else if textContains "limit reached" text then 429
  else if textContains "not allowed" text then 403
  else if textContains "IP address" text then 403
  else if textContains "Domain" text then 403
  else 401

/-- `get_api_key` with credentials. The user is only logged. -/
def getApiKey (apiKey : String) (caller : Caller) : KeyProg String :=
  if apiKey = "" then throw (.httpException 401 "API key is required")
  else
    tryCatch
      (do
        let validatedKey ← validateApiKeySecurity crypto net now cached apiKey caller
        let _ ← getUser cached apiKey
        pure validatedKey)
      fun e =>
        if e.kind = .valueError then throw (.httpException (refusalStatus e.text) e.text)
        else throw (.httpException 500 "Internal authentication error")

/-- `get_optional_api_key`: who is refused is anonymous. -/
def getOptionalApiKey (credentials : Option String) (caller : Caller) : KeyProg (Option String) :=
  match credentials with
  | none => pure none
  | some apiKey =>
    tryCatch (some <$> getApiKey crypto net now cached apiKey caller) fun e => if e.isHttp then pure none else throw e

end Validation

/-! ## The count -/

/-- `increment_api_key_usage`: a read and a write. It never raises. -/
def incrementApiKeyUsage (now : Int) (apiKey : String) : KeyProg Unit :=
  bestEffort (do
    let existingKey ← ask (.selectByApiKey apiKey)
    match existingKey with
    | none => pure ()
    | some row =>
      match row.requestsUsed with
      | none => throw (.typeError "unsupported operand type(s) for +: 'NoneType' and 'int'")
      | some currentUsage => do
        let _ ← ask (.updateByApiKey apiKey
          { requestsUsed := some (currentUsage + 1), lastUsedAt := some (.ofUtc now), updatedAt := some (.ofUtc now) })
        pure ())

end Gatewayz.Keys
