import Gatewayz.Billing.Numerals

/-!
# `Chat.Errors` — what a chat request can raise, and what becomes of it

The chat code tells its exceptions apart by class: its own, those of the providers' SDKs and of `httpx`, and those that are
no `Exception` and pass every `except Exception` by: a cancelled task, a closed generator.

`mapProviderError` is `map_provider_error` of `services/provider_failover.py`: it makes an `HTTPException` of anything, and
its status decides whether the next provider is tried (`shouldFailover`). Headers are left out, nobody here reads them.
-/

namespace Gatewayz

/-! ## Classes -/

inductive SdkStatus where
  | rateLimit
  | authentication
  | permissionDenied
  | notFound
  | badRequest
  | other
  deriving DecidableEq

/-- An `Exception`. -/
inductive Exc where
  | py (e : PyErr)
  /-- `APITimeoutError`, `httpx.TimeoutException`, `asyncio.TimeoutError`. -/
  | timeout (text : String)
  /-- `APIConnectionError`. -/
  | connection (text : String)
  /-- `APIStatusError`. -/
  | sdkStatus (cls : SdkStatus) (status : Nat) (text : String)
  /-- `OpenAIError`. -/
  | sdk (text : String)
  /-- `httpx.HTTPStatusError`, with the body of the response. -/
  | httpStatus (status : Nat) (body : String)
  | requestError (text : String)
  | circuitBreaker (provider : String)
  deriving DecidableEq

inductive ChatErr where
  | exception (e : Exc)
  /-- `asyncio.CancelledError`. -/
  | cancelled
  | generatorExit
  deriving DecidableEq

namespace Exc

def httpException (status : Nat) (detail : String) : Exc := .py (PyErr.httpException status detail)
def valueError (text : String) : Exc := .py (PyErr.valueError text)

/-- The status of an `HTTPException`. -/
def httpStatus? : Exc → Option Nat
  | .py ⟨.httpException status, _⟩ => some status
  | _ => none

def isValueError : Exc → Bool
  | .py ⟨.valueError, _⟩ => true
  | _ => false

/-- `str(e)`. -/
def text : Exc → String
  | .py ⟨.httpException status, detail⟩ => toString status ++ ": " ++ detail
  | .py e => e.text
  | .timeout text => text
  | .connection text => text
  | .sdkStatus _ _ text => text
  | .sdk text => text
  | .httpStatus status _ => "HTTP error " ++ toString status
  | .requestError text => text
  | .circuitBreaker provider => "Circuit breaker open for provider " ++ provider

end Exc

instance : Coe PyErr Exc := ⟨.py⟩

/-! ## What the user gets to see of a provider's error -/

/-- `_URL_RE.sub("[link removed]", …)` within one word: a link goes to the word's end. -/
def removeLink : List Char → List Char
  | [] => []
  | c :: rest =>
    if ["http://", "https://"].any fun scheme =>
        scheme.toList.isPrefixOf (c :: rest) ∧ scheme.length < (c :: rest).length then
      "[link removed]".toList
    else c :: removeLink rest

def isHexDigit (c : Char) : Bool := c.isDigit || ('a' ≤ c && c ≤ 'f') || ('A' ≤ c && c ≤ 'F')

/-- `_HEX_SECRET_RE.sub("[redacted]", …)` within one run of letters, digits and underscores. -/
def redactSecret (word : List Char) : List Char :=
  if 32 ≤ word.length ∧ word.all isHexDigit then "[redacted]".toList else word

def isWordChar (c : Char) : Bool := c.isAlphanum || c = '_'

/-- `sanitize_provider_error_for_user`: no links, no keys, one line, not too long. -/
def sanitizeProviderErrorForUser (rawError : String) (maxLength : Nat) : String :=
  let words := rawError.toList.splitBy fun a b => isSpaceChar a == isSpaceChar b
  let noLinks := (words.map fun word => if word.any isSpaceChar then word else removeLink word).flatten
  let runs := noLinks.splitBy fun a b => isWordChar a == isWordChar b
  let cleaned := strip (((runs.map redactSecret).flatten).map fun c => if c = '\n' ∨ c = '\r' then ' ' else c)
  if maxLength < cleaned.length then
    String.ofList ((cleaned.take maxLength).reverse.dropWhile isSpaceChar).reverse ++ "…"
  else String.ofList cleaned

def isProviderBudgetError (rawError : String) : Bool :=
  ["error code: 402", "\"code\": 402", "'code': 402", "requires more credits", "can only afford", "adjust the key",
    "weekly limit", "insufficient_quota", "payment required"].any fun pattern => textContains pattern (lower rawError)

/-! ## `map_provider_error` -/

/-- Texts of a `ValueError` that mean missing credentials. -/
def credentialKeywords : List String :=
  ["access token", "credential", "authentication", "api key", "not configured", "id_token", "service account",
    "GOOGLE_APPLICATION_CREDENTIALS", "GOOGLE_VERTEX_CREDENTIALS_JSON"]

/-- Texts of a `ValueError` that mean an empty answer. -/
def noCandidatesKeywords : List String :=
  ["no candidates", "returned no candidates", "empty candidates", "promptfeedback", "block reason"]

def mentions (keywords : List String) (text : String) : Bool :=
  keywords.any fun keyword => textContains (lower keyword) (lower text)

/-- The status in `Error code: NNN`, by the first place where the pattern fits. -/
def errorCode? (text : String) : Option Nat :=
  text.toList.tails.findSome? fun t =>
    if "Error code:".toList.isPrefixOf t then
      let digits := ((t.drop 11).dropWhile isSpaceChar).take 3
      if digits.length = 3 ∧ digits.all Char.isDigit then (String.ofList digits).toNat? else none
    else none

def upstreamRateLimit (model : String) : Exc :=
  .httpException 429
    ("The model '" ++ model ++ "' is temporarily rate limited upstream due to high demand. " ++
      "This is congestion at the model provider, not your account limit. Please retry shortly.")

section Mapping

variable (provider model : String)

def modelNotFound : Exc := .httpException 404 ("Model " ++ model ++ " not found or unavailable on " ++ provider)

def providerErrorText (rawError : String) (maxLength : Nat) : String :=
  "Provider '" ++ provider ++ "' error for model '" ++ model ++ "': " ++ sanitizeProviderErrorForUser rawError maxLength

/-- A `ValueError`. -/
def mapValueError (text : String) : Exc :=
  if mentions credentialKeywords text then
    .httpException 503 (provider ++ " credentials not configured or invalid. Trying alternative providers.")
  else if mentions noCandidatesKeywords text then
    .httpException 503 (provider ++ " returned no response candidates. Trying alternative providers.")
  else .httpException 400 (sanitizeProviderErrorForUser text 300)

/-- A status error of an SDK. -/
def mapSdkStatus (cls : SdkStatus) (status : Nat) (text : String) : Exc :=
  match cls with
  | .rateLimit => upstreamRateLimit model
  | .authentication => .httpException 401 (provider ++ " authentication error")
  | .permissionDenied => .httpException 401 (provider ++ " authentication error")
  | .notFound => modelNotFound provider model
  | .badRequest =>
    .httpException 400
      ("Provider '" ++ provider ++ "' rejected request for model '" ++ model ++ "': " ++
        sanitizeProviderErrorForUser text 300)
  | .other =>
    if status = 403 then .httpException 401 (provider ++ " authentication error")
    else if status = 404 then modelNotFound provider model
    else if 500 ≤ status ∧ status < 600 then .httpException status "Upstream service error"
    else .httpException status (providerErrorText provider model text 300)

/-- A status error of `httpx`. -/
def mapHttpStatus (status : Nat) (body : String) : Exc :=
  if status = 429 then upstreamRateLimit model
  else if status = 401 ∨ status = 403 then .httpException 500 (provider ++ " authentication error")
  else if status = 404 then modelNotFound provider model
  else if 400 ≤ status ∧ status < 500 then
    .httpException 400
      ("Provider '" ++ provider ++ "' rejected request for model '" ++ model ++ "' (HTTP " ++ toString status ++ ")" ++
        (if body = "" then ""
          else ": " ++ sanitizeProviderErrorForUser (String.ofList (body.toList.take 500)) 200))
  else .httpException 502 ("Provider '" ++ provider ++ "' service error for model '" ++ model ++ "'")

/-- Anything else: the status is looked for in the text. -/
def mapByText (text : String) : Exc :=
  if errorCode? text = some 429 ∨ textContains "rate limit" (lower text) ∨ textContains "too many requests" (lower text) then
    upstreamRateLimit model
  else if errorCode? text = some 404 then modelNotFound provider model
  else if errorCode? text = some 402 ∨ isProviderBudgetError text then
    .httpException 402 ("Provider '" ++ provider ++ "' capacity limit reached for model '" ++ model ++ "'.")
  else .httpException 502 (providerErrorText provider model text 200)

/-- `map_provider_error`: an `HTTPException` of anything. -/
def mapProviderError (e : Exc) : Exc :=
  match e with
  | .py ⟨.httpException status, detail⟩ => .httpException status detail
  | .py ⟨.valueError, text⟩ => mapValueError provider text
  | .timeout _ => .httpException 504 "Upstream timeout"
  | .connection _ => .httpException 503 "Upstream service unavailable"
  | .sdkStatus cls status text => mapSdkStatus provider model cls status text
  | .sdk text => .httpException 502 (providerErrorText provider model text 300)
  | .httpStatus status body => mapHttpStatus provider model status body
  | .requestError _ =>
    .httpException 503 ("Provider '" ++ provider ++ "' service unavailable for model '" ++ model ++ "'")
  -- the connection errors of the database's client are `httpx.RequestError`s
  | .py ⟨.connectionError, _⟩ =>
    .httpException 503 ("Provider '" ++ provider ++ "' service unavailable for model '" ++ model ++ "'")
  | .py e => mapByText provider model e.text
  | .circuitBreaker p => mapByText provider model (Exc.circuitBreaker p).text

def failoverStatusCodes : List Nat := [401, 402, 403, 404, 502, 503, 504]

/-- `should_failover`, of an `HTTPException`. -/
def shouldFailover (httpExc : Exc) : Bool := httpExc.httpStatus?.any failoverStatusCodes.contains

end Mapping

/-- Whatever is raised, the client's error has a status. -/
theorem mapProviderError_isHttp (provider model : String) (e : Exc) :
    ((mapProviderError provider model e).httpStatus?).isSome := by
  unfold mapProviderError
  split
  · rfl
  · unfold mapValueError
    split <;> [rfl; split <;> rfl]
  · rfl
  · rfl
  · unfold mapSdkStatus
    split <;> first | rfl | (repeat' split) <;> rfl
  · rfl
  · unfold mapHttpStatus
    repeat' split
    all_goals rfl
  · rfl
  · rfl
  · unfold mapByText
    repeat' split
    all_goals rfl
  · unfold mapByText
    repeat' split
    all_goals rfl

example :
    (mapProviderError "openrouter" "m" (.py (PyErr.runtimeError "Credit deduction failed"))).httpStatus? = some 502 ∧
      (mapProviderError "openrouter" "m" (.valueError "Provider response missing choices")).httpStatus? = some 400 := by
  decide +kernel

end Gatewayz
