import Gatewayz.Chat.Steps

/-!
# `Chat.Handler` — `ChatInferenceHandler`

The unified handler takes a request through its whole life: who the user is, whether the credits suffice, which provider is
called, what the answer costs, the charge and the records.

A handler lives for one attempt. Its request id is new, and is what the records of the attempt go by.
-/

namespace Gatewayz

open Exec

/-! ## Calling a provider -/

/-- What `_call_provider` makes of a provider's exception. -/
def providerHttpError (provider modelId : String) (e : Exc) : Exc :=
  let mapped := mapProviderError provider modelId e
  if e.httpStatus?.isSome then e
  else
    match e with
    | .circuitBreaker p => .httpException 503 ("Provider '" ++ p ++ "' is temporarily unavailable")
    | e =>
      if mapped.httpStatus? = some 429 then .httpException 429 "Rate limit exceeded: provider_rate_limit"
      else if mapped.httpStatus? = some 402 ∨ isProviderBudgetError e.text then
        .httpException 503
          ("Provider '" ++ provider ++ "' returned an error for model '" ++ modelId ++
            "': This model's provider is at capacity right now. Please try a different model or try again shortly.")
      else
        .httpException 502
          ("Provider '" ++ provider ++ "' returned an error for model '" ++ modelId ++ "': " ++
            sanitizeProviderErrorForUser e.text 200)

/-- `_bind_byok`: is the call made with the customer's own key? -/
def bindByok (provider : String) : ChatProg Bool := exceptException (call (.bindByok provider)) fun _ => pure false

/-- `_call_provider`: the response, and whether the customer's own key was used. -/
def callProvider (provider modelId : String) (maxTokens : Option Nat) : ChatProg (ProviderResponse × Bool) := do
  let byok ← bindByok provider
  exceptException
    (do
      let response ← call (.callProvider provider modelId maxTokens)
      pure (response, byok))
    fun e => raise (providerHttpError provider modelId e)

/-- `_call_provider_stream` up to the first chunk. Only an open circuit breaker becomes an `HTTPException`. -/
def callProviderStream (provider modelId : String) (maxTokens : Option Nat) : ChatProg (ProviderStream × Bool) := do
  let byok ← bindByok provider
  exceptException
    (do
      let opened ← call (.openStream provider modelId maxTokens)
      match opened with
      | .ok stream => pure (stream, byok)
      | .error e => raise e)
    fun e =>
      match e with
      | .circuitBreaker p => raise (.httpException 503 ("Provider '" ++ p ++ "' is temporarily unavailable"))
      | e => raise e

/-! ## `ProviderSelector` -/

/-- The providers a model's registry entry makes us try: the primary one and two more. -/
def providersToTry (primary : ProviderConfig) (enabled : List ProviderConfig) : List ProviderConfig :=
  primary :: (enabled.filter fun p => p.name ≠ primary.name).take 2

/-- Those that are not circuit-broken. -/
def availableOnly (model : String) : List ProviderConfig → ChatProg (List ProviderConfig)
  | [] => pure []
  | p :: ps => do
    let available ← call (.isAvailable model p.name)
    let rest ← availableOnly model ps
    pure (if available then p :: rest else rest)

/-- One provider after the other until one answers; the text of the last error if none does. -/
def tryProviders {α : Type} (execute : ProviderConfig → ChatProg α) :
    String → List ProviderConfig → ChatProg (Except String (α × ProviderConfig))
  | lastError, [] => pure (.error ("All providers failed. Last error: " ++ lastError))
  | _, p :: ps =>
    exceptException
      (do
        let a ← execute p
        pure (.ok (a, p)))
      fun e => tryProviders execute e.text ps

def executeWithFailover {α : Type} (model : String) (enabled : List ProviderConfig)
    (execute : ProviderConfig → ChatProg α) : ChatProg (Except String (α × ProviderConfig)) :=
  match enabled.head? with
  | none => pure (.error ("No suitable provider found for " ++ model))
  | some primary => do
    let available ← availableOnly model (providersToTry primary enabled)
    match available with
    | [] => pure (.error ("All providers for " ++ model ++ " are currently unavailable (circuit breakers open)"))
    | p :: ps => tryProviders execute "None" (p :: ps)

/-! ## The handler -/

structure ChatHandler where
  config : ChatConfig
  apiKey : String
  requestId : String

/-- The provider that has answered, and with which key. -/
structure Served where
  response : ProviderResponse
  provider : String
  modelId : String
  byok : Bool

def byokRoutingFee (config : ChatConfig) (upstreamCost : ℚ) : ℚ :=
  if upstreamCost ≤ 0 then 0 else round6 (upstreamCost * max 0 (min (1 / 2) config.byokRoutingFeeRate))

def noTokens : TokenCounts := ⟨0, 0, 0, 0⟩

/-- Tokens are estimated from the texts if the provider has not counted any: four characters a token. -/
def TokenCounts.orEstimated (t : TokenCounts) (promptChars completionChars : Nat) : TokenCounts :=
  if t.prompt = 0 ∧ t.completion = 0 then
    { t with prompt := max 1 (promptChars / 4), completion := max 1 (completionChars / 4) }
  else t

namespace ChatHandler

variable (h : ChatHandler)

def initializeUserContext : ChatProg ChatUser :=
  exceptException
    (do
      let user ← call (.getUser h.apiKey)
      match user with
      | some user => pure user
      | none => raise (.httpException 401 "Invalid API key"))
    fun e => if e.httpStatus?.isSome then raise e else raise (.httpException 500 "Internal server error")

/-- `_check_credit_sufficiency`: the `max_tokens` to use. -/
def checkCredits (user : ChatUser) (r : InternalChatRequest) : ChatProg (Option Nat) :=
  call (.checkCreditSufficiency ⟨r.model, r.messages.tokens, r.maxTokens, 4096⟩ user.row.balance)

def applyByokFee (byok : Bool) (cost : ℚ) : ℚ := if byok then byokRoutingFee h.config cost else cost

def chargeMetadata (cost : ℚ) (model : String) (t : TokenCounts) : Dict :=
  [("model", .str model), ("total_tokens", .int (t.prompt + t.completion)), ("prompt_tokens", .int t.prompt),
    ("completion_tokens", .int t.completion), ("cost_usd", .float cost), ("request_id", .str h.requestId)]

/-- `_charge_user`: the deduction, then the usage record. -/
def chargeUser (user : ChatUser) (cost : ℚ) (model : String) (t : TokenCounts) : ChatProg Unit := do
  call (.deductCredits h.apiKey cost (h.chargeMetadata cost model t))
  let _ ← call (.recordUsage ⟨user.id, h.apiKey, model, t.prompt + t.completion, cost⟩)
  pure ()

/-- `_save_request_record` of a completed request. -/
def completedRow (user : ChatUser) (r : InternalChatRequest) (provider : String) (t : TokenCounts) (cost : CostSplit) :
    RequestRow where
  requestId := h.requestId
  modelName := r.model
  providerName := provider
  inputTokens := t.prompt
  outputTokens := t.completion
  status := "completed"
  costUsd := cost.total
  inputCostUsd := cost.input
  outputCostUsd := cost.output
  pricingSource := if 0 < cost.total then "calculated" else "free"
  userId := some user.id
  apiKeyId := user.keyId

/-- … and of a failed one. -/
def failedRow (user : Option ChatUser) (model provider : String) (t : TokenCounts) (text : String) : RequestRow where
  requestId := h.requestId
  modelName := model
  providerName := provider
  inputTokens := t.prompt
  outputTokens := t.completion
  status := "failed"
  errorMessage := some text
  userId := user.map ChatUser.id
  apiKeyId := user.bind ChatUser.keyId

def save (row : RequestRow) : ChatProg Unit := do
  let _ ← call (.saveRequest row)
  pure ()

/-- A part of the body of `process` or `process_stream`, under the `except` clause around that: the failed request is saved
    and the exception raised again. -/
def orSaveFailed {α : Type} (user : Option ChatUser) (model provider : String) (t : TokenCounts) (part : ChatProg α) :
    ChatProg α :=
  exceptException part fun e => do
    save (h.failedRow user model provider t e.text)
    raise e

/-- The bill: the cost of the served request, or the fee if it was served with the customer's key. -/
def bill (r : InternalChatRequest) (provider modelId : String) (byok : Bool) (t : TokenCounts) : ChatProg CostSplit := do
  let split ← call (.lossProofCostSplit r.model modelId t provider)
  pure { split with total := h.applyByokFee byok split.total }

/-- `request.provider or detect_provider_from_model_id(request.model) or "openrouter"`. -/
def detectedProvider (r : InternalChatRequest) : ChatProg String :=
  match r.provider.filter (· ≠ "") with
  | some provider => pure provider
  | none => do
    let detected ← call (.detectProvider r.model)
    pure ((detected.filter (· ≠ "")).getD "openrouter")

/-! ### One piece -/

/-- Call a provider: one of the registry's, or the one the request names. -/
def upstream (user : ChatUser) (r : InternalChatRequest) (maxTokens : Option Nat) : ChatProg Served := do
  let registered ← call (.enabledProviders r.model)
  match registered with
  | some enabled => do
    let result ← executeWithFailover r.model enabled fun p => callProvider p.name p.modelId maxTokens
    match result with
    | .ok ((response, byok), p) => pure ⟨response, p.name, p.modelId, byok⟩
    | .error text => do
      save (h.failedRow (some user) r.model "unknown" noTokens text)
      raise (.py ⟨.other, text⟩)
  | none => do
    let provider ← detectedProvider r
    let modelId ← call (.transformModelId r.model provider)
    let (response, byok) ← callProvider provider modelId maxTokens
    pure ⟨response, provider, modelId, byok⟩

/-- The message of the response. -/
def messageOf (response : ProviderResponse) : Except Exc ResponseMessage :=
  match response.choices with
  | none => .error (.valueError "Provider response missing choices")
  | some none => .error (.valueError "Provider response missing message")
  | some (some message) => .ok message

/-- Everything after the provider has answered: cost, charge, record, response. -/
def settle (user : ChatUser) (r : InternalChatRequest) (s : Served) : ChatProg InternalChatResponse :=
  match messageOf s.response with
  | .error e => raise e
  | .ok message => do
    let t := (ProviderUsage.counts s.response.usage).orEstimated r.messages.chars (message.content.getD "").length
    let cost ← h.bill r s.provider s.modelId s.byok t
    h.chargeUser user cost.total r.model t
    save (h.completedRow user r s.provider t cost)
    call (.task .buildResponse)
    pure
      { id := h.requestId, model := r.model, content := message.content.getD "", finishReason := message.finishReason,
        toolCalls := message.toolCalls, usage := ⟨t⟩, cost := cost, providerUsed := s.provider }

def process (r : InternalChatRequest) : ChatProg InternalChatResponse := do
  let user ← h.orSaveFailed none r.model "unknown" noTokens h.initializeUserContext
  h.orSaveFailed (some user) r.model "unknown" noTokens do
    let maxTokens ← checkCredits user r
    let served ← h.upstream user r maxTokens
    h.settle user r served

/-! ### A stream -/

/-- What the stream has shown so far: the tokens of the last usage, and how much text. -/
structure StreamState where
  counts : TokenCounts := noTokens
  contentChars : Nat := 0

def StreamState.after (st : StreamState) (delta : Option ChunkDelta) (usage : Option ProviderUsage) : StreamState where
  counts := if usage.isSome then ProviderUsage.counts usage else st.counts
  contentChars := st.contentChars + ((delta.bind ChunkDelta.content).getD "").length

/-- The chunk as it is passed on: it has a delta or a reason to finish. -/
def normalized (model : String) (created : Time) (st : StreamState) (c : ProviderChunk) :
    Option (InternalStreamChunk × StreamState) :=
  match c.choice with
  | none => none
  | some (delta, finishReason) =>
    if delta.isSome ∨ finishReason.isSome then
      let st' := st.after delta c.usage
      some
        ({ id := h.requestId, model := model, created := created, content := delta.bind ChunkDelta.content,
            role := delta.bind ChunkDelta.role, finishReason := finishReason,
            toolCalls := delta.bind ChunkDelta.toolCalls,
            usage := if 0 < st'.counts.prompt ∨ 0 < st'.counts.completion then some ⟨st'.counts⟩ else none },
          st')
    else none

/-- One turn of the streaming loop. Nothing is answered if the client has gone or the time is up. -/
def streamChunk (model : String) (st : StreamState) (c : ProviderChunk) : ChatProg (Option StreamState) := do
  call (.task .awaitChunk)
  let disconnected ← call .isDisconnected
  if disconnected then pure none
  else do
    let late ← call .pastDeadline
    if late then pure none
    else do
      let created ← call .now
      match h.normalized model created st c with
      | none => pure (some st)
      | some (chunk, st') => do
        call (.yieldChunk chunk)
        pure (some st')

/-- The streaming loop: the state it ends in, and the exception that ended it. -/
def streamChunks (model : String) (failure : Option Exc) :
    StreamState → List ProviderChunk → ChatProg (StreamState × Except ChatErr Unit)
  | st, [] =>
    match failure with
    | none => pure (st, .ok ())
    | some e => pure (st, .error (.exception e))
  | st, c :: cs => do
    let turn ← (h.streamChunk model st c).attempt
    match turn with
    | .ok (some st') => streamChunks model failure st' cs
    | .ok none => pure (st, .ok ())
    | .error e => pure (st, .error e)

/-- The provider and the `max_tokens` of a streamed request, and the provider's own model id if the registry knows it. -/
def selectForStream (user : ChatUser) (r : InternalChatRequest) :
    ChatProg (Option Nat × String × Option String) := do
  let maxTokens ← checkCredits user r
  let registered ← call (.enabledProviders r.model)
  match registered with
  | some enabled =>
    match enabled.head? with
    | some primary => pure (maxTokens, primary.name, some primary.modelId)
    | none => raise (.valueError ("No provider found for model " ++ r.model))
  | none => do
    let provider ← detectedProvider r
    pure (maxTokens, provider, none)

/-- Open the stream and pass its chunks on; the stream is closed in any case. -/
def consumeStream (r : InternalChatRequest) (provider modelId : String) (maxTokens : Option Nat) :
    ChatProg (Bool × StreamState × Except ChatErr Unit) :=
  Prog.andFinally
    (do
      let (stream, byok) ← callProviderStream provider modelId maxTokens
      let (st, ended) ← h.streamChunks r.model stream.failure {} stream.chunks
      pure (byok, st, ended))
    (quietly (call (.task .closeStream)))

/-- After the stream: cost, charge, record. -/
def settleStream (user : ChatUser) (r : InternalChatRequest) (provider modelId : String) (byok : Bool)
    (st : StreamState) : ChatProg Unit := do
  let t := st.counts.orEstimated r.messages.chars st.contentChars
  let cost ← h.bill r provider modelId byok t
  h.chargeUser user cost.total r.model t
  save (h.completedRow user r provider t cost)

/-- The provider's own id of the model. -/
def streamModelId (user : ChatUser) (r : InternalChatRequest) (provider : String) (registered : Option String) :
    ChatProg String :=
  match registered with
  | some modelId => pure modelId
  | none => h.orSaveFailed (some user) r.model provider noTokens (call (.transformModelId r.model provider))

/-- The stream of one provider, and what follows it. -/
def streamFrom (user : ChatUser) (r : InternalChatRequest) (provider modelId : String) (maxTokens : Option Nat) :
    ChatProg Unit := do
  let (byok, st, ended) ←
    h.orSaveFailed (some user) r.model provider noTokens (h.consumeStream r provider modelId maxTokens)
  h.orSaveFailed (some user) r.model provider st.counts
    (match ended with
    | .ok () => h.settleStream user r provider modelId byok st
    | .error e => throw e)

def processStream (r : InternalChatRequest) : ChatProg Unit := do
  let user ← h.orSaveFailed none r.model "unknown" noTokens h.initializeUserContext
  let (maxTokens, provider, registered) ←
    h.orSaveFailed (some user) r.model "unknown" noTokens (selectForStream user r)
  let modelId ← h.streamModelId user r provider registered
  h.streamFrom user r provider modelId maxTokens

end ChatHandler

end Gatewayz
