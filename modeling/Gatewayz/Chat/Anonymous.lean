import Gatewayz.Chat.Steps

/-!
# `Chat.Anonymous` — `chat_completions` without an API key

An anonymous request is let in by the client's IP: a few requests a day. It does not go through `ChatInferenceHandler`; the
route calls the providers itself, and `stream_generator` passes a stream on.

* the usage store and `validate_anonymous_request`, `record_anonymous_request` — `services/anonymous_rate_limiter.py`;
* `dispatchStreaming`, `dispatchNonStreaming` — the anonymous branches of `routes/chat_dispatch.py`;
* `streamGenerator` — `routes/chat_streaming.py`, and the task it leaves behind, `handlers/post_processing.py`;
* `serve` — the route, and the server that iterates the body of a stream.
-/

namespace Gatewayz.Anon

open Exec

/-! ## The client -/

/-- What the server knows of the client: two headers, and the peer. -/
structure Peer where
  forwardedFor : String := ""
  realIp : String := ""
  /-- `request.client.host`, if there is a `request.client`. -/
  host : Option String := none

structure Request where
  model : String
  messages : ChatMessages
  stream : Bool := false
  peer : Option Peer

/-- The client's IP, as the route resolves it. -/
def clientIp : Option Peer → String
  | none => "unknown"
  | some p =>
    let forwarded :=
      if p.forwardedFor = "" then "unknown" else String.ofList (strip (p.forwardedFor.toList.takeWhile (· ≠ ',')))
    let ip := if forwarded = "" then p.realIp else forwarded
    if ip = "" then
      match p.host with
      | some host => if host = "" then "unknown" else host
      | none => ip
    else ip

/-! ## The usage store -/

/-- `datetime.now(UTC).strftime("%Y-%m-%d")`. -/
abbrev Date := Nat × Nat × Nat

def dateOf (now : Time) : Date := civilFromDays (now / 86400)

/-- `anon_limit:{ip_hash}:{today}`. -/
structure UsageKey where
  ipHash : String
  today : Date
  deriving DecidableEq

structure RedisCount where
  count : Nat
  expiresAt : Option Time

/-- The usage store: Redis, if there is a client for it, and the cache in memory. -/
structure UsageStore where
  redis : Option (UsageKey → Option RedisCount)
  memory : String → Option (Date × Nat) := fun _ => none
  lastCleanup : Time := 0

/-- `GET`. -/
def redisGet (redis : UsageKey → Option RedisCount) (key : UsageKey) (now : Time) : Option Nat :=
  (redis key).bind fun c => if c.expiresAt.all (now < ·) then some c.count else none

/-- `INCR` and `EXPIRE`, in one transaction. -/
def redisIncr (redis : UsageKey → Option RedisCount) (key : UsageKey) (now : Time) :
    Nat × (UsageKey → Option RedisCount) :=
  let count := (redisGet redis key now).getD 0 + 1
  (count, Function.update redis key (some ⟨count, some (now + 86400)⟩))

/-- `_cleanup_memory_cache`: every hour, entries of other days go. -/
def cleanupMemoryCache (store : UsageStore) (now : Time) : UsageStore :=
  if now - store.lastCleanup < 3600 then store
  else
    { store with
      memory := fun ipHash => (store.memory ipHash).filter fun entry => entry.1 = dateOf now
      lastCleanup := now }

def memoryCount (store : UsageStore) (key : UsageKey) (now : Time) : Nat × UsageStore :=
  let store := cleanupMemoryCache store now
  (((store.memory key.ipHash).filter fun entry => entry.1 = key.today).elim 0 Prod.snd, store)

def memoryIncrement (store : UsageStore) (key : UsageKey) (now : Time) : Nat × UsageStore :=
  let (count, store) := memoryCount store key now
  (count + 1, { store with memory := Function.update store.memory key.ipHash (some (key.today, count + 1)) })

/-! ## Steps -/

structure Processed where
  content : String
  promptTokens : Nat := 0
  completionTokens : Nat := 0

structure NormalizedChunk where
  sse : String
  content : String

/-- A chunk of a stream: what the normalizer makes of it, if anything, and its usage. -/
structure Chunk where
  normalized : Option NormalizedChunk
  /-- An event of Anthropic's that stands for nothing. -/
  control : Bool := false
  usage : Option (Nat × Nat × Nat) := none

/-- What `prepare_upstream_request` answers. -/
structure Plan where
  provider : String
  providerChain : List String

inductive Event where
  | chunk (c : NormalizedChunk)
  | error (errorType : String)
  | done

inductive Task where
  | modelPricingGate
  | resolveModelRouting
  | webSearch
  | inferenceMetricsAndHealth
  | captureModelHealth
  | captureProviderError
  | traceStreamCompletion
  | saveFailedRequest
  | saveRequest
  -- of the stream
  | awaitChunk
  | awaitEnd
  | closeStream
  | trackTimeToFirstChunk
  -- the server's: status and headers are on their way, the body comes next
  | startResponse

/-- The steps of an anonymous request. -/
inductive Stmt where
  | task (t : Task)
  | now
  -- the usage store's
  | redisClient
  | redisGet (key : UsageKey)
  | redisIncr (key : UsageKey)
  | memoryCount (key : UsageKey)
  | memoryIncrement (key : UsageKey)
  -- models and prices
  | isFreeModel (model : String)
  | freeModels
  | estimateTokens (content : String) (messages : ChatMessages)
  | calculateCost (model : String) (promptTokens completionTokens : Nat)
  | getModelPricing (model : String)
  -- the upstream request
  | prepareUpstreamRequest (model : String)
  | transformModelId (model provider : String)
  | request (provider model : String)
  | openStream (provider model : String)
  | extendedChain (provider model : String)
  | isDisconnected
  | pastDeadline
  -- what goes to the client
  | send (e : Event)
  | respond (r : Processed)

/-- The answer to a step. -/
@[reducible] def Res : Stmt → Type
  | .task _ => Unit
  | .now => Time
  | .redisClient => Bool
  | .redisGet _ => Option Nat
  | .redisIncr _ => Nat
  | .memoryCount _ => Nat
  | .memoryIncrement _ => Nat
  | .isFreeModel _ => Bool
  | .freeModels => List String
  | .estimateTokens _ _ => Nat × Nat
  | .calculateCost _ _ _ => ℚ
  | .getModelPricing _ => ModelPricing
  | .prepareUpstreamRequest _ => Plan
  | .transformModelId _ _ => String
  | .request _ _ => Processed
  | .openStream _ _ => List Chunk
  | .extendedChain _ _ => List String
  | .isDisconnected => Bool
  | .pastDeadline => Bool
  | .send _ => Unit
  | .respond _ => Unit

abbrev AnonProg := Prog ChatErr Stmt Res

def call (s : Stmt) : AnonProg (Res s) := Prog.stmt s

def raise {α : Type} (e : Exc) : AnonProg α := throw (.exception e)

/-- `except Exception as e`. -/
def exceptException {α : Type} (p : AnonProg α) (handler : Exc → AnonProg α) : AnonProg α :=
  tryCatch p fun
    | .exception e => handler e
    | e => throw e

/-- `try: … except Exception: log`. -/
def quietly (p : AnonProg Unit) : AnonProg Unit := exceptException p fun _ => pure ()

/-- `if b: p`. -/
def onlyIf (b : Prop) [Decidable b] (p : AnonProg Unit) : AnonProg Unit := if b then p else pure ()

structure Config where
  anonymousEnabled : Bool := true
  /-- `_hash_ip`: the first 32 digits of a SHA-256. -/
  hashIp : String → String
  /-- How many providers there are: the chain is not extended more often. -/
  providers : Nat := 0

/-! ## The limiter -/

def anonymousDailyLimit : Nat := 3

def anonymousAllowedModels : List String :=
  ["google/gemini-2.0-flash-exp:free", "google/gemma-2-9b-it:free", "meta-llama/llama-3.2-3b-instruct:free",
    "meta-llama/llama-3.1-8b-instruct:free", "mistralai/mistral-7b-instruct:free", "huggingfaceh4/zephyr-7b-beta:free",
    "openchat/openchat-7b:free", "nousresearch/nous-hermes-llama2-13b:free", "arcee-ai/trinity-mini:free"]

/-- What `validate_anonymous_request` answers. -/
structure Validation where
  allowed : Bool
  reason : Option String := none
  modelAllowed : Bool := true

section Limiter

variable (config : Config)

def usageKey (ip : String) : AnonProg UsageKey := do
  let now ← call .now
  pure ⟨config.hashIp ip, dateOf now⟩

def getAnonymousUsageCount (ip : String) : AnonProg Nat := do
  let key ← usageKey config ip
  let client ← call .redisClient
  if client then
    exceptException
      (do
        let count ← call (.redisGet key)
        pure (count.getD 0))
      fun _ => call (.memoryCount key)
  else call (.memoryCount key)

def incrementAnonymousUsage (ip : String) : AnonProg Nat := do
  let key ← usageKey config ip
  let client ← call .redisClient
  if client then exceptException (call (.redisIncr key)) fun _ => call (.memoryIncrement key)
  else call (.memoryIncrement key)

/-- `check_anonymous_rate_limit`: the reason to refuse. -/
def checkAnonymousRateLimit (ip : String) : AnonProg (Option String) := do
  let count ← getAnonymousUsageCount config ip
  if anonymousDailyLimit ≤ count then
    pure (some ("Anonymous daily limit exceeded (" ++ toString anonymousDailyLimit ++
      " requests/day). Please sign up for an account to continue."))
  else pure none

def isModelAllowedForAnonymous (model : String) : AnonProg Bool :=
  if model = "" then pure false
  else exceptException (call (.isFreeModel model)) fun _ => pure ((anonymousAllowedModels.map lower).contains (lower model))

/-- `get_anonymous_allowed_models_sample`. -/
def anonymousAllowedModelsSample (n : Nat) : AnonProg (List String) :=
  exceptException
    (do
      let live ← call .freeModels
      pure (if live.isEmpty then anonymousAllowedModels.take n else live.take n))
    fun _ => pure (anonymousAllowedModels.take n)

def validateAnonymousRequest (ip model : String) : AnonProg Validation := do
  let modelAllowed ← isModelAllowedForAnonymous model
  if !modelAllowed then do
    let sample ← anonymousAllowedModelsSample 3
    pure ⟨false, some ("Model '" ++ model ++ "' is not available for anonymous users. Anonymous access is limited to free models: " ++
      ", ".intercalate sample ++ "... Please sign up for an account to access this model."), false⟩
  else do
    let refusal ← checkAnonymousRateLimit config ip
    match refusal with
    | some reason => pure ⟨false, some reason, true⟩
    | none => pure ⟨true, none, true⟩

/-- `record_anonymous_request`: the requests that remain. -/
def recordAnonymousRequest (ip : String) : AnonProg Nat := do
  let count ← incrementAnonymousUsage config ip
  pure (anonymousDailyLimit - count)

end Limiter

/-! ## A stream -/

/-- What `stream_generator` has seen. -/
structure Seen where
  chunks : Nat := 0
  dropped : Nat := 0
  content : String := ""
  prompt : Nat := 0
  completion : Nat := 0
  total : Nat := 0

/-- The state after a chunk. -/
def Seen.after (st : Seen) (c : Chunk) : Seen where
  chunks := st.chunks + 1
  dropped := st.dropped + if c.normalized.isNone ∧ ¬ c.control then 1 else 0
  content := st.content ++ (c.normalized.map NormalizedChunk.content).getD ""
  prompt := (c.usage.map fun u => u.1).getD st.prompt
  completion := (c.usage.map fun u => u.2.1).getD st.completion
  total := (c.usage.map fun u => u.2.2).getD st.total

def apologize (errorType : String) : AnonProg Unit := do
  call (.send (.error errorType))
  call (.send .done)

/-- A chunk is passed on if the normalizer makes something of it. -/
def passOn (c : Chunk) : AnonProg Unit :=
  match c.normalized with
  | some normalized => call (.send (.chunk normalized))
  | none => pure ()

/-- The loop over the chunks; nothing is answered if the watchdog has ended the stream. -/
def streamLoop : Seen → List Chunk → AnonProg (Option Seen)
  | st, [] => do
    call (.task .awaitEnd)
    pure (some st)
  | st, c :: cs => do
    call (.task .awaitChunk)
    let disconnected ← call .isDisconnected
    if disconnected then pure (some st)
    else do
      let late ← call .pastDeadline
      if late then do
        apologize "stream_timeout"
        pure none
      else do
        onlyIf (st.chunks = 0) (call (.task .trackTimeToFirstChunk))
        passOn c
        streamLoop (st.after c) cs

section Generator

variable (config : Config) (messages : ChatMessages)

/-- The anonymous branch of `_process_stream_completion_background`. -/
def streamCompletion (ip model : String) (prompt completion : Nat) : AnonProg Unit :=
  quietly do
    let _ ← call (.calculateCost model prompt completion)
    call (.task .traceStreamCompletion)
    onlyIf (ip ≠ "") do
      quietly do
        let _ ← recordAnonymousRequest config ip
        pure ()
    let _ ← call (.calculateCost model prompt completion)
    quietly (call (.task .inferenceMetricsAndHealth))
    quietly (call (.task .captureModelHealth))

/-- The tokens of a stream: those that the provider has reported, or estimates. -/
def countedTokens (st : Seen) : AnonProg (Nat × Nat) :=
  if st.total = 0 ∧ st.prompt = 0 ∧ st.completion = 0 then call (.estimateTokens st.content messages)
  else pure (st.prompt, st.completion)

/-- What `stream_generator` does after the last chunk. -/
def afterStream (ip model : String) (st : Seen) : AnonProg Unit := do
  onlyIf (0 < st.dropped ∧ st.chunks < 2 * st.dropped) (call (.send (.error "stream_normalization_warning")))
  if st.chunks = 0 then apologize "empty_stream_error"
  else do
    let (prompt, completion) ← countedTokens messages st
    call (.send .done)
    -- `asyncio.create_task`
    streamCompletion config ip model prompt completion

/-- `stream_generator` for an anonymous client. -/
def streamGenerator (ip model : String) (stream : List Chunk) : AnonProg Unit :=
  exceptException
    (do
      let seen ← Prog.andFinally (streamLoop {} stream) (quietly (call (.task .closeStream)))
      match seen with
      | some st => afterStream config messages ip model st
      | none => pure ())
    fun _ => do
      quietly (call (.task .captureProviderError))
      quietly (call (.task .saveFailedRequest))
      apologize "stream_error"

end Generator

/-! ## The dispatch -/

section Dispatch

variable (config : Config) (messages : ChatMessages)

/-- `provider` is a local variable of `dispatch_streaming` that has no value yet. -/
def unboundProvider : Exc := .py ⟨.other, "cannot access local variable 'provider' where it is not associated with a value"⟩

def isPaymentRequired (e : Exc) : Bool := e.httpStatus? = some 402

/-- The loop of `dispatch_streaming`: the body of the response. -/
def dispatchStreaming (ip model : String) : List String → Option Exc → AnonProg (AnonProg Unit)
  | [], last => raise (last.getD (.httpException 502 "Upstream error"))
  | provider :: rest, _ => do
    let attemptModel ← call (.transformModelId model provider)
    exceptException
      (do
        let stream ← call (.openStream provider attemptModel)
        pure (streamGenerator config messages ip attemptModel stream))
      fun e => do
        quietly (call (.task .captureProviderError))
        let httpExc := mapProviderError provider attemptModel e
        if rest ≠ [] ∧ shouldFailover httpExc then dispatchStreaming ip model rest (some httpExc)
        else if isPaymentRequired httpExc ∧ rest = [] then raise unboundProvider
        else raise httpExc

/-- The loop of `dispatch_non_streaming`; `extend` goes on with more providers after the last one. -/
def requestLoop (model : String) (extend : Exc → AnonProg (Processed × String × String)) :
    List String → Option Exc → AnonProg (Processed × String × String)
  | [], last => raise (last.getD (.httpException 502 "Upstream error"))
  | provider :: rest, _ => do
    let attemptModel ← call (.transformModelId model provider)
    exceptException
      (do
        let processed ← call (.request provider attemptModel)
        let _ ← call (.calculateCost attemptModel processed.promptTokens processed.completionTokens)
        pure (processed, provider, attemptModel))
      fun e => do
        let httpExc := mapProviderError provider attemptModel e
        if rest ≠ [] ∧ shouldFailover httpExc then requestLoop model extend rest (some httpExc)
        else if isPaymentRequired httpExc ∧ rest = [] then extend httpExc
        else raise httpExc

/-- `dispatch_non_streaming`: after a 402 at the end of the chain, other providers are tried. Each round adds one at least, so
    there are no more rounds than providers. -/
def dispatchNonStreaming (model provider : String) : Nat → List String → List String → AnonProg (Processed × String × String)
  | 0, _, chain => requestLoop model raise chain none
  | n + 1, tried, chain =>
    requestLoop model
      (fun httpExc => do
        let extended ← call (.extendedChain provider model)
        let newProviders := extended.filter fun p => !(tried.contains p)
        if newProviders = [] then raise httpExc
        else dispatchNonStreaming model provider n (tried ++ newProviders) newProviders)
      chain none

end Dispatch

/-! ## The route -/

inductive Response where
  | json (r : Processed)
  /-- An SSE stream; its body runs when the server iterates it. -/
  | stream (body : AnonProg Unit)

section Route

variable (config : Config) (req : Request)

/-- The `except` clauses of the route. -/
def underRouteHandlers {α : Type} (part : AnonProg α) : AnonProg α :=
  exceptException part fun e => do
    quietly (call (.task .saveFailedRequest))
    if e.httpStatus?.isSome then raise e else raise (.httpException 500 "Internal server error")

/-- 403 or 429 for a request that is refused; the 403 comes with a few models. -/
def refuse (v : Validation) : AnonProg Response :=
  if v.modelAllowed then raise (.httpException 429 (v.reason.getD ""))
  else do
    let _ ← anonymousAllowedModelsSample 5
    raise (.httpException 403 (v.reason.getD ""))

/-- Prices for the record: nothing if there are none. -/
def analyticsPricing (model : String) : AnonProg Unit :=
  exceptException
    (do
      let _ ← call (.getModelPricing model)
      pure ())
    fun e => if e.isValueError then pure () else raise e

/-- What follows a response in one piece. -/
def finish (processed : Processed) (model : String) : AnonProg Processed := do
  let _ ← call (.calculateCost model processed.promptTokens processed.completionTokens)
  quietly (call (.task .inferenceMetricsAndHealth))
  analyticsPricing model
  pure processed

/-- `chat_completions`, once the request is let in. -/
def dispatch (ip : String) : AnonProg Response := do
  call (.task .resolveModelRouting)
  let plan ← call (.prepareUpstreamRequest req.model)
  quietly (call (.task .webSearch))
  if req.stream then do
    let body ← dispatchStreaming config req.messages ip req.model plan.providerChain none
    pure (.stream body)
  else do
    let (processed, _, model) ←
      dispatchNonStreaming req.model plan.provider config.providers plan.providerChain plan.providerChain
    let processed ← finish processed model
    pure (.json processed)

def chatCompletions : AnonProg Response := do
  if !config.anonymousEnabled then
    raise (.httpException 401 "Authentication required. Provide a valid API key in the Authorization header.")
  else do
    call (.task .modelPricingGate)
    underRouteHandlers do
      let v ← validateAnonymousRequest config (clientIp req.peer) req.model
      if !v.allowed then refuse v else dispatch config req (clientIp req.peer)

/-- A request served: the route, and then its response, or the body of a streamed one if the server gets to iterate it. -/
def serve : AnonProg Unit := do
  let response ← chatCompletions config req
  match response with
  | .json r => do
    call (.respond r)
    -- the background tasks of the response
    quietly (call (.task .captureModelHealth))
    quietly (call (.task .saveRequest))
  | .stream body => do
    call (.task .startResponse)
    body

end Route

/-! ## Runs -/

structure Env where
  answers : Nat → (s : Stmt) → Res s
  clock : Nat → Time

structure World where
  store : UsageStore
  events : List Event := []
  response : Option Processed := none
  moment : Nat := 0

def World.tick (w : World) : World := { w with moment := w.moment + 1 }

/-- What a step does. -/
def step (env : Env) : (s : Stmt) → World → Except ChatErr (Res s) × World
  | .now, w => (.ok (env.clock w.moment), w.tick)
  | .redisClient, w => (.ok w.store.redis.isSome, w.tick)
  | .redisGet key, w => (.ok (w.store.redis.bind fun redis => redisGet redis key (env.clock w.moment)), w.tick)
  | .redisIncr key, w =>
    match w.store.redis with
    | some redis =>
      (.ok (redisIncr redis key (env.clock w.moment)).1,
        { w.tick with store := { w.store with redis := some (redisIncr redis key (env.clock w.moment)).2 } })
    | none => (.ok 0, w.tick)
  | .memoryCount key, w =>
    (.ok (memoryCount w.store key (env.clock w.moment)).1,
      { w.tick with store := (memoryCount w.store key (env.clock w.moment)).2 })
  | .memoryIncrement key, w =>
    (.ok (memoryIncrement w.store key (env.clock w.moment)).1,
      { w.tick with store := (memoryIncrement w.store key (env.clock w.moment)).2 })
  | .send e, w => (.ok (), { w.tick with events := w.events ++ [e] })
  | .respond r, w => (.ok (), { w.tick with response := some r })
  | s, w => (.ok (env.answers w.moment s), w.tick)

def Event.isChunk : Event → Bool
  | .chunk _ => true
  | _ => false

/-- The client has got something of a provider's. -/
def World.served (w : World) : Bool := w.response.isSome || w.events.any Event.isChunk

end Gatewayz.Anon
