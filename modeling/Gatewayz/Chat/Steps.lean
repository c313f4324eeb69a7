import Gatewayz.Billing.Users
import Gatewayz.Chat.Errors
import Gatewayz.Chat.Pricing
import Gatewayz.Exec.Generator

/-!
# `Chat.Steps` — the data of a chat request, and the steps that leave its own code

A chat request is a program over **steps**: calls of other services, of a provider, of the database; and what it hands to the
client. `ChatStmt` lists them and `ChatRes` says what each answers. Any step can raise, and a step that is awaited can be
cancelled; that is the link's doing (`Outcome`).

What a step answers comes from an **environment** (`ChatEnv`), an answer for every step at every moment, except where the
code is modelled: the prices decide what the pre-check and the cost functions answer, and `deductCredits` is run on the
database.
-/

namespace Gatewayz

open Exec

/-! ## Users, limits -/

/-- What `get_user` answers: the row, and what comes with the key. -/
structure ChatUser where
  id : Int
  row : User
  keyId : Option Int := none
  environmentTag : String := "live"

/-- What `validate_trial_access` answers. -/
structure TrialStatus where
  isValid : Bool
  isTrial : Bool := false
  isExpired : Bool := false
  error : String := "Access denied"

/-- What `enforce_plan_limits` answers. -/
structure PlanCheck where
  allowed : Bool
  reason : String := "unknown"

/-- What `check_rate_limit` answers. -/
structure RateLimitResult where
  allowed : Bool
  reason : Option String := none

/-! ## Requests and responses -/

/-- A list of messages, as far as it is counted: its characters, and the estimate of its tokens. -/
structure ChatMessages where
  chars : Nat
  tokens : Nat
  deriving DecidableEq

/-- `ProxyRequest`. -/
structure ChatRequest where
  model : String
  messages : ChatMessages
  stream : Bool := false
  maxTokens : Option Nat := none
  sessionId : Option Int := none
  provider : Option String := none
  deriving DecidableEq

structure InternalChatRequest where
  messages : ChatMessages
  model : String
  stream : Bool
  maxTokens : Option Nat
  provider : Option String

/-- What `prepare_upstream_request` answers. -/
structure UpstreamPlan where
  model : String
  provider : String
  providerChain : List String
  maxTokens : Option Nat

structure ProviderConfig where
  name : String
  modelId : String
  deriving DecidableEq

/-- The usage a provider reports, with cached tokens in any of three spellings. -/
structure ProviderUsage where
  promptTokens : Nat := 0
  completionTokens : Nat := 0
  cacheReadInputTokens : Nat := 0
  cacheCreationInputTokens : Nat := 0
  /-- `prompt_tokens_details.cached_tokens`. -/
  detailsCachedTokens : Nat := 0
  cachedTokens : Nat := 0
  deriving DecidableEq

/-- `extract_cache_tokens`: read and written. -/
def extractCacheTokens (usage : Option ProviderUsage) : Nat × Nat :=
  match usage with
  | none => (0, 0)
  | some u =>
    let read := if u.cacheReadInputTokens = 0 then u.detailsCachedTokens else u.cacheReadInputTokens
    (if read = 0 then u.cachedTokens else read, u.cacheCreationInputTokens)

/-- The counts that a usage stands for. -/
def ProviderUsage.counts (u : Option ProviderUsage) : TokenCounts where
  prompt := (u.map ProviderUsage.promptTokens).getD 0
  completion := (u.map ProviderUsage.completionTokens).getD 0
  cacheRead := (extractCacheTokens u).1
  cacheWrite := (extractCacheTokens u).2

structure ResponseMessage where
  content : Option String
  finishReason : Option String := some "stop"
  toolCalls : Option String := none

/-- A provider's response: no choices, or a first one with or without a message. -/
structure ProviderResponse where
  usage : Option ProviderUsage
  choices : Option (Option ResponseMessage)

/-- The `delta` of a streamed choice. -/
structure ChunkDelta where
  content : Option String := none
  role : Option String := none
  toolCalls : Option String := none
  deriving DecidableEq

/-- A chunk of a provider's stream: the first choice, if any, and a usage. -/
structure ProviderChunk where
  choice : Option (Option ChunkDelta × Option String)
  usage : Option ProviderUsage := none
  deriving DecidableEq

/-- What a provider streams: its chunks, and how it ends. -/
structure ProviderStream where
  chunks : List ProviderChunk
  failure : Option Exc := none
  deriving DecidableEq

structure InternalUsage where
  counts : TokenCounts
  deriving DecidableEq

def InternalUsage.totalTokens (u : InternalUsage) : Nat := u.counts.prompt + u.counts.completion

structure InternalChatResponse where
  id : String
  model : String
  content : String
  finishReason : Option String
  toolCalls : Option String
  usage : InternalUsage
  cost : CostSplit
  providerUsed : String

structure InternalStreamChunk where
  id : String
  model : String
  created : Time
  content : Option String
  role : Option String
  finishReason : Option String
  toolCalls : Option String
  usage : Option InternalUsage
  deriving DecidableEq

/-- A server-sent event: `data: …` and two newlines. -/
inductive SseEvent where
  | chunk (c : InternalStreamChunk)
  | error (message : String)
  /-- `data: [DONE]`. -/
  | done
  deriving DecidableEq

/-! ## Records -/

/-- A row of `chat_completion_requests`. -/
structure RequestRow where
  requestId : String
  modelName : String
  providerName : String
  inputTokens : Nat
  outputTokens : Nat
  status : String
  costUsd : ℚ := 0
  inputCostUsd : ℚ := 0
  outputCostUsd : ℚ := 0
  pricingSource : String := "calculated"
  errorMessage : Option String := none
  userId : Option Int := none
  apiKeyId : Option Int := none
  deriving DecidableEq

/-- The row as `save_chat_completion_request_with_cost` stores it. -/
def RequestRow.stored (row : RequestRow) : RequestRow :=
  { row with
    costUsd := round6 row.costUsd
    inputCostUsd := round6 row.inputCostUsd
    outputCostUsd := round6 row.outputCostUsd }

/-- A row of `usage_records`. -/
structure UsageRow where
  userId : Int
  apiKey : String
  model : String
  tokensUsed : Nat
  cost : ℚ
  deriving DecidableEq

/-- What `record_shadow_settlement` is given. -/
structure Settlement where
  ref : String
  userId : Int
  cost : ℚ
  allowance : ℚ
  purchased : ℚ
  deriving DecidableEq

/-! ## Steps -/

inductive ChatTask where
  -- gates of the route
  | modelPricingGate
  | subscriptionStatusGate
  | rateLimitAlert
  | resolveModelRouting
  -- inside an attempt
  | toInternalRequest
  | buildResponse
  | fromInternalResponse
  | traceInference
  | inferenceMetrics
  | errorMetric
  | awaitChunk
  | closeStream
  -- after the upstream call
  | trackTrialUsage
  | logTrialTransaction
  | updateRateLimitUsage
  | incrementApiKeyUsage
  | inferenceMetricsAndHealth
  | logActivity
  | persistConversationTurn
  | saveFailedRequest
  -- the server's: status and headers are on their way, the body comes next
  | startResponse
  deriving DecidableEq

/-- The steps of a chat request. -/
inductive ChatStmt where
  | task (t : ChatTask)
  | newRequestId
  | now
  -- gates
  | resolveAutoRoutedModel (model : String)
  | getUser (apiKey : String)
  | getApiKeyId (apiKey : String)
  | validateTrialAccess (apiKey : String)
  | isFreeModel (model : String)
  | enforcePlanLimits (userId : Int) (tokensRequested : Nat) (environmentTag : String)
  -- the rate limiter's
  | cachedRateLimit (apiKey : String) (tokensUsed : Nat)
  | isAdminKey (apiKey : String)
  | concurrencyAvailable (apiKey : String)
  | burstAvailable (apiKey : String) (consume : Bool)
  | windowRefusal (apiKey : String) (tokensUsed : Nat) (countRequest : Bool)
  | incrementConcurrentRequests (apiKey : String)
  | releaseConcurrency (apiKey : String)
  -- prices and credits
  | estimateAndCheckCredits (r : PrecheckRequest) (userCredits : ℚ)
  | checkCreditSufficiency (r : PrecheckRequest) (userCredits : ℚ)
  | getModelPricing (model : String)
  | lossProofCostSplit (requested served : String) (t : TokenCounts) (provider : String)
  | calculateCostAsync (model : String) (promptTokens completionTokens : Nat)
  | deductCredits (apiKey : String) (cost : ℚ) (metadata : Dict)
  -- the upstream request
  | injectConversationHistory (sessionId : Option Int) (messages : ChatMessages)
  | webSearch (messages : ChatMessages)
  | prepareUpstreamRequest (r : ChatRequest)
  | enabledProviders (model : String)
  | isAvailable (model provider : String)
  | detectProvider (model : String)
  | transformModelId (model provider : String)
  | bindByok (provider : String)
  | callProvider (provider modelId : String) (maxTokens : Option Nat)
  | openStream (provider modelId : String) (maxTokens : Option Nat)
  | isDisconnected
  | pastDeadline
  -- records
  | recordUsage (row : UsageRow)
  | saveRequest (row : RequestRow)
  | recordShadowSettlement (s : Settlement)
  -- what the generators yield: the handler's, the adapter's, and what goes to the client
  | yieldChunk (c : InternalStreamChunk)
  | yieldSse (e : SseEvent)
  | send (e : SseEvent)
  deriving DecidableEq

/-- The answer to a step. -/
@[reducible] def ChatRes : ChatStmt → Type
  | .task _ => Unit
  | .newRequestId => String
  | .now => Time
  | .resolveAutoRoutedModel _ => String
  | .getUser _ => Option ChatUser
  | .getApiKeyId _ => Option Int
  | .validateTrialAccess _ => TrialStatus
  | .isFreeModel _ => Bool
  | .enforcePlanLimits _ _ _ => PlanCheck
  | .cachedRateLimit _ _ => Option RateLimitResult
  | .isAdminKey _ => Bool
  | .concurrencyAvailable _ => Bool
  | .burstAvailable _ _ => Bool
  | .windowRefusal _ _ _ => Option String
  | .incrementConcurrentRequests _ => Unit
  | .releaseConcurrency _ => Unit
  | .estimateAndCheckCredits _ _ => PrecheckResult
  | .checkCreditSufficiency _ _ => Option Nat
  | .getModelPricing _ => ModelPricing
  | .lossProofCostSplit _ _ _ _ => CostSplit
  | .calculateCostAsync _ _ _ => ℚ
  | .deductCredits _ _ _ => Unit
  | .injectConversationHistory _ _ => ChatMessages × Option Int
  | .webSearch _ => ChatMessages
  | .prepareUpstreamRequest _ => UpstreamPlan
  | .enabledProviders _ => Option (List ProviderConfig)
  | .isAvailable _ _ => Bool
  | .detectProvider _ => Option String
  | .transformModelId _ _ => String
  | .bindByok _ => Bool
  | .callProvider _ _ _ => ProviderResponse
  | .openStream _ _ _ => Except Exc ProviderStream
  | .isDisconnected => Bool
  | .pastDeadline => Bool
  | .recordUsage _ => Bool
  | .saveRequest _ => Bool
  | .recordShadowSettlement _ => Bool
  | .yieldChunk _ => Unit
  | .yieldSse _ => Unit
  | .send _ => Unit

abbrev ChatProg := Prog ChatErr ChatStmt ChatRes

def call (s : ChatStmt) : ChatProg (ChatRes s) := Prog.stmt s

def raise {α : Type} (e : Exc) : ChatProg α := throw (.exception e)

/-- `except Exception as e`. -/
def exceptException {α : Type} (p : ChatProg α) (handler : Exc → ChatProg α) : ChatProg α :=
  tryCatch p fun
    | .exception e => handler e
    | e => throw e

/-- `try: … except Exception: log`. -/
def quietly (p : ChatProg Unit) : ChatProg Unit := exceptException p fun _ => pure ()

/-- `if b: p`. -/
def onlyIf (b : Bool) (p : ChatProg Unit) : ChatProg Unit := if b then p else pure ()

/-! ## Environments -/

structure ChatConfig where
  pricing : PricingConfig := {}
  byokRoutingFeeRate : ℚ := 0
  creditLedgerShadowEnabled : Bool := false
  /-- `DISABLE_RATE_LIMITING`, or an internal live test. -/
  disableRateLimiting : Bool := false

/-- What everything else does: the answer to every step at every moment, the prices and the clock of the moment, and
    what the link to the database does with each statement of a deduction. -/
structure ChatEnv where
  config : ChatConfig := {}
  answers : Nat → (s : ChatStmt) → ChatRes s
  prices : Nat → PriceBook
  clock : Nat → Time := fun _ => 0
  link : Nat → List (Outcome PyErr) := fun _ => []

/-- The database, and how many steps have been taken. -/
structure ChatWorld where
  db : World
  moment : Nat := 0

def ChatWorld.tick (w : ChatWorld) : ChatWorld := { w with moment := w.moment + 1 }

/-- An exception of the billing code, raised in the chat code. -/
def raised {α : Type} : Except PyErr α → Except ChatErr α
  | .ok a => .ok a
  | .error e => .error (.exception e)

section Exec

variable (env : ChatEnv)

/-- The run of `deduct_credits` that the handler's call is. -/
def ChatEnv.deduct (apiKey : String) (cost : ℚ) (metadata : Dict) (w : ChatWorld) :
    Except PyErr Unit × List (Outcome PyErr) × World :=
  (deductCredits (env.clock w.moment) apiKey cost (some metadata) none).run exec (env.link w.moment) w.db

/-- What a step does. -/
def chatExec : (s : ChatStmt) → ChatWorld → Except ChatErr (ChatRes s) × ChatWorld
  | .estimateAndCheckCredits r credits, w =>
    (raised (estimateAndCheckCredits env.config.pricing (env.prices w.moment) r credits), w.tick)
  | .checkCreditSufficiency r credits, w =>
    (raised (checkCreditSufficiency env.config.pricing (env.prices w.moment) r credits), w.tick)
  | .getModelPricing model, w => (raised (env.prices w.moment model), w.tick)
  | .lossProofCostSplit requested served t provider, w =>
    (raised (lossProofCostSplit env.config.pricing (env.prices w.moment) requested (some served) t (some provider)),
      w.tick)
  | .calculateCostAsync model p c, w =>
    (raised (calculateCost env.config.pricing (env.prices w.moment) model p c), w.tick)
  | .deductCredits apiKey cost metadata, w =>
    (raised (env.deduct apiKey cost metadata w).1, { w.tick with db := (env.deduct apiKey cost metadata w).2.2 })
  | s, w => (.ok (env.answers w.moment s), w.tick)

end Exec

end Gatewayz
