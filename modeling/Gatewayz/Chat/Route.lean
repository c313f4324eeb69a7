import Gatewayz.Chat.Dispatch

/-!
# `Chat.Route` — `routes/chat.py`: `chat_completions` for a signed-in user

The first rate-limit check takes a slot of the key's concurrency limit. A response in one piece gives it back on the way
out, the `except` clauses do if the route raises, and the body of a streamed response gives it back when it ends.

The body of the route is one `try`. Here it comes in three parts, cut where the slot is taken and where it is given back, each
under the `except` clauses with what the flag `concurrency_slot_held` is there.

* `checkRateLimit` — `services/rate_limiting.py`: the result cache, the admin bypass, the three limits, and the slot;
* `handleCreditsAndUsage` — `services/billing/credit_handler.py` for a request that is already charged;
* `chatCompletions`, and `serve`: the route and what the server does with its response.
-/

namespace Gatewayz

open Exec

/-! ## The rate limiter -/

/-- `SlidingWindowRateLimiter.check_rate_limit`: it fails open. -/
def slidingWindowCheck (apiKey : String) (tokensUsed : Nat) (acquireConcurrency countRequest : Bool) :
    ChatProg RateLimitResult :=
  exceptException
    (do
      let free ← call (.concurrencyAvailable apiKey)
      if !free then pure ⟨false, some "Concurrency limit exceeded"⟩
      else do
        let burst ← call (.burstAvailable apiKey countRequest)
        if !burst then pure ⟨false, some "Burst limit exceeded"⟩
        else do
          let refusal ← call (.windowRefusal apiKey tokensUsed countRequest)
          match refusal with
          | some reason => pure ⟨false, some reason⟩
          | none => do
            onlyIf acquireConcurrency (call (.incrementConcurrentRequests apiKey))
            pure ⟨true, none⟩)
    fun _ => pure ⟨true, some "Rate limit check failed, allowing request"⟩

/-- The check behind the cache: nothing limits an admin's key. -/
def uncachedRateLimit (apiKey : String) (tokensUsed : Nat) (acquireConcurrency countRequest : Bool) :
    ChatProg RateLimitResult := do
  let admin ← exceptException (call (.isAdminKey apiKey)) fun _ => pure false
  if admin then pure ⟨true, some "Admin tier - unlimited access"⟩
  else slidingWindowCheck apiKey tokensUsed acquireConcurrency countRequest

/-- `RateLimitManager.check_rate_limit`. Only checks that take a slot and count the request use the cache of results. -/
def checkRateLimit (apiKey : String) (tokensUsed : Nat) (acquireConcurrency countRequest : Bool) :
    ChatProg RateLimitResult :=
  if acquireConcurrency && countRequest then do
    let cached ← call (.cachedRateLimit apiKey tokensUsed)
    match cached with
    | some result => pure result
    | none => uncachedRateLimit apiKey tokensUsed acquireConcurrency countRequest
  else uncachedRateLimit apiKey tokensUsed acquireConcurrency countRequest

/-- `check_rate_limit`, with an alert and 429 if it refuses. -/
def requireRateLimit (apiKey : String) (tokensUsed : Nat) (acquireConcurrency countRequest : Bool) : ChatProg Unit := do
  let limit ← checkRateLimit apiKey tokensUsed acquireConcurrency countRequest
  if limit.allowed then pure ()
  else do
    call (.task .rateLimitAlert)
    raise (.httpException 429 ("Rate limit exceeded: " ++ limit.reason.getD "None"))

/-! ## Credits and usage after the response -/

/-- The indicators of a subscription that override a stale trial flag. -/
def hasSubscriptionIndicators (row : User) : Bool :=
  row.stripeSubscriptionId.isSome || row.stripeCustomerId.isSome || ["pro", "max", "admin"].contains (row.tier.getD "") ||
    0 < row.allowance

/-- `handle_credits_and_usage(…, already_charged=True)`: the cost by the model, the limiter's count and the shadow ledger. -/
def handleCreditsAndUsage (config : ChatConfig) (user : ChatUser) (model : String) (trial : TrialStatus)
    (usage : InternalUsage) (requestId : String) : ChatProg ℚ := do
  let cost ← call (.calculateCostAsync model usage.counts.prompt usage.counts.completion)
  if trial.isTrial ∧ ¬ hasSubscriptionIndicators user.row then do
    quietly (call (.task .logTrialTransaction))
    pure cost
  else do
    quietly (call (.task .updateRateLimitUsage))
    onlyIf (config.creditLedgerShadowEnabled ∧ 1 / 1000000 ≤ cost ∧ user.row.tier ≠ some "admin") do
      quietly do
        let _ ← call (.recordShadowSettlement ⟨requestId, user.id, cost, user.row.allowance, user.row.purchased⟩)
        pure ()
    pure cost

/-! ## The route -/

inductive ChatResponse where
  | json (response : InternalChatResponse) (costUsd : ℚ)
  /-- An SSE stream; its body runs when the server iterates it. -/
  | stream (body : ChatProg Unit)

def estimateMessageTokens (messages : ChatMessages) (maxTokens : Option Nat) : Nat :=
  (maxTokens.filter (0 < ·)).getD (if messages.tokens = 0 then 256 else messages.tokens)

def planLimitExceeded (reason : String) : Exc := .httpException 429 ("Plan limit exceeded: " ++ reason)

/-- `enforce_plan_limits`, and 429 if it refuses. -/
def requirePlanLimits (user : ChatUser) (tokens : Nat) : ChatProg Unit := do
  let plan ← call (.enforcePlanLimits user.id tokens user.environmentTag)
  if plan.allowed then pure () else raise (planLimitExceeded plan.reason)

/-- `validate_trial_with_free_model_bypass`: an invalid trial may use a free model. -/
def validateTrialWithFreeModelBypass (trial : TrialStatus) (model : String) : ChatProg TrialStatus := do
  let modelIsFree ← call (.isFreeModel model)
  if trial.isValid then pure trial
  else if trial.isTrial then
    if modelIsFree then pure { trial with isValid := true }
    else if trial.isExpired then raise (.httpException 403 trial.error)
    else raise (.httpException 429 trial.error)
  else raise (.httpException 403 trial.error)

/-- The `except` clauses of the route around a part of its body; `slotHeld` is `concurrency_slot_held` in that part. -/
def underRouteHandlers {α : Type} (apiKey : String) (slotHeld : Bool) (part : ChatProg α) : ChatProg α :=
  exceptException part fun e => do
    onlyIf slotHeld (quietly (call (.releaseConcurrency apiKey)))
    quietly (call (.task .saveFailedRequest))
    if e.httpStatus?.isSome then raise e else raise (.httpException 500 "Internal server error")

structure Admission where
  user : ChatUser
  apiKeyId : Option Int
  trial : TrialStatus
  /-- Was there a rate-limit check? Then it has admitted the request. -/
  checked : Bool

section Route

variable (config : ChatConfig) (req : ChatRequest) (apiKey : String)

/-- Who the user is, and whether plan and rate limits admit the request. -/
def admission (model : String) : ChatProg Admission := do
  let found ← call (.getUser apiKey)
  let apiKeyId ← call (.getApiKeyId apiKey)
  let trial ← call (.validateTrialAccess apiKey)
  match found with
  | none => raise (.httpException 401 "Invalid API key")
  | some user => do
    call (.task .subscriptionStatusGate)
    let trial ← validateTrialWithFreeModelBypass trial model
    -- `_ensure_plan_capacity`, and the same check again
    requirePlanLimits user 0
    requirePlanLimits user 0
    if trial.isTrial ∨ config.disableRateLimiting then pure ⟨user, apiKeyId, trial, false⟩
    else do
      requireRateLimit apiKey 0 true true
      pure ⟨user, apiKeyId, trial, true⟩

/-- The credit check of a paying user, for a model that is not free. -/
def requireCredits (user : ChatUser) (model : String) : ChatProg Unit := do
  let modelIsFree ← call (.isFreeModel model)
  if modelIsFree then pure ()
  else if user.row.balance ≤ 0 then raise insufficientCreditsForReservation
  else do
    let result ← call (.estimateAndCheckCredits ⟨model, req.messages.tokens, req.maxTokens, 4096⟩ user.row.balance)
    match result with
    | .insufficient _ => raise insufficientCreditsForReservation
    | _ => pure ()

/-- A model that must not be sold at the default rates is refused before anybody is called. -/
def requirePricing (model : String) : ChatProg Unit :=
  exceptException
    (do
      let _ ← call (.getModelPricing model)
      pure ())
    fun e =>
      if e.isValueError ∧
          (textContains "Pricing data not available" e.text ∨ textContains "HIGH_VALUE_MODEL_PRICING_MISSING" e.text) then
        raise (.httpException 422 e.text)
      else raise e

/-- Who is not on a trial must have credits, and the model a price. -/
def requireFunds (a : Admission) (model : String) : ChatProg Unit :=
  if a.trial.isTrial then pure ()
  else do
    requireCredits req a.user model
    requirePricing model

/-- The second part up to the dispatch: the other checks, and the upstream request. -/
def prepare (a : Admission) (model : String) : ChatProg (UpstreamPlan × ChatMessages × Option Int) := do
  requireFunds req a model
  requirePlanLimits a.user 0
  let (messages, sessionId) ←
    exceptException (call (.injectConversationHistory req.sessionId req.messages)) fun _ =>
      pure (req.messages, req.sessionId)
  requirePlanLimits a.user (estimateMessageTokens messages req.maxTokens)
  call (.task .resolveModelRouting)
  let plan ← call (.prepareUpstreamRequest { req with model := model })
  let messages ← exceptException (call (.webSearch messages)) fun _ => pure messages
  pure (plan, messages, sessionId)

/-- What the second part ends in: a stream, or the response and what the third part needs. -/
inductive Dispatched where
  | stream (body : ChatProg Unit)
  | response (processed : InternalChatResponse) (sessionId : Option Int)

/-- The second part: checks and dispatch; after a response in one piece the plan limits once more, and the slot goes back. -/
def dispatch (a : Admission) (model : String) : ChatProg Dispatched := do
  let (plan, messages, sessionId) ← prepare req a model
  let d : DispatchParams := ⟨config, apiKey, model, messages, plan.maxTokens⟩
  if req.stream then pure (.stream (authStreamWithFailover d plan.providerChain a.checked))
  else do
    let processed ← dispatchNonStreaming d plan.providerChain
    requirePlanLimits a.user processed.usage.totalTokens
    onlyIf (a.trial.isTrial && !a.trial.isExpired) (quietly (call (.task .trackTrialUsage)))
    onlyIf a.checked (quietly (call (.releaseConcurrency apiKey)))
    pure (.response processed sessionId)

/-- The cost of input and output for the record: the plain price, nothing if there is none. -/
def analyticsCosts (model : String) (usage : InternalUsage) : ChatProg (ℚ × ℚ) :=
  exceptException
    (do
      let pricing ← call (.getModelPricing model)
      pure (usage.counts.prompt * pricing.prompt, usage.counts.completion * pricing.completion))
    fun e => if e.isValueError then pure (0, 0) else raise e

/-- The route's own record of the request. -/
def routeRow (a : Admission) (requestId : String) (processed : InternalChatResponse) (cost input output : ℚ) :
    RequestRow where
  requestId := requestId
  modelName := processed.model
  providerName := processed.providerUsed
  inputTokens := processed.usage.counts.prompt
  outputTokens := processed.usage.counts.completion
  status := "completed"
  costUsd := cost
  inputCostUsd := input
  outputCostUsd := output
  userId := some a.user.id
  apiKeyId := a.apiKeyId

/-- The third part: tokens are accounted for, costs and records written. The cost goes into the response. -/
def finish (a : Admission) (requestId : String) (processed : InternalChatResponse) (sessionId : Option Int) :
    ChatProg ℚ := do
  -- for accounting only: no slot is taken, no request counted
  onlyIf a.checked (requireRateLimit apiKey processed.usage.totalTokens false false)
  let cost ← handleCreditsAndUsage config a.user processed.model a.trial processed.usage requestId
  quietly (call (.task .incrementApiKeyUsage))
  quietly (call (.task .inferenceMetricsAndHealth))
  quietly (call (.task .logActivity))
  onlyIf sessionId.isSome (quietly (call (.task .persistConversationTurn)))
  let (input, output) ← analyticsCosts processed.model processed.usage
  let _ ← call (.saveRequest (routeRow a requestId processed cost input output))
  pure cost

def chatCompletions : ChatProg ChatResponse := do
  let requestId ← call .newRequestId
  let model ← call (.resolveAutoRoutedModel req.model)
  call (.task .modelPricingGate)
  let a ← underRouteHandlers apiKey false (admission config apiKey model)
  let dispatched ← underRouteHandlers apiKey a.checked (dispatch config req apiKey a model)
  match dispatched with
  | .stream body => pure (.stream body)
  | .response processed sessionId => do
    let cost ← underRouteHandlers apiKey false (finish config apiKey a requestId processed sessionId)
    pure (.json processed cost)

inductive ClientAnswer where
  | response (r : InternalChatResponse) (costUsd : ℚ)
  | streamed

/-- A request served: the route, and then the body of a streamed response, if the server gets to iterate it. -/
def serve : ChatProg ClientAnswer := do
  let response ← chatCompletions config req apiKey
  match response with
  | .json r cost => pure (.response r cost)
  | .stream body => do
    call (.task .startResponse)
    body
    pure .streamed

end Route

end Gatewayz
