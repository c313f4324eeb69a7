import Gatewayz.Chat.Pricing
import Gatewayz.Exec.Dictionary

/-!
# `Chat.Parameters` — the parameters of a request on their way to a provider

A `ProxyRequest` goes through four lists of names before a provider sees its parameters: `prepare_upstream_request` collects
them into a dictionary, `OpenAIChatAdapter` reads that into an internal request, the handler makes keyword arguments of it,
and `filter_params_for_provider` takes out what the provider does not accept. Anonymous requests skip the last three.

JSON objects are values of a type `J`.
-/

namespace Gatewayz.Forwarding

open Exec.Dictionary

/-! ## Requests -/

inductive Param where
  | maxTokens | temperature | topP | frequencyPenalty | presencePenalty | stop | n | seed | user
  | tools | toolChoice | parallelToolCalls | responseFormat | logprobs | topLogprobs | logitBias
  | streamOptions | reasoningEffort
  deriving DecidableEq

def Param.name : Param → String
  | .maxTokens => "max_tokens"
  | .temperature => "temperature"
  | .topP => "top_p"
  | .frequencyPenalty => "frequency_penalty"
  | .presencePenalty => "presence_penalty"
  | .stop => "stop"
  | .n => "n"
  | .seed => "seed"
  | .user => "user"
  | .tools => "tools"
  | .toolChoice => "tool_choice"
  | .parallelToolCalls => "parallel_tool_calls"
  | .responseFormat => "response_format"
  | .logprobs => "logprobs"
  | .topLogprobs => "top_logprobs"
  | .logitBias => "logit_bias"
  | .streamOptions => "stream_options"
  | .reasoningEffort => "reasoning_effort"

structure StreamOptions where
  includeUsage : Option Bool := none

inductive ParamValue (J : Type) where
  | int (i : Int)
  | number (q : ℚ)
  | text (s : String)
  | texts (ss : List String)
  | flag (b : Bool)
  | object (j : J)
  | objects (js : List J)
  | bias (entries : List (String × Int))
  /-- The model object. -/
  | streamOptions (o : StreamOptions)
  /-- Its dump, a dictionary. -/
  | streamOptionsDict (o : StreamOptions)

/-- `ALLOWED_CHAT_ROLES`. -/
inductive ChatRole where
  | system | user | assistant | tool | function | developer

/-- The roles of an `InternalMessage`. -/
def ChatRole.isInternal : ChatRole → Bool
  | .system | .user | .assistant | .tool => true
  | .function | .developer => false

inductive MessageContent (J : Type) where
  | text (s : String)
  | parts (js : List J)

/-- A `Message`. A field that is absent and one that is null are the same; `extra` are fields that the schema does not name. -/
structure Message (J : Type) where
  role : ChatRole
  content : Option (MessageContent J) := none
  name : Option String := none
  toolCalls : Option (List J) := none
  toolCallId : Option String := none
  extra : List (String × J) := []

/-- A number with `ge` and `le`. -/
abbrev Between (lo hi : ℚ) := {q : ℚ // lo ≤ q ∧ q ≤ hi}

/-- `Literal["low", "medium", "high"]`. -/
inductive Effort where
  | low | medium | high

def Effort.text : Effort → String
  | .low => "low"
  | .medium => "medium"
  | .high => "high"

/-- `Field(default=1, ge=1)` -/
def oneAnswer : {i : Int // 1 ≤ i} := ⟨1, le_refl 1⟩

/-- `ProxyRequest`, without what only routing and search read. -/
structure ProxyRequest (J : Type) where
  model : String
  messages : List (Message J)
  maxTokens : Option Int := some 4096
  temperature : Option (Between 0 2) := none
  topP : Option (Between 0 1) := none
  n : Option {i : Int // 1 ≤ i} := some oneAnswer
  stop : Option (String ⊕ List String) := none
  frequencyPenalty : Option (Between (-2) 2) := none
  presencePenalty : Option (Between (-2) 2) := none
  stream : Option Bool := some false
  streamOptions : Option StreamOptions := none
  tools : Option (List J) := none
  toolChoice : Option (String ⊕ J) := none
  parallelToolCalls : Option Bool := some true
  responseFormat : Option J := none
  logprobs : Option Bool := none
  topLogprobs : Option {i : Int // 0 ≤ i ∧ i ≤ 20} := none
  logitBias : Option (List (String × Int)) := none
  seed : Option Int := none
  user : Option String := none
  reasoningEffort : Option Effort := none

abbrev Params (J : Type) := List (Param × ParamValue J)

variable {J : Type}

/-- `if req.stream`. -/
def ProxyRequest.streamed (req : ProxyRequest J) : Bool := req.stream.getD false

/-! ## `prepare_upstream_request` -/

def optionalNames : List Param :=
  [.maxTokens, .temperature, .topP, .frequencyPenalty, .presencePenalty, .stop, .n, .seed, .user, .tools, .toolChoice,
    .parallelToolCalls, .responseFormat, .logprobs, .topLogprobs, .logitBias, .streamOptions, .reasoningEffort]

/-- `getattr(req, name, None)`. -/
def ProxyRequest.attr (req : ProxyRequest J) : Param → Option (ParamValue J)
  | .maxTokens => req.maxTokens.map .int
  | .temperature => req.temperature.map fun q => .number q.val
  | .topP => req.topP.map fun q => .number q.val
  | .frequencyPenalty => req.frequencyPenalty.map fun q => .number q.val
  | .presencePenalty => req.presencePenalty.map fun q => .number q.val
  | .stop => req.stop.map (Sum.elim .text .texts)
  | .n => req.n.map fun i => .int i.val
  | .seed => req.seed.map .int
  | .user => req.user.map .text
  | .tools => req.tools.map .objects
  | .toolChoice => req.toolChoice.map (Sum.elim .text .object)
  | .parallelToolCalls => req.parallelToolCalls.map .flag
  | .responseFormat => req.responseFormat.map .object
  | .logprobs => req.logprobs.map .flag
  | .topLogprobs => req.topLogprobs.map fun i => .int i.val
  | .logitBias => req.logitBias.map .bias
  | .streamOptions => req.streamOptions.map .streamOptions
  | .reasoningEffort => req.reasoningEffort.map fun e => .text e.text

/-- `model_dump(exclude_none=True)`, of an object that has it. -/
def ParamValue.dump : ParamValue J → ParamValue J
  | .streamOptions o => .streamOptionsDict o
  | v => v

def hasTokenMinimum (model : String) : Bool := textContains "gemini" (lower model) || textContains "google" (lower model)

def ParamValue.atLeast16 : ParamValue J → ParamValue J
  | .int i => .int (if i < 16 then 16 else i)
  | v => v

def validateAndAdjustMaxTokens (optional : Params J) (model : String) : Params J :=
  if hasTokenMinimum model then adjust optional .maxTokens ParamValue.atLeast16 else optional

/-! Some parameters are legal only together with others. -/

def ProxyRequest.guardTools (req : ProxyRequest J) (optional : Params J) : Params J :=
  if req.tools.all List.isEmpty then pop (pop optional .toolChoice) .parallelToolCalls else optional

def ProxyRequest.guardStream (req : ProxyRequest J) (optional : Params J) : Params J :=
  if req.streamed then adjust optional .streamOptions ParamValue.dump else pop optional .streamOptions

def ProxyRequest.guardLogprobs (req : ProxyRequest J) (optional : Params J) : Params J :=
  if req.logprobs.getD false then optional else pop optional .topLogprobs

/-- The parameters that `prepare_upstream_request` hands on. -/
def prepareUpstreamRequest (req : ProxyRequest J) (originalModel : String) : Params J :=
  let optional := collect optionalNames req.attr
  validateAndAdjustMaxTokens (req.guardLogprobs (req.guardStream (req.guardTools optional))) originalModel

/-! ## `OpenAIChatAdapter` -/

/-- An `InternalMessage`. -/
structure InternalMessage (J : Type) where
  role : ChatRole
  known : role.isInternal = true
  content : Option (MessageContent J)
  name : Option String
  toolCallId : Option String
  toolCalls : Option (List J)

/-- Of the type and within the bounds of its field in `InternalChatRequest`. -/
def Param.admits : Param → ParamValue J → Bool
  | .temperature, .number q => 0 ≤ q && q ≤ 2
  | .maxTokens, .int i => 1 ≤ i
  | .topP, .number q => 0 ≤ q && q ≤ 1
  | .frequencyPenalty, .number q => -2 ≤ q && q ≤ 2
  | .presencePenalty, .number q => -2 ≤ q && q ≤ 2
  | .stop, .text _ => true
  | .stop, .texts _ => true
  | .tools, .objects _ => true
  | .toolChoice, .text _ => true
  | .toolChoice, .object _ => true
  | .parallelToolCalls, .flag _ => true
  | .responseFormat, .object _ => true
  | .n, .int i => 1 ≤ i
  | .seed, .int _ => true
  | .logprobs, .flag _ => true
  | .topLogprobs, .int i => 0 ≤ i && i ≤ 20
  | .logitBias, .bias _ => true
  | .streamOptions, .streamOptionsDict _ => true
  | .reasoningEffort, .text _ => true
  | .user, .text _ => true
  | _, _ => false

/-- An `InternalChatRequest`. -/
structure InternalChatRequest (J : Type) where
  messages : List (InternalMessage J)
  model : String
  temperature : Option (ParamValue J)
  maxTokens : Option (ParamValue J)
  topP : Option (ParamValue J)
  frequencyPenalty : Option (ParamValue J)
  presencePenalty : Option (ParamValue J)
  stop : Option (ParamValue J)
  stream : Bool
  tools : Option (ParamValue J)
  toolChoice : Option (ParamValue J)
  parallelToolCalls : Option (ParamValue J)
  responseFormat : Option (ParamValue J)
  n : Option (ParamValue J)
  seed : Option (ParamValue J)
  logprobs : Option (ParamValue J)
  topLogprobs : Option (ParamValue J)
  logitBias : Option (ParamValue J)
  streamOptions : Option (ParamValue J)
  reasoningEffort : Option (ParamValue J)
  user : Option (ParamValue J)

def toInternalMessage (m : Message J) : Option (InternalMessage J) :=
  if h : m.role.isInternal = true then some ⟨m.role, h, m.content, m.name, m.toolCallId, m.toolCalls⟩ else none

/-- `to_internal_request`: nothing if the validation fails. -/
def toInternalRequest (messages : List (Message J)) (model : String) (stream : Bool) (external : Params J) :
    Option (InternalChatRequest J) :=
  match messages.mapM toInternalMessage with
  | none => none
  | some internalMessages =>
    if external.all fun e => e.1.admits e.2 then
      some {
        messages := internalMessages
        model
        temperature := external.lookup .temperature
        maxTokens := external.lookup .maxTokens
        topP := external.lookup .topP
        frequencyPenalty := external.lookup .frequencyPenalty
        presencePenalty := external.lookup .presencePenalty
        stop := external.lookup .stop
        stream
        tools := external.lookup .tools
        toolChoice := external.lookup .toolChoice
        parallelToolCalls := external.lookup .parallelToolCalls
        responseFormat := external.lookup .responseFormat
        n := external.lookup .n
        seed := external.lookup .seed
        logprobs := external.lookup .logprobs
        topLogprobs := external.lookup .topLogprobs
        logitBias := external.lookup .logitBias
        streamOptions := external.lookup .streamOptions
        user := external.lookup .user
        reasoningEffort := external.lookup .reasoningEffort }
    else none

/-! ## `filter_params_for_provider` -/

def openaiCompatibleParams : List Param :=
  [.temperature, .maxTokens, .topP, .frequencyPenalty, .presencePenalty, .stop, .n, .seed, .user, .tools, .toolChoice,
    .parallelToolCalls, .responseFormat, .logprobs, .topLogprobs, .logitBias, .streamOptions]

def universalParams : List Param := [.temperature, .maxTokens, .topP, .stop]

def providerUnsupportedParams : List (String × List Param) :=
  [("anthropic", [.frequencyPenalty, .presencePenalty, .logitBias, .logprobs, .topLogprobs, .seed, .n]),
    ("google-vertex", [.frequencyPenalty, .presencePenalty, .logitBias, .logprobs, .topLogprobs, .parallelToolCalls, .n]),
    ("cerebras", [.logitBias, .logprobs, .topLogprobs, .parallelToolCalls]),
    ("groq", [.logitBias, .logprobs, .topLogprobs]),
    ("moonshot", [.logitBias, .logprobs, .topLogprobs, .n]),
    ("minimax", [.logitBias, .logprobs, .topLogprobs, .n]),
    ("xiaomi", [.logitBias, .logprobs, .topLogprobs, .n]),
    ("zai", [.logitBias, .logprobs, .topLogprobs, .n]),
    ("alibaba-cloud", [.logitBias, .logprobs, .topLogprobs]),
    ("deepseek", [.logitBias, .topLogprobs, .n])]

def minimalParamProviders : List String := []

def supportedParamsFor (provider : Option String) : List Param :=
  let slug := lower (String.ofList (strip (provider.getD "").toList))
  if minimalParamProviders.contains slug then universalParams
  else openaiCompatibleParams.filter fun p => !((providerUnsupportedParams.lookup slug).getD []).contains p

/-- `filter_params_for_provider`: what is forwarded, and the sorted names of what is dropped. -/
def filterParamsForProvider (provider : Option String) (params : Params J) : Params J × List Param :=
  (params.filter fun e => (supportedParamsFor provider).contains e.1,
    ((params.filter fun e => !(supportedParamsFor provider).contains e.1).map Prod.fst).mergeSort
      fun p q => p.name ≤ q.name)

/-! ## The handler -/

structure ProviderCall (J : Type) where
  messages : List (Message J)
  params : Params J

structure Account (J : Type) where
  config : PricingConfig
  prices : PriceBook
  credits : ℚ
  /-- `count_tokens` over the messages. -/
  inputTokens : List (Message J) → Nat
  modelMaxTokens : Nat := 4096

def Account.precheck (account : Account J) (modelId : String) (messages : List (Message J)) (maxTokens : Option Nat) :
    PrecheckRequest :=
  { modelId, inputTokens := account.inputTokens messages, maxTokens, modelMaxTokens := account.modelMaxTokens }

/-- `_check_credit_sufficiency`. -/
def Account.check (account : Account J) (modelId : String) (messages : List (Message J)) (maxTokens : Option Nat) :
    Except PyErr (Option Nat) :=
  checkCreditSufficiency account.config account.prices (account.precheck modelId messages maxTokens) account.credits

/-- The message as the handler writes it: a name, an id or a list of calls that is empty is left out. -/
def InternalMessage.toDict (m : InternalMessage J) : Message J where
  role := m.role
  content := m.content
  name := m.name.filter (· ≠ "")
  toolCallId := m.toolCallId.filter (· ≠ "")
  toolCalls := m.toolCalls.filter fun calls => !calls.isEmpty

def ParamValue.tokens? : ParamValue J → Option Nat
  | .int i => some i.toNat
  | _ => none

/-- The keyword arguments, in `process` as in `process_stream`. -/
def handlerKwargs (request : InternalChatRequest J) (effectiveMaxTokens : Option Nat) : Params J :=
  compact
    [(.temperature, request.temperature), (.maxTokens, effectiveMaxTokens.map fun k => .int k), (.topP, request.topP),
      (.frequencyPenalty, request.frequencyPenalty), (.presencePenalty, request.presencePenalty), (.stop, request.stop),
      (.tools, request.tools), (.toolChoice, request.toolChoice), (.parallelToolCalls, request.parallelToolCalls),
      (.responseFormat, request.responseFormat), (.n, request.n), (.seed, request.seed), (.logprobs, request.logprobs),
      (.topLogprobs, request.topLogprobs), (.logitBias, request.logitBias), (.streamOptions, request.streamOptions),
      (.user, request.user)]

/-- `_call_provider` and `_call_provider_stream`: the call, and the handler's `dropped_params` after it. -/
def callProvider (providerName : String) (messages : List (Message J)) (kwargs : Params J) (droppedParams : List Param) :
    ProviderCall J × List Param :=
  let (filtered, dropped) := filterParamsForProvider (some providerName) kwargs
  (⟨messages, filtered⟩, if dropped = [] then droppedParams else dropped)

/-- `process` and `process_stream` up to the call of a provider. -/
def handle (account : Account J) (providerName : String) (request : InternalChatRequest J) :
    Except PyErr (ProviderCall J × List Param) := do
  let messages := request.messages.map InternalMessage.toDict
  let effectiveMaxTokens ← account.check request.model messages (request.maxTokens.bind ParamValue.tokens?)
  return callProvider providerName messages (handlerKwargs request effectiveMaxTokens) []

/-! ## The two paths -/

inductive NotForwarded where
  | validationError
  | refused (e : PyErr)

/-- A signed-in request, to a provider of its chain. -/
def authenticatedForward (account : Account J) (providerName : String) (req : ProxyRequest J) (originalModel : String) :
    Except NotForwarded (ProviderCall J × List Param) :=
  match toInternalRequest req.messages originalModel req.streamed (prepareUpstreamRequest req originalModel) with
  | none => .error .validationError
  | some request =>
    match handle account providerName request with
    | .ok call => .ok call
    | .error e => .error (.refused e)

/-- An anonymous request: the dictionary goes out as it is. -/
def anonymousForward (req : ProxyRequest J) (originalModel : String) : ProviderCall J :=
  ⟨req.messages, prepareUpstreamRequest req originalModel⟩

end Gatewayz.Forwarding
