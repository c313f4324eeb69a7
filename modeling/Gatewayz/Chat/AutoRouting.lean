import Gatewayz.Chat.AgentLoop
import Gatewayz.Chat.Routers

/-!
# `Chat.AutoRouting` — a model for a request that names a router

`resolve_auto_routed_model` of `routes/chat_routing.py`, with `services/task_classifier.py`, `services/capability_requirements.py` and the
lookups of `db/routing_policies.py` and `services/routing_preferences.py`. The selection itself is `selectModel`.

What the databases, the catalog and the classifier answer is any value, or an exception. The industry of a user is left out: it goes into
the classifier's prompt only.
-/

namespace Gatewayz.AutoRouting

open AgentLoop (Exn typeError orElse)
open ModelSelector (Candidate Signals selectModel)
open StoredPrices (Json)

/-! ## Requests and answers -/

/-- A part of a message, if it is a dictionary: its `type` and its `text`, where they are texts. -/
structure Part where
  type : Option String
  text : Option String

inductive Content where
  | text (s : String)
  | parts (items : List (Option Part))
  | other

structure Message where
  role : String
  content : Content

structure AutoRequest where
  model : String
  messages : List Message
  tools : List Json := []
  autoRouting : Option Bool := none

structure Caller where
  isAnonymous : Bool := false
  apiKey : Option String := none
  conversationId : Option String := none

/-- A value of the classifier's reply. `NaN` and the infinities are no JSON, but are read. -/
inductive Value where
  | json (v : Json)
  | float (x : PyFloat)

/-- What `json.loads` makes of a text. -/
inductive Loaded where
  | dict (fields : List (String × Value))
  | notDict
  /-- A `ValueError`. -/
  | invalid
  /-- A `RecursionError`. -/
  | tooDeep

inductive Reply where
  | timeout
  | failed (text : String)
  | content (raw : Option String)

structure Lookups where
  autoRoutingEnabled : Bool
  /-- `auto_routing_enabled` in the row of the key. -/
  policy : Except Exn (Option Json)
  /-- The `settings` of the user of the key. -/
  settings : Except Exn (Option Json)
  reply : Reply
  loads : String → Loaded
  fetch : List String → Except Exn (List Candidate)
  signals : Signals
  hash : String → String → Nat

/-! ## Capabilities -/

/-- `_has_image_content`, of one message. -/
def Message.hasImage (m : Message) : Bool :=
  match m.content with
  | .parts items => items.any fun part => (part.bind Part.type).any (· ∈ ["image", "image_url"])
  | _ => false

/-- `extract_required_capabilities`, the names. -/
def extractRequiredCapabilities (messages : List Message) (tools : List Json) : List String :=
  (if tools.isEmpty then [] else ["tools"]) ++ if messages.any Message.hasImage then ["vision"] else []

/-! ## The classifier -/

/-- The text of a message in `_last_user_text`, if it is the one. -/
def Message.userText (m : Message) : Option String :=
  if m.role ≠ "user" then none
  else
    match m.content with
    | .text s => some s
    | .parts items =>
      let texts := items.filterMap fun part => part.bind Part.text
      if texts.isEmpty then none else some (" ".intercalate texts)
    | .other => none

def lastUserText (messages : List Message) : String := (messages.reverse.findSome? Message.userText).getD ""

def taskTypes : List String :=
  ["simple_qa", "complex_reasoning", "code_generation", "code_review", "creative_writing", "summarization", "translation",
    "math_calculation", "data_analysis", "conversation", "tool_use", "unknown"]

/-- `value in known`, for a frozen set: it is hashed, which lists and dictionaries cannot be. -/
def memberOr (known : List String) (default : String) : Json → Except Exn String
  | .scalar (.str s) => .ok (if s ∈ known then s else default)
  | .scalar _ => .ok default
  | value => .error (typeError ("unhashable type: '" ++ AgentLoop.typeName value ++ "'"))

/-- `max(0.0, min(1.0, confidence))`; a comparison with `NaN` is false. -/
def clamp : PyFloat → ℚ
  | .finite q => if q < 1 then (if 0 < q then q else 0) else 1
  | .infinite negative => if negative then 0 else 1
  | .nan => 1

def taskTypeOf (fields : List (String × Value)) : Except Exn String :=
  match (fields.lookup "task_type").getD (.json .null) with
  | .json v => memberOr taskTypes "unknown" v
  | .float _ => .ok "unknown"

/-- The confidence. `TypeError` and `ValueError` of `float` are caught. -/
def confidenceOf (fields : List (String × Value)) : Except Exn ℚ :=
  match (fields.lookup "confidence").getD (.float (.finite 0)) with
  | .float x => .ok (clamp x)
  | .json v =>
    match AgentLoop.toFloat v with
    | .ok x => .ok (clamp x)
    | .error e => if e.family = .typeOrValueError then .ok 0 else .error e

def needsReasoning (fields : List (String × Value)) : Bool :=
  match fields.lookup "needs_reasoning" with
  | some (.json v) => v.truthy
  | some (.float _) => true
  | none => false

def parseClassification : Loaded → Except Exn (String × Bool × ℚ)
  | .tooDeep => .error ⟨.exception, "RecursionError", "maximum recursion depth exceeded"⟩
  | .dict fields => do
    let taskType ← taskTypeOf fields
    let confidence ← confidenceOf fields
    return (taskType, needsReasoning fields, confidence)
  | _ => .ok ("unknown", false, 0)

structure TaskClassification where
  taskType : String := "unknown"
  capabilityNames : List String
  confidence : ℚ := 0
  error : Option String := none

def classifyTask (l : Lookups) (messages : List Message) (tools : List Json) : Except Exn TaskClassification :=
  let names := extractRequiredCapabilities messages tools
  if lastUserText messages = "" then .ok { capabilityNames := names, error := some "no_user_text" }
  else
    match l.reply with
    | .timeout => .ok { capabilityNames := names, error := some "timeout" }
    | .failed text => .ok { capabilityNames := names, error := some text }
    | .content raw => do
      let (taskType, reasoning, confidence) ← parseClassification (l.loads (raw.getD ""))
      return { taskType, capabilityNames := if reasoning then names ++ ["reasoning"] else names, confidence }

/-! ## Lookups -/

/-- `is_auto_routing_disabled_for_key`; a lookup that fails finds no row. -/
def isAutoRoutingDisabled (l : Lookups) (apiKey : Option String) : Bool :=
  match apiKey.filter (· ≠ ""), l.policy with
  | some _, .ok (some (.scalar (.bool false))) => true
  | _, _ => false

/-- The mode of `get_routing_preferences_for_key`, in its `try`. -/
def routingMode (l : Lookups) : Except Exn String := do
  match ← l.settings with
  | none => return "auto"
  | some settings =>
    let mode ← AgentLoop.get (orElse settings (.dict [])) "routing_mode"
    memberOr ["price", "quality", "fast", "auto"] "auto" mode

/-- `get_routing_preferences_for_key`: whatever fails, there is the default. -/
def routingModeForKey (l : Lookups) (apiKey : Option String) : String :=
  match apiKey.filter (· ≠ ""), routingMode l with
  | some _, .ok mode => mode
  | _, _ => "auto"

def resolveAdaptiveMode (taskType : String) : String :=
  if taskType ∈ ["code_generation", "code_review", "complex_reasoning", "data_analysis", "math_calculation"] then "quality"
  else if taskType ∈ ["simple_qa", "conversation", "summarization", "translation"] then "fast"
  else "balanced"

/-- `get_candidate_models`: whatever fails, there are none. -/
def getCandidateModels (l : Lookups) (names : List String) : List Candidate :=
  match l.fetch names with
  | .ok candidates => candidates
  | .error _ => []

/-! ## `resolve_auto_routed_model` -/

def isRouterModel (model : String) : Bool :=
  let m := strip (lower model).toList
  model ≠ "" && (["auto", "gatewayz/auto", "gatewayz-router"].any (·.toList = m) ||
    ["router", "auto:", "gatewayz-general", "gatewayz-code"].any (·.toList.isPrefixOf m))

/-- One of the settings says no. -/
def narrowed (l : Lookups) (caller : Caller) (req : AutoRequest) : Bool :=
  caller.isAnonymous || !isRouterModel req.model || !l.autoRoutingEnabled || req.autoRouting = some false ||
    isAutoRoutingDisabled l caller.apiKey

inductive Failure where
  | http (status : Nat) (detail : String)
  | raised (e : Exn)

/-- `_raise_auto_routing_failed` -/
def autoRoutingFailed : Failure :=
  .http 400 "Unable to automatically select a model for this request. Specify an explicit model id (e.g. 'openai/gpt-4o-mini')."

/-- `resolve_auto_routed_model`, and the request that it leaves. -/
def resolveAutoRoutedModel (l : Lookups) (caller : Caller) (req : AutoRequest) : Except Failure AutoRequest :=
  if narrowed l caller req then .ok req
  else
    match classifyTask l req.messages req.tools with
    | .error e => .error (.raised e)
    | .ok classification =>
      if classification.error.isSome then .error autoRoutingFailed
      else
        let mode := routingModeForKey l caller.apiKey
        let resolvedMode := if mode ≠ "auto" then mode else resolveAdaptiveMode classification.taskType
        let selection := selectModel l.hash l.signals ⟨classification.taskType, resolvedMode, caller.conversationId, []⟩
          (getCandidateModels l classification.capabilityNames)
        match selection.modelId.filter (· ≠ "") with
        | none => .error autoRoutingFailed
        | some modelId => .ok { req with model := modelId }

end Gatewayz.AutoRouting
