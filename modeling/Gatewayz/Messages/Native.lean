import Gatewayz.Messages.Translate

/-!
# `Messages.Native` — what Anthropic answers, as a completion

`services/providers/anthropic_native_client.py`. A message of Anthropic's becomes an OpenAI completion in one piece
(`anthropicResponseToOpenai`), or chunk by chunk (`generate`). The dictionaries are records of what `get` reads, defaults included.
-/

namespace Gatewayz.Native

open Exec (BlockEvent)

/-! ## Messages -/

/-- A content block: a text, a tool use, or one of another type. -/
inductive Block (J : Type) where
  | text (text : String)
  | toolUse (id name : String) (input : J)
  | other (type : String)

/-- `usage`, where what is missing is nothing. -/
structure Usage where
  inputTokens : ℕ := 0
  outputTokens : ℕ := 0
  cacheCreationInputTokens : ℕ := 0
  cacheReadInputTokens : ℕ := 0
  deriving DecidableEq

structure Message (J : Type) where
  id : String
  model : String
  content : List (Block J)
  stopReason : Option String
  usage : Usage

def stopReasonMap : List (String × String) :=
  [("end_turn", "stop"), ("stop_sequence", "stop"), ("max_tokens", "length"), ("tool_use", "tool_calls"), ("pause_turn", "stop"),
    ("refusal", "content_filter")]

/-- `_STOP_REASON_MAP.get(reason, "stop")` -/
def finishReasonOf (reason : String) : String := (stopReasonMap.lookup reason).getD "stop"

/-- `openai_usage`, with the `cached_tokens` of its `prompt_tokens_details`. -/
structure OpenaiUsage extends WireUsage where
  cachedTokens : Option ℕ := none

/-- The completion: its id and model, and its one choice. -/
structure Response where
  id : String
  model : String
  content : Option String
  toolCalls : List ToolCall
  finishReason : String
  usage : OpenaiUsage

def Block.textPart {J : Type} : Block J → Option String
  | .text t => some t
  | .toolUse _ _ _ | .other _ => none

/-- `openai_usage`: the prompt has all three classes of input. -/
def openaiUsage (u : Usage) : OpenaiUsage where
  promptTokens := some (u.inputTokens + u.cacheCreationInputTokens + u.cacheReadInputTokens)
  completionTokens := some u.outputTokens
  totalTokens := some (u.inputTokens + u.cacheCreationInputTokens + u.cacheReadInputTokens + u.outputTokens)
  cacheCreationInputTokens :=
    if u.cacheCreationInputTokens ≠ 0 ∨ u.cacheReadInputTokens ≠ 0 then some u.cacheCreationInputTokens else none
  cacheReadInputTokens :=
    if u.cacheCreationInputTokens ≠ 0 ∨ u.cacheReadInputTokens ≠ 0 then some u.cacheReadInputTokens else none
  cachedTokens :=
    if u.cacheCreationInputTokens ≠ 0 ∨ u.cacheReadInputTokens ≠ 0 then some u.cacheReadInputTokens else none

section Response

variable {J : Type} (json : JsonText J)

def Block.toolCall : Block J → Option ToolCall
  | .toolUse id name input => some ⟨id, name, json.dumps input⟩
  | .text _ | .other _ => none

def anthropicResponseToOpenai (data : Message J) : Response where
  id := data.id
  model := data.model
  content :=
    if data.content.filterMap Block.textPart = [] then none else some (concat (data.content.filterMap Block.textPart))
  toolCalls := data.content.filterMap (Block.toolCall json)
  finishReason := finishReasonOf (data.stopReason.getD "")
  usage := openaiUsage data.usage

end Response

/-- The completion as it is read again: a content of `None` is no text. -/
def Response.read (r : Response) : Completion where
  id := r.id
  model := r.model
  content := r.content.getD ""
  toolCalls := r.toolCalls
  finishReason := r.finishReason
  usage := r.usage.toWireUsage

/-! ## Streams -/

/-- The `content_block` of a `content_block_start`. -/
inductive BlockStart where
  | text
  | toolUse (id name : String)
  | other (type : String)
  deriving DecidableEq

/-- The `delta` of a `content_block_delta`. -/
inductive BlockDelta where
  | text (text : String)
  | inputJson (partialJson : String)
  | other (type : String)
  deriving DecidableEq

/-- An event, as Anthropic sends it. Those of content blocks are `content_block_start`, `content_block_delta` and `content_block_stop`. -/
inductive Event where
  | messageStart (usage : Usage)
  | content (e : BlockEvent BlockStart BlockDelta)
  | messageDelta (stopReason : Option String) (outputTokens : Option ℕ)
  | messageStop
  | ping
  | error (type message : String)
  deriving DecidableEq

structure Chunk where
  role : Option String := none
  content : Option String := none
  toolCalls : List ToolCallDelta := []
  finishReason : Option String := none
  usage : Option OpenaiUsage := none

/-- `usage_totals`: what `message_start` has put into it, and `completion_tokens`. -/
structure UsageTotals where
  start : Option Usage := none
  completionTokens : Option ℕ := none

/-- `tool_index` and `usage_totals` -/
structure State where
  toolIndex : ℤ := -1
  usageTotals : UsageTotals := {}

/-- The prompt of `message_start`. -/
def UsageTotals.promptTokens (t : UsageTotals) : Option ℕ :=
  t.start.map fun u => u.inputTokens + u.cacheCreationInputTokens + u.cacheReadInputTokens

/-- The usage of the last chunk, if anything is known. -/
def UsageTotals.final (t : UsageTotals) : Option OpenaiUsage :=
  if t.start.isNone ∧ t.completionTokens.isNone then none
  else
    some
      { promptTokens := t.promptTokens
        completionTokens := some (t.completionTokens.getD 0)
        totalTokens := some (t.promptTokens.getD 0 + t.completionTokens.getD 0)
        cacheCreationInputTokens := t.start.map Usage.cacheCreationInputTokens
        cacheReadInputTokens := t.start.map Usage.cacheReadInputTokens }

/-- One event: the chunk that is yielded for it, if one is. -/
def onEvent (s : State) : Event → Except String (Option Chunk × State)
  | .messageStart usage => .ok (none, { s with usageTotals := { start := some usage } })
  | .content (.opened _ (.toolUse id name)) =>
    .ok
      (some { toolCalls := [{ index := some (s.toolIndex + 1), id := some id, name := some name, arguments := some "" }] },
        { s with toolIndex := s.toolIndex + 1 })
  | .content (.opened _ _) => .ok (none, s)
  | .content (.item _ (.text text)) => .ok (some { content := some text }, s)
  | .content (.item _ (.inputJson partialJson)) =>
    if 0 ≤ s.toolIndex then
      .ok (some { toolCalls := [{ index := some s.toolIndex, arguments := some partialJson }] }, s)
    else .ok (none, s)
  | .content (.item _ (.other _)) => .ok (none, s)
  | .messageDelta stopReason outputTokens =>
    let totals := { s.usageTotals with completionTokens := outputTokens.or s.usageTotals.completionTokens }
    let s := { s with usageTotals := totals }
    match stopReason.filter (· ≠ "") with
    | some reason => .ok (some { finishReason := some (finishReasonOf reason), usage := totals.final }, s)
    | none => .ok (none, s)
  | .error type message => .error ("Anthropic stream error: " ++ type ++ ": " ++ message)
  | .content (.closed _) | .messageStop | .ping => .ok (none, s)

/-- The chunks for events, and the error that ended them. -/
def generateFrom : List Event → State → List Chunk × Option String
  | [], _ => ([], none)
  | e :: events, s =>
    match onEvent s e with
    | .error text => ([], some text)
    | .ok (chunk, s) => (chunk.toList ++ (generateFrom events s).1, (generateFrom events s).2)

/-- `_generate`, over the events of its lines; a line without one is passed over. -/
def generate (events : List Event) : List Chunk × Option String :=
  ({ role := some "assistant", content := some "" } :: (generateFrom events {}).1, (generateFrom events {}).2)

end Gatewayz.Native
