import Gatewayz.Billing.Numerals
import Gatewayz.Exec.Blocks

/-!
# `Messages.Wire` — what `/v1/messages` reads and writes

The endpoint wraps the chat completion endpoint: it reads OpenAI completions and chunks, and writes Anthropic messages and
events. These are the dictionaries of both sides, with the keys the code reads; an absent key is `none`.

Tool inputs are JSON values. Nothing looks inside them, so they are of any type, with the empty object as its default.
-/

namespace Gatewayz

open Exec

/-! ## OpenAI -/

/-- A `usage`. -/
structure WireUsage where
  promptTokens : Option Nat := none
  completionTokens : Option Nat := none
  totalTokens : Option Nat := none
  cacheReadInputTokens : Option Nat := none
  cacheCreationInputTokens : Option Nat := none
  deriving DecidableEq

/-- A fragment of a tool call: `index`, `id`, and `name` and `arguments` of its `function`. -/
structure ToolCallDelta where
  index : Option Int := none
  id : Option String := none
  name : Option String := none
  arguments : Option String := none
  deriving DecidableEq

/-- `tool_call.get("index", 0)`. -/
def ToolCallDelta.tcIndex (t : ToolCallDelta) : Int := t.index.getD 0

/-- A streamed choice, with the keys of its `delta`. -/
structure WireChoice where
  content : Option String := none
  toolCalls : List ToolCallDelta := []
  finishReason : Option String := none
  deriving DecidableEq

/-- A chunk. An error chunk has an `error` in place of choices. -/
structure WireChunk where
  choices : List WireChoice := []
  usage : Option WireUsage := none
  error : Option String := none
  deriving DecidableEq

structure ToolCall where
  id : String
  name : String
  arguments : String
  deriving DecidableEq

/-- A completion: the first choice, with its message. -/
structure Completion where
  id : String
  model : String
  content : String
  reasoning : Option String := none
  toolCalls : List ToolCall := []
  finishReason : String := "stop"
  usage : WireUsage := {}

/-! ## Anthropic -/

/-- The `content_block` of a `content_block_start`. -/
inductive BlockStart where
  | text
  /-- With `"input": {}`. -/
  | toolUse (id name : String)

/-- The `delta` of a `content_block_delta`. -/
inductive BlockDelta where
  | text (text : String)
  | inputJson (partialJson : String)

/-- `content_block_start`, `content_block_delta` and `content_block_stop`, each with its `index`. -/
abbrev ContentEvent := BlockEvent BlockStart BlockDelta

/-- The usage of a message; cache counts may be left out. -/
structure AnthropicUsage where
  inputTokens : Nat := 0
  outputTokens : Nat := 0
  cacheReadInputTokens : Option Nat := none
  cacheCreationInputTokens : Option Nat := none
  deriving DecidableEq

inductive AnthropicEvent where
  | messageStart (id model : String)
  | content (e : ContentEvent)
  | messageDelta (stopReason : String) (usage : AnthropicUsage)
  | messageStop
  | error (message : String)

/-- A block of a message's `content`. -/
inductive ContentBlock (J : Type) where
  | thinking (thinking : String)
  | toolUse (id name : String) (input : J)
  | text (text : String)
  deriving DecidableEq

structure AnthropicMessage (J : Type) where
  id : String
  content : List (ContentBlock J)
  model : String
  stopReason : String
  stopSequence : Option String
  usage : AnthropicUsage

/-- `finish_map` of the stream, and `stop_reason_map` of the translation. -/
def stopReasonOf (finishReason : String) : String :=
  match finishReason with
  | "stop" => "end_turn"
  | "length" => "max_tokens"
  | "tool_calls" => "tool_use"
  | "function_call" => "tool_use"
  | "content_filter" => "refusal"
  | _ => "end_turn"

/-! ## `AnthropicMessagesRequest` -/

inductive CacheControl where
  | ephemeral (ttl : Option String)
  deriving DecidableEq

inductive ImageSource where
  | base64 (mediaType data : String)
  | url (url : String)
  deriving DecidableEq

inductive ResultPart where
  | text (text : String)
  | image (source : ImageSource)
  deriving DecidableEq

inductive ResultContent where
  | text (text : String)
  | parts (parts : List ResultPart)
  deriving DecidableEq

inductive InputKind (J : Type) where
  | text (text : String)
  | image (source : ImageSource)
  | toolUse (id name : String) (input : J)
  | toolResult (toolUseId : String) (content : ResultContent) (isError : Bool)
  deriving DecidableEq

/-- A content block, perhaps with a breakpoint after it. -/
structure InputBlock (J : Type) where
  kind : InputKind J
  cacheControl : Option CacheControl := none
  deriving DecidableEq

inductive Role where
  | user
  | assistant
  deriving DecidableEq

inductive TurnContent (J : Type) where
  | text (text : String)
  | blocks (blocks : List (InputBlock J))

structure Turn (J : Type) where
  role : Role
  content : TurnContent J

structure SystemBlock where
  text : String
  cacheControl : Option CacheControl := none

inductive SystemPrompt where
  | text (text : String)
  | blocks (blocks : List SystemBlock)

structure Tool (J : Type) where
  name : String
  description : Option String := none
  inputSchema : J
  cacheControl : Option CacheControl := none

/-- A tool choice, with `disable_parallel_tool_use`. -/
inductive ToolChoice where
  | auto (disableParallel : Bool)
  | any (disableParallel : Bool)
  | none
  | tool (name : String) (disableParallel : Bool)

/-- `AnthropicMessagesRequest`. -/
structure MessagesRequest (J : Type) where
  model : String
  messages : List (Turn J)
  maxTokens : Nat
  maxTokens_pos : 0 < maxTokens
  system : Option SystemPrompt := Option.none
  temperature : Option ℚ := Option.none
  topP : Option ℚ := Option.none
  topK : Option Nat := Option.none
  stopSequences : Option (List String) := Option.none
  stream : Option Bool := some false
  tools : Option (List (Tool J)) := Option.none
  toolChoice : Option ToolChoice := Option.none

/-- `bool(req.stream)`. -/
def MessagesRequest.streamed {J : Type} (req : MessagesRequest J) : Bool := req.stream.getD false

/-! ## `transform_openai_to_anthropic`

`loads` is `json.loads` of tool arguments, and `emptyObject` the `{}` that stands for arguments it cannot read.
 -/

/-- `content.endswith(seq)`. -/
def endsWith (content seq : String) : Bool := seq.toList.isSuffixOf content.toList

/-- The stop sequence that ended a text, if one did: the first that the text ends with. -/
def stopSequenceTriggered (stopSequences : Option (List String)) (content stopReason : String) : Option String :=
  if content ≠ "" ∧ stopReason = "end_turn" then (stopSequences.getD []).find? (endsWith content ·) else none

/-- The usage of a message: cache counts are passed on where the key is present. -/
def usageResponse (usage : WireUsage) : AnthropicUsage where
  inputTokens := usage.promptTokens.getD 0
  outputTokens := usage.completionTokens.getD 0
  cacheReadInputTokens := usage.cacheReadInputTokens
  cacheCreationInputTokens := usage.cacheCreationInputTokens

section Transform

variable {J : Type} (loads : String → Option J) (emptyObject : J)

def parseArguments (arguments : String) : J := (loads arguments).getD emptyObject

/-- The blocks before the text: reasoning, and the tool calls. -/
def leadingBlocks (reasoning : Option String) (toolCalls : List ToolCall) : List (ContentBlock J) :=
  (match reasoning with
    | some r => if r = "" then [] else [.thinking r]
    | none => []) ++
  toolCalls.map fun call => .toolUse call.id call.name (parseArguments loads emptyObject call.arguments)

/-- The content of a message: never empty. -/
def contentBlocks (r : Completion) : List (ContentBlock J) :=
  let blocks := leadingBlocks loads emptyObject r.reasoning r.toolCalls ++
    (if strip r.content.toList = [] then [] else [.text r.content])
  if blocks.isEmpty then [.text ""] else blocks

def transformOpenaiToAnthropic (r : Completion) (stopSequences : Option (List String)) : AnthropicMessage J :=
  let stopReason := stopReasonOf r.finishReason
  let triggered := stopSequenceTriggered stopSequences r.content stopReason
  { id := r.id
    content := contentBlocks loads emptyObject r
    model := r.model
    stopReason := if triggered.isSome then "stop_sequence" else stopReason
    stopSequence := triggered
    usage := usageResponse r.usage }

end Transform

end Gatewayz
