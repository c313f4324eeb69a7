import Gatewayz.Messages.Wire

/-!
# `Messages.Translate` — from Anthropic to OpenAI and back

A request to `/v1/messages` is translated twice: into the OpenAI shape of the gateway, and, where Anthropic serves it, back
into Anthropic's.

* `transformAnthropicToOpenai` — `services/providers/anthropic_transformer.py`;
* `buildAnthropicPayload` — `services/providers/anthropic_native_client.py`.

Inputs and schemas are JSON values that neither looks into; `JsonText` has what both do with them.
-/

namespace Gatewayz

/-- JSON values and their texts: `json.dumps`, `json.loads`, the empty object, the schema `{"type": "object"}`, and Python
    truth. What was dumped is loaded again, and is not the empty text. -/
structure JsonText (J : Type) where
  dumps : J → String
  loads : String → Option J
  emptyObject : J
  objectSchema : J
  truthy : J → Bool
  loads_dumps : ∀ j, loads (dumps j) = some j
  dumps_ne_empty : ∀ j, dumps j ≠ ""
  truthy_objectSchema : truthy objectSchema = true

/-! ## The OpenAI shape -/

inductive OpenAiPart where
  | text (text : String) (cacheControl : Option CacheControl)
  | imageUrl (url : String)
  deriving DecidableEq

inductive OpenAiContent where
  | none
  | text (text : String)
  | parts (parts : List OpenAiPart)
  deriving DecidableEq

inductive ChatRole where
  | system
  | user
  | assistant
  /-- The result of the tool call with this id. -/
  | tool (toolCallId : String)
  deriving DecidableEq

structure OpenAiMessage where
  role : ChatRole
  content : OpenAiContent
  toolCalls : List ToolCall := []
  deriving DecidableEq

structure OpenAiTool (J : Type) where
  name : String
  parameters : J
  description : Option String := Option.none

inductive OpenAiToolChoice where
  | auto
  | required
  | none
  | function (name : String)

structure OpenAiParams (J : Type) where
  maxTokens : Nat
  temperature : Option ℚ := Option.none
  topP : Option ℚ := Option.none
  stop : Option (List String) := Option.none
  tools : Option (List (OpenAiTool J)) := Option.none
  toolChoice : Option OpenAiToolChoice := Option.none

section ToOpenai

variable {J : Type} (json : JsonText J)

/-! ## Anthropic to OpenAI -/

def extractSystemText : Option SystemPrompt → Option String
  | none => none
  | some (.text s) => some s
  | some (.blocks bs) => if bs.isEmpty then none else some ("\n".intercalate (bs.map SystemBlock.text))

def systemHasCacheControl : Option SystemPrompt → Bool
  | some (.blocks bs) => bs.any fun b => b.cacheControl.isSome
  | _ => false

def systemBlocksPreservingCache (bs : List SystemBlock) : List OpenAiPart := bs.map fun b => .text b.text b.cacheControl

/-- The system message, if there is one. -/
def systemMessages (system : Option SystemPrompt) : List OpenAiMessage :=
  match system with
  | some (.blocks bs) =>
    if systemHasCacheControl system then [⟨.system, .parts (systemBlocksPreservingCache bs), []⟩]
    else if (extractSystemText system).getD "" = "" then [] else [⟨.system, .text ((extractSystemText system).getD ""), []⟩]
  | _ => if (extractSystemText system).getD "" = "" then [] else [⟨.system, .text ((extractSystemText system).getD ""), []⟩]

def imageUrlOf : ImageSource → String
  | .base64 mediaType data => "data:" ++ mediaType ++ ";base64," ++ data
  | .url url => url

/-- The text of a tool result: its texts with blanks between them. -/
def resultText : ResultContent → String
  | .text s => s
  | .parts ps => " ".intercalate (ps.filterMap fun p => match p with | .text t => some t | .image _ => none)

/-- `_transform_content_block`. Tool uses come here from user turns only. -/
def transformContentBlock (b : InputBlock J) : OpenAiPart :=
  match b.kind with
  | .text s => .text s b.cacheControl
  | .image source => .imageUrl (imageUrlOf source)
  | .toolUse id name input =>
    .text ("[Tool Call: " ++ name ++ "] (id: " ++ id ++ ") Input: " ++ json.dumps input) none
  | .toolResult toolUseId content isError =>
    .text ((if isError then "[Tool Error]" else "[Tool Result]") ++ " (" ++ toolUseId ++ "): " ++ resultText content) none

/-- The tool call of a block, in a turn of the assistant. -/
def toolCallOf (role : Role) (b : InputBlock J) : Option ToolCall :=
  match b.kind with
  | .toolUse id name input => if role = .assistant then some ⟨id, name, json.dumps input⟩ else none
  | _ => none

/-- The content of a message: a single text part becomes a plain text. -/
def collapse (parts : List OpenAiPart) (toolCalls : List ToolCall) : OpenAiContent :=
  match parts with
  | [] => if toolCalls.isEmpty then .text "" else .none
  | [.text s _] => .text s
  | parts => .parts parts

def Role.toChat : Role → ChatRole
  | .user => .user
  | .assistant => .assistant

/-- A turn as a message. -/
def transformTurn (t : Turn J) : OpenAiMessage :=
  match t.content with
  | .text s => ⟨t.role.toChat, .text s, []⟩
  | .blocks bs =>
    let toolCalls := bs.filterMap (toolCallOf json t.role)
    let parts := (bs.filter fun b => (toolCallOf json t.role b).isNone).map (transformContentBlock json)
    ⟨t.role.toChat, collapse parts toolCalls, toolCalls⟩

/-- `_transform_tools`. An empty description is left out. -/
def transformTools (tools : Option (List (Tool J))) : Option (List (OpenAiTool J)) :=
  match tools with
  | none => none
  | some ts =>
    if ts.isEmpty then none
    else some (ts.map fun t => ⟨t.name, t.inputSchema, t.description.filter (· ≠ "")⟩)

def transformToolChoice : ToolChoice → OpenAiToolChoice
  | .auto _ => .auto
  | .any _ => .required
  | .none => .none
  | .tool name _ => .function name

/-- `transform_anthropic_to_openai`. `top_k` is ignored. -/
def transformAnthropicToOpenai (req : MessagesRequest J) : List OpenAiMessage × OpenAiParams J :=
  (systemMessages req.system ++ req.messages.map (transformTurn json),
    { maxTokens := req.maxTokens
      temperature := req.temperature
      topP := req.topP
      stop := if (req.stopSequences.getD []).isEmpty then none else req.stopSequences
      tools := transformTools req.tools
      toolChoice := req.toolChoice.map transformToolChoice })

end ToOpenai

/-! ## OpenAI to Anthropic -/

structure Payload (J : Type) where
  model : String
  messages : List (Role × List (InputBlock J))
  maxTokens : Nat
  system : List (InputBlock J) := []
  temperature : Option ℚ := none
  topP : Option ℚ := none
  topK : Option Nat := none
  stopSequences : Option (List String) := none
  tools : Option (List (Tool J)) := none
  toolChoice : Option ToolChoice := none

/-- A text up to the first `sep`, and what comes after it, if there is one. -/
def splitOnce (sep : Char) : List Char → List Char × Option (List Char)
  | [] => ([], none)
  | c :: cs => if c = sep then ([], some cs) else ((c :: (splitOnce sep cs).1), (splitOnce sep cs).2)

/-- The source of an image URL; a data URL without a comma is skipped. -/
def sourceOfUrl (url : String) : Option ImageSource :=
  if "data:".toList.isPrefixOf url.toList then
    match splitOnce ',' url.toList with
    | (header, some data) =>
      let afterScheme := ((splitOnce ':' header).2).getD []
      some (.base64 (String.ofList (splitOnce ';' afterScheme).1) (String.ofList data))
    | (_, none) => none
  else some (.url url)

section ToAnthropic

variable {J : Type} (json : JsonText J)

/-- A part of `_content_to_anthropic_blocks`. -/
def partToBlock : OpenAiPart → Option (InputBlock J)
  | .text s cacheControl => some ⟨.text s, cacheControl⟩
  | .imageUrl url => (sourceOfUrl url).map fun source => ⟨.image source, none⟩

def contentToAnthropicBlocks : OpenAiContent → List (InputBlock J)
  | .none => []
  | .text s => if s = "" then [] else [⟨.text s, none⟩]
  | .parts ps => ps.filterMap partToBlock

/-- `_assistant_tool_calls_to_blocks`. Arguments that cannot be read become the empty object. -/
def toolCallToBlock (call : ToolCall) : InputBlock J :=
  let arguments := if call.arguments = "" then "\x7b\x7d" else call.arguments
  ⟨.toolUse call.id call.name ((json.loads arguments).getD json.emptyObject), none⟩

/-- A block of a tool result's content. -/
def resultPartOf (b : InputBlock J) : Option ResultPart :=
  match b.kind with
  | .text s => some (.text s)
  | .image source => some (.image source)
  | _ => none

def resultContentOf : OpenAiContent → ResultContent
  | .text s => .text s
  | content => .parts ((contentToAnthropicBlocks (J := J) content).filterMap resultPartOf)

structure PayloadParts (J : Type) where
  system : List (InputBlock J) := []
  turns : List (Role × List (InputBlock J)) := []

def PayloadParts.addTurn (p : PayloadParts J) (role : Role) (blocks : List (InputBlock J)) : PayloadParts J :=
  if blocks.isEmpty then p else { p with turns := p.turns ++ [(role, blocks)] }

/-- A tool result goes into the last turn if that is the user's. -/
def addResult (turns : List (Role × List (InputBlock J))) (block : InputBlock J) : List (Role × List (InputBlock J)) :=
  match turns.getLast? with
  | some (.user, blocks) => turns.dropLast ++ [(.user, blocks ++ [block])]
  | _ => turns ++ [(.user, [block])]

/-- The body of the loop over the messages. -/
def addMessage (p : PayloadParts J) (m : OpenAiMessage) : PayloadParts J :=
  match m.role with
  | .system => { p with system := p.system ++ contentToAnthropicBlocks m.content }
  | .tool toolCallId =>
    { p with turns := addResult p.turns ⟨.toolResult toolCallId (resultContentOf (J := J) m.content) false, none⟩ }
  | .assistant =>
    p.addTurn .assistant (contentToAnthropicBlocks m.content ++ m.toolCalls.map (toolCallToBlock json))
  | .user => p.addTurn .user (contentToAnthropicBlocks m.content)

/-- A tool of `_openai_tools_to_anthropic`: one without a name is skipped, an empty schema replaced. -/
def toolToAnthropic (t : OpenAiTool J) : Option (Tool J) :=
  if t.name = "" then none
  else some
    { name := t.name
      description := t.description.filter (· ≠ "")
      inputSchema := if json.truthy t.parameters then t.parameters else json.objectSchema }

def openaiToolsToAnthropic (tools : Option (List (OpenAiTool J))) : Option (List (Tool J)) :=
  let converted := (tools.getD []).filterMap (toolToAnthropic json)
  if converted.isEmpty then none else some converted

def openaiToolChoiceToAnthropic : OpenAiToolChoice → Option ToolChoice
  | .auto => some (.auto false)
  | .required => some (.any false)
  | .none => some .none
  | .function name => if name = "" then Option.none else some (.tool name false)

/-- `build_anthropic_payload`, with the parameters that the first translation passes on. -/
def buildAnthropicPayload (messages : List OpenAiMessage) (model : String) (params : OpenAiParams J) : Payload J :=
  let parts := messages.foldl (addMessage json) {}
  let tools := openaiToolsToAnthropic json params.tools
  { model := model
    messages := parts.turns
    maxTokens := if params.maxTokens = 0 then 4096 else params.maxTokens
    system := parts.system
    temperature := params.temperature
    topP := params.topP
    stopSequences := if (params.stop.getD []).isEmpty then none else params.stop
    tools := tools
    toolChoice := if tools.isSome then params.toolChoice.bind openaiToolChoiceToAnthropic else none }

end ToAnthropic

end Gatewayz
