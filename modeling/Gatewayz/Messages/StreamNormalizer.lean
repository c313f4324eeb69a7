import Gatewayz.Billing.Python

/-!
# `Messages.StreamNormalizer` — chunks of all providers, in one form

`services/stream_normalizer.py`. A chunk is a dictionary, and which provider sent it shows in its keys; here it is a record of the
keys that are looked up, each of which may be missing (`Chunk`). Keys that are not looked up are there only where they carry something
that a chunk may say: fragments of tool calls.

`T` is the type of what a provider calls a fragment of a tool call.
-/

namespace Gatewayz.Normalizer

/-! ## Chunks -/

/-- The names reasoning goes by, in the order in which they are looked up. -/
inductive ReasoningField where
  | reasoning
  | reasoningContent
  | thinking
  | analysis
  | innerThought
  | thoughts
  | thought
  | chainOfThought
  | cot
  deriving DecidableEq

/-- `fields` -/
def ReasoningField.all : List ReasoningField :=
  [.reasoning, .reasoningContent, .thinking, .analysis, .innerThought, .thoughts, .thought, .chainOfThought, .cot]

/-- An entry of `reasoning_details`: a dictionary, a text, or neither. -/
inductive ReasoningDetail where
  | step (content text thinking : Option String)
  | text (text : String)
  | other

/-- `reasoning_details`: a list, a text, or neither. -/
inductive ReasoningDetails where
  | list (details : List ReasoningDetail)
  | text (text : String)
  | other

structure Reasoning where
  fields : ReasoningField → Option String := fun _ => none
  details : Option ReasoningDetails := none

structure Delta (T : Type) where
  role : Option String := none
  content : Option String := none
  reasoning : Reasoning := {}
  toolCalls : List T := []
  type : Option String := none
  text : Option String := none
  signature : Option String := none
  partialJson : Option String := none
  stopReason : Option String := none

structure Choice (T : Type) where
  index : Option ℕ := none
  finishReason : Option String := none
  delta : Option (Delta T) := none
  text : Option String := none
  reasoning : Reasoning := {}

structure Part (T : Type) where
  text : Option String := none
  thought : Bool := false
  functionCall : Option T := none

structure Candidate (T : Type) where
  parts : List (Part T) := []
  finishReason : Option String := none

structure ContentBlock where
  type : String
  text : Option String := none
  thinking : Option String := none
  tool : Option (String × String) := none

structure Chunk (T : Type) extends Choice T where
  id : Option String := none
  created : Option ℕ := none
  model : Option String := none
  choices : Option (List (Choice T)) := none
  candidates : Option (List (Candidate T)) := none
  type : Option String := none
  output : Option (List (Choice T)) := none
  content : Option String := none
  contentBlock : Option ContentBlock := none

/-! ## What is emitted -/

structure NormalizedDelta where
  role : Option String := none
  content : Option String := none
  reasoningContent : Option String := none
  signature : Option String := none
  toolInputDelta : Option String := none
  deriving DecidableEq

/-- A choice of a `NormalizedChunk`. -/
structure NormalizedChoice where
  index : ℕ
  delta : NormalizedDelta
  finishReason : Option String

structure NormalizedChunk where
  id : String
  object : String := "chat.completion.chunk"
  created : ℕ
  model : String
  choices : List NormalizedChoice

structure StreamNormalizer where
  provider : String
  model : String
  id : String
  created : ℕ
  accumulatedContent : String := ""
  accumulatedReasoning : String := ""

def truthy (text : Option String) : Option String := text.filter (· ≠ "")

/-- The text of a detail. -/
def ReasoningDetail.reads : ReasoningDetail → Option String
  | .step content plain thinking => ((truthy content).or (truthy plain)).or (truthy thinking)
  | .text plain => some plain
  | .other => none

/-- `reasoning_details`, read. -/
def ReasoningDetails.reads : ReasoningDetails → Option String
  | .list details =>
    if details.filterMap ReasoningDetail.reads = [] then none
    else some ("\n".intercalate (details.filterMap ReasoningDetail.reads))
  | .text plain => truthy (some plain)
  | .other => none

def extractReasoning (r : Reasoning) : Option String :=
  (ReasoningField.all.findSome? fun field => truthy (r.fields field)).or (r.details.bind ReasoningDetails.reads)

/-- The word for a reason. -/
def finishWord (reason : String) : String :=
  let reason := lower reason
  if reason ∈ ["stop", "end_turn", "stop_sequence"] then "stop"
  else if reason ∈ ["length", "max_tokens"] then "length"
  else if reason ∈ ["content_filter", "safety", "error"] then "error"
  else if reason ∈ ["tool_calls", "function_call"] then reason
  else "stop"

def normalizeFinishReason (reason : Option String) : Option String := (truthy reason).map finishWord

namespace StreamNormalizer

variable {T : Type} (s : StreamNormalizer)

/-- `self.accumulated_content += content` -/
def addContent (content : Option String) : StreamNormalizer := { s with accumulatedContent := s.accumulatedContent ++ content.getD "" }

/-- `self.accumulated_reasoning += reasoning` -/
def addReasoning (reasoning : Option String) : StreamNormalizer :=
  { s with accumulatedReasoning := s.accumulatedReasoning ++ reasoning.getD "" }

def normalizeChoice (choice : Choice T) : NormalizedChoice × StreamNormalizer :=
  let delta := choice.delta.getD {}
  let content := (truthy delta.content).or (truthy choice.text)
  let reasoning := ((extractReasoning delta.reasoning).filter (· ≠ "")).or (truthy (extractReasoning choice.reasoning))
  (⟨choice.index.getD 0, { role := delta.role, content := content, reasoningContent := reasoning },
      normalizeFinishReason choice.finishReason⟩,
    (s.addContent content).addReasoning reasoning)

def normalizeGeminiCandidate (candidate : Candidate T) (index : ℕ) : NormalizedChoice × StreamNormalizer :=
  let content := truthy (some (concat (candidate.parts.filterMap Part.text)))
  (⟨index, { content := content }, normalizeFinishReason candidate.finishReason⟩, s.addContent content)

/-- The delta of a `content_block_delta`. -/
def blockDelta (inner : Delta T) : NormalizedDelta × StreamNormalizer :=
  let deltaType := inner.type.getD ""
  if deltaType = "text_delta" ∨ deltaType = "" ∧ inner.text.isSome then
    ({ content := truthy inner.text }, s.addContent (truthy inner.text))
  else if deltaType = "thinking_delta" ∨ deltaType = "" ∧ (inner.reasoning.fields .thinking).isSome then
    ({ reasoningContent := truthy (inner.reasoning.fields .thinking) }, s.addReasoning (truthy (inner.reasoning.fields .thinking)))
  else if deltaType = "signature_delta" then ({ signature := truthy inner.signature }, s)
  else if deltaType = "input_json_delta" then ({ toolInputDelta := truthy inner.partialJson }, s)
  else ({}, s)

/-- The delta of a `content_block_start`. -/
def blockStart (block : ContentBlock) : NormalizedDelta × StreamNormalizer :=
  if block.type = "thinking" then ({ reasoningContent := truthy block.thinking }, s.addReasoning (truthy block.thinking))
  else if block.type = "text" then ({ content := truthy block.text }, s.addContent (truthy block.text))
  else ({}, s)

def normalizeAnthropicEvent (chunk : Chunk T) : Option NormalizedChoice × StreamNormalizer :=
  let emit : NormalizedDelta → Option String → Option NormalizedChoice := fun delta finishReason =>
    if delta = {} ∧ finishReason = none then none else some ⟨0, delta, finishReason⟩
  if chunk.type = some "content_block_delta" then
    let (delta, s) := s.blockDelta (chunk.delta.getD {})
    (emit delta none, s)
  else if chunk.type = some "message_delta" then
    (emit {} (normalizeFinishReason (chunk.delta.getD {}).stopReason), s)
  else if chunk.type = some "content_block_start" then
    let (delta, s) := s.blockStart (chunk.contentBlock.getD ⟨"", none, none, none⟩)
    (emit delta none, s)
  else if chunk.type = some "message_stop" then (emit {} (some "stop"), s)
  else (none, s)

/-- Choices, one after the other. -/
def normalizeChoices : List (Choice T) → StreamNormalizer → List NormalizedChoice × StreamNormalizer
  | [], s => ([], s)
  | choice :: rest, s =>
    let (normalized, s) := s.normalizeChoice choice
    let (others, s) := normalizeChoices rest s
    (normalized :: others, s)

/-- Candidates, one after the other. -/
def normalizeCandidates : ℕ → List (Candidate T) → StreamNormalizer → List NormalizedChoice × StreamNormalizer
  | _, [], s => ([], s)
  | i, candidate :: rest, s =>
    let (normalized, s) := s.normalizeGeminiCandidate candidate i
    let (others, s) := normalizeCandidates (i + 1) rest s
    (normalized :: others, s)

/-- The first form a chunk has. -/
def normalizeForm (chunk : Chunk T) : List NormalizedChoice × StreamNormalizer :=
  match chunk.choices with
  | some choices => normalizeChoices choices s
  | none =>
    match chunk.candidates with
    | some candidates => normalizeCandidates 0 candidates s
    | none =>
      if chunk.type.isSome then
        let (normalized, s) := s.normalizeAnthropicEvent chunk
        (normalized.toList, s)
      else
        match chunk.output with
        | some choices => normalizeChoices choices s
        | none => ([], s)

def normalizeChunk (chunk : Chunk T) : Option NormalizedChunk × StreamNormalizer :=
  let (choices, s) := s.normalizeForm chunk
  let (choices, s) :=
    if choices = [] ∧ (chunk.content.isSome ∨ chunk.delta.isSome) then
      -- the whole chunk is taken for a choice
      let (normalized, s) := s.normalizeChoice chunk.toChoice
      ([normalized], s)
    else (choices, s)
  if choices = [] then (none, s)
  else
    (some { id := chunk.id.getD s.id, created := chunk.created.getD s.created, model := chunk.model.getD s.model, choices := choices },
      s)

/-- A stream. -/
def normalizeStream : List (Chunk T) → StreamNormalizer → List NormalizedChunk × StreamNormalizer
  | [], s => ([], s)
  | chunk :: rest, s =>
    let (normalized, s) := s.normalizeChunk chunk
    let (others, s) := normalizeStream rest s
    (normalized.toList ++ others, s)

end StreamNormalizer

end Gatewayz.Normalizer
