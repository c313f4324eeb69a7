import Gatewayz.Messages.Wire

/-!
# `Messages.Stream` — `routes/messages.py`: `_stream_anthropic_events`

The function reads the lines of the chat stream and yields Anthropic events.

Two things of the standard library are parameters. `loads` is `json.loads` of a line: the chunk, or nothing where it raises.
`newToolId` is the id made up for a tool block that has none, by the block's number.
-/

namespace Gatewayz

open Exec

/-- The local variables of the generator, and the content events it has yielded. -/
structure StreamState where
  blockIndex : Int := -1
  textBlockOpen : Bool := false
  /-- Maps a tool call's index to the number of its block. -/
  toolBlocks : List (Int × Int) := []
  stopReason : String := "end_turn"
  usage : WireUsage := {}
  yielded : List ContentEvent := []

def StreamState.emit (s : StreamState) (e : ContentEvent) : StreamState := { s with yielded := s.yielded ++ [e] }

/-- The chunk of a line, or nothing if the line is skipped. -/
def decodeLine (loads : String → Option WireChunk) (raw : String) : Option WireChunk :=
  if "data: ".toList.isPrefixOf raw.toList then
    let payload := String.ofList (strip (raw.toList.drop "data: ".toList.length))
    if payload = "" ∨ payload = "[DONE]" then none else loads payload
  else none

def openText (s : StreamState) : StreamState :=
  if s.textBlockOpen then s
  else { s with blockIndex := s.blockIndex + 1, textBlockOpen := true }.emit (.opened (s.blockIndex + 1) .text)

/-- The `if content:` part of the loop. -/
def onContent (s : StreamState) (content : String) : StreamState :=
  let s := openText s
  s.emit (.item s.blockIndex (.text content))

def closeText (s : StreamState) : StreamState :=
  if s.textBlockOpen then { s with textBlockOpen := false }.emit (.closed s.blockIndex) else s

section Stream

variable (newToolId : Int → String)

/-- The block of a tool call that is not known yet. -/
def openTool (s : StreamState) (t : ToolCallDelta) : StreamState :=
  let s := closeText s
  let n := s.blockIndex + 1
  { s with blockIndex := n, toolBlocks := s.toolBlocks ++ [(t.tcIndex, n)] }.emit
    (.opened n (.toolUse (t.id.getD (newToolId n)) (t.name.getD "")))

/-- The body of the loop over `tool_calls`. -/
def onToolCall (s : StreamState) (t : ToolCallDelta) : StreamState :=
  let s := if (s.toolBlocks.lookup t.tcIndex).isSome then s else openTool newToolId s t
  let arguments := t.arguments.getD ""
  if arguments = "" then s
  else s.emit (.item ((s.toolBlocks.lookup t.tcIndex).getD 0) (.inputJson arguments))

/-- The body of the loop over the lines, for a line with a chunk. -/
def onChunk (s : StreamState) (chunk : WireChunk) : StreamState :=
  let usage := chunk.usage.getD {}
  let s := if usage = {} then s else { s with usage := usage }
  match chunk.choices with
  | [] => s
  | choice :: _ =>
    let finishReason := choice.finishReason.getD ""
    let s := if finishReason = "" then s else { s with stopReason := stopReasonOf finishReason }
    let content := choice.content.getD ""
    let s := if content = "" then s else onContent s content
    choice.toolCalls.foldl (onToolCall newToolId) s

/-- The loop. -/
def onLines (loads : String → Option WireChunk) (lines : List String) : StreamState :=
  lines.foldl
    (fun s raw =>
      match decodeLine loads raw with
      | none => s
      | some chunk => onChunk newToolId s chunk)
    {}

/-- What is yielded for content, with the end of whichever block is still open. -/
def StreamState.contentEvents (s : StreamState) : List ContentEvent :=
  if s.textBlockOpen || !s.toolBlocks.isEmpty then s.yielded ++ [.closed s.blockIndex] else s.yielded

/-- Cache counts are passed on unless they are absent or zero. -/
def StreamState.anthropicUsage (s : StreamState) : AnthropicUsage where
  inputTokens := s.usage.promptTokens.getD 0
  outputTokens := s.usage.completionTokens.getD 0
  cacheReadInputTokens := s.usage.cacheReadInputTokens.filter (· ≠ 0)
  cacheCreationInputTokens := s.usage.cacheCreationInputTokens.filter (· ≠ 0)

def streamAnthropicEvents (loads : String → Option WireChunk) (openaiStream : List String) (model messageId : String) :
    List AnthropicEvent :=
  let s := onLines newToolId loads openaiStream
  .messageStart messageId model ::
    s.contentEvents.map .content ++ [.messageDelta s.stopReason s.anthropicUsage, .messageStop]

/-! ## The stream piece by piece -/

def chunksOf (loads : String → Option WireChunk) (lines : List String) : List WireChunk :=
  lines.filterMap (decodeLine loads)

/-- What a chunk carries for the content: a text that is not empty, and fragments of tool calls. -/
inductive Piece where
  | text (content : String)
  | tool (t : ToolCallDelta)

def WireChoice.pieces (c : WireChoice) : List Piece :=
  (if c.content.getD "" = "" then [] else [.text (c.content.getD "")]) ++ c.toolCalls.map .tool

def WireChunk.pieces (c : WireChunk) : List Piece := (c.choices.head?.map WireChoice.pieces).getD []

def piecesOf (chunks : List WireChunk) : List Piece := chunks.flatMap WireChunk.pieces

def onPiece (s : StreamState) : Piece → StreamState
  | .text content => onContent s content
  | .tool t => onToolCall newToolId s t

def WireChunk.usageAfter (c : WireChunk) (usage : WireUsage) : WireUsage :=
  if c.usage.getD {} = {} then usage else c.usage.getD {}

/-- The finish reason of a chunk; the empty text is none. -/
def WireChunk.finishReason (c : WireChunk) : String := (c.choices.head?.bind WireChoice.finishReason).getD ""

def WireChunk.stopReasonAfter (c : WireChunk) (stopReason : String) : String :=
  if c.finishReason = "" then stopReason else stopReasonOf c.finishReason

/-- The rest of what a chunk does: it does not touch the blocks. -/
def WireChunk.note (c : WireChunk) (s : StreamState) : StreamState :=
  { s with usage := c.usageAfter s.usage, stopReason := c.stopReasonAfter s.stopReason }

theorem onChunk_eq (s : StreamState) (c : WireChunk) :
    onChunk newToolId s c = c.pieces.foldl (onPiece newToolId) (c.note s) := by
  have htools : ∀ (ts : List ToolCallDelta) (s : StreamState),
      ts.foldl (onToolCall newToolId) s = (ts.map Piece.tool).foldl (onPiece newToolId) s := by
    intro ts s
    rw [List.foldl_map]
    rfl
  obtain ⟨choices, usage, error⟩ := c
  cases choices with
  | nil =>
    by_cases hu : usage.getD {} = {} <;>
      simp [onChunk, WireChunk.pieces, WireChunk.note, WireChunk.usageAfter, WireChunk.stopReasonAfter,
        WireChunk.finishReason, hu]
  | cons choice choices =>
    by_cases hu : usage.getD {} = {} <;> by_cases hf : choice.finishReason.getD "" = "" <;>
      by_cases hc : choice.content.getD "" = "" <;>
      simp [onChunk, WireChunk.pieces, WireChunk.note, WireChunk.usageAfter, WireChunk.stopReasonAfter,
        WireChunk.finishReason, WireChoice.pieces, hu, hf, hc, htools, onPiece]

theorem onLines_eq (loads : String → Option WireChunk) (lines : List String) :
    onLines newToolId loads lines = (chunksOf loads lines).foldl (onChunk newToolId) {} := by
  rw [chunksOf, List.foldl_filterMap]
  unfold onLines
  congr 1
  funext s raw
  cases decodeLine loads raw <;> rfl

end Stream

end Gatewayz
