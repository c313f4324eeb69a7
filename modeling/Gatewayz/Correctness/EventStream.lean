import Gatewayz.Messages.Stream

/-!
# `Correctness.EventStream` — the Anthropic event stream is well formed

A message is streamed as `message_start`, its content blocks one after the other, `message_delta` and `message_stop`; and a
stream that broke off upstream must end in an `error` event.

The generator stops an open text block when a tool call starts, and whichever block is still open at the end. It skips
error chunks, and stops no tool block before the end. So its events are well formed exactly if there is no error chunk and
the pieces of the stream are texts and then fragments of one call.
-/

namespace Gatewayz

open Exec

/-- A well-formed event stream: the blocks of some content, numbered from 0. -/
def WellFormedEvents (events : List AnthropicEvent) : Prop :=
  ∃ (id model : String) (blocks : List (Block BlockStart BlockDelta)) (stopReason : String) (usage : AnthropicUsage),
    events = .messageStart id model ::
      (render 0 blocks).map .content ++ [.messageDelta stopReason usage, .messageStop]

def EndsInError (events : List AnthropicEvent) : Prop := ∃ message, events.getLast? = some (.error message)

/-- What the endpoint promises: a stream with an error chunk ends in an error, any other stream is well formed. -/
def StreamKept (chunks : List WireChunk) (events : List AnthropicEvent) : Prop :=
  if ∃ c ∈ chunks, c.error.isSome then EndsInError events else WellFormedEvents events

def OneCallAfterText (ps : List Piece) : Prop :=
  ∃ (texts : List String) (fragments : List ToolCallDelta) (i : Int),
    ps = texts.map .text ++ fragments.map .tool ∧ ∀ t ∈ fragments, t.tcIndex = i

/-! ## Phases -/

/-- Where the generator is, as long as its events are well formed. -/
inductive StreamPhase where
  | blank
  | inText
  /-- In block `n`, of the tool call with index `i`. -/
  | inTool (i n : Int)
  | broken
  deriving DecidableEq

def StreamPhase.step : StreamPhase → Piece → StreamPhase
  | .blank, .text _ => .inText
  | .blank, .tool t => .inTool t.tcIndex 0
  | .inText, .text _ => .inText
  | .inText, .tool t => .inTool t.tcIndex 1
  | .inTool i n, .tool t => if t.tcIndex = i then .inTool i n else .broken
  | .inTool _ _, .text _ => .broken
  | .broken, _ => .broken

def phaseOf (ps : List Piece) : StreamPhase := ps.foldl StreamPhase.step .blank

def StreamState.scanned (s : StreamState) : Option Scan := scan (some (.between 0)) s.yielded

@[simp] theorem scanned_emit (s : StreamState) (e : ContentEvent) :
    (s.emit e).scanned = s.scanned.bind (scanStep · e) := by
  rw [StreamState.scanned, StreamState.emit, scan_append]
  rfl

@[simp] theorem emit_blockIndex (s : StreamState) (e : ContentEvent) : (s.emit e).blockIndex = s.blockIndex := rfl

@[simp] theorem emit_textBlockOpen (s : StreamState) (e : ContentEvent) : (s.emit e).textBlockOpen = s.textBlockOpen := rfl

@[simp] theorem emit_toolBlocks (s : StreamState) (e : ContentEvent) : (s.emit e).toolBlocks = s.toolBlocks := rfl

variable {s : StreamState}

theorem scanned_openText (h : s.textBlockOpen = false) :
    (openText s).scanned = s.scanned.bind (scanStep · (.opened (s.blockIndex + 1) .text : ContentEvent)) := by
  simp only [openText, h, Bool.false_eq_true, if_false, scanned_emit]
  rfl

theorem scanned_closeText (h : s.textBlockOpen = true) :
    (closeText s).scanned = s.scanned.bind (scanStep · (.closed s.blockIndex : ContentEvent)) := by
  simp only [closeText, h, if_true, scanned_emit]
  rfl

theorem scanned_openTool (newToolId : Int → String) (s : StreamState) (t : ToolCallDelta) :
    (openTool newToolId s t).scanned =
      (closeText s).scanned.bind (scanStep · (.opened ((closeText s).blockIndex + 1)
        (.toolUse (t.id.getD (newToolId ((closeText s).blockIndex + 1))) (t.name.getD "")) : ContentEvent)) := by
  simp only [openTool, scanned_emit]
  rfl

structure InPhase (s : StreamState) (n : Int) (isOpen : Bool) (calls : List (Int × Int)) (scanned : Scan) : Prop where
  blockIndex : s.blockIndex = n
  textBlockOpen : s.textBlockOpen = isOpen
  toolBlocks : s.toolBlocks = calls
  scanned : s.scanned = some scanned

def StreamState.At (s : StreamState) : StreamPhase → Prop
  | .blank => InPhase s (-1) false [] (.between 0)
  | .inText => InPhase s 0 true [] (.inside 0)
  | .inTool i n => InPhase s n false [(i, n)] (.inside n)
  | .broken => s.scanned = none

/-! ## One piece -/

theorem onContent_blank (h : s.At .blank) (content : String) : (onContent s content).At .inText := by
  have hopen : (openText s).blockIndex = 0 ∧ (openText s).textBlockOpen = true ∧ (openText s).toolBlocks = [] := by
    simp [openText, h.textBlockOpen, h.blockIndex, h.toolBlocks]
  have hscan : (openText s).scanned = some (.inside 0) := by
    rw [scanned_openText h.textBlockOpen, h.scanned, h.blockIndex]
    rfl
  obtain ⟨hindex, htext, hcalls⟩ := hopen
  refine ⟨hindex, htext, hcalls, ?_⟩
  simp [onContent, hscan, hindex, scanStep]

theorem onContent_inText (h : s.At .inText) (content : String) : (onContent s content).At .inText := by
  have hopen : openText s = s := by simp [openText, h.textBlockOpen]
  constructor
  · simpa [onContent, hopen] using h.blockIndex
  · simpa [onContent, hopen] using h.textBlockOpen
  · simpa [onContent, hopen] using h.toolBlocks
  · simp [onContent, hopen, h.scanned, h.blockIndex, scanStep]

variable {i n : Int} {phase : StreamPhase}

section Piece

variable (newToolId : Int → String)

variable {t : ToolCallDelta}

theorem arguments_inTool (h : s.At (.inTool i n)) (ht : t.tcIndex = i) :
    (onToolCall newToolId s t).At (.inTool i n) := by
  have hknown : s.toolBlocks.lookup t.tcIndex = some n := by simp [h.toolBlocks, ht]
  unfold onToolCall
  simp only [hknown, Option.isSome_some, if_true, Option.getD_some]
  split
  · exact h
  · constructor
    · simpa using h.blockIndex
    · simpa using h.textBlockOpen
    · simpa using h.toolBlocks
    · simp [h.scanned, scanStep]

theorem onToolCall_new (h : s.toolBlocks.lookup t.tcIndex = none) :
    onToolCall newToolId s t = onToolCall newToolId (openTool newToolId s t) t := by
  have hknown : ((openTool newToolId s t).toolBlocks.lookup t.tcIndex).isSome := by
    have hcalls : (closeText s).toolBlocks = s.toolBlocks := by
      unfold closeText
      split <;> rfl
    simp [openTool, hcalls, List.lookup_append, h]
  unfold onToolCall
  simp only [h, Option.isSome_none, Bool.false_eq_true, if_false, hknown, if_true]

theorem onToolCall_blank (h : s.At .blank) (t : ToolCallDelta) :
    (onToolCall newToolId s t).At (.inTool t.tcIndex 0) := by
  rw [onToolCall_new newToolId (by simp [h.toolBlocks])]
  apply arguments_inTool newToolId _ rfl
  have hclose : closeText s = s := by simp [closeText, h.textBlockOpen]
  constructor
  · simp [openTool, hclose, h.blockIndex]
  · simpa [openTool, hclose] using h.textBlockOpen
  · simp [openTool, hclose, h.toolBlocks, h.blockIndex]
  · rw [scanned_openTool, hclose, h.scanned, h.blockIndex]
    rfl

theorem onToolCall_inText (h : s.At .inText) (t : ToolCallDelta) :
    (onToolCall newToolId s t).At (.inTool t.tcIndex 1) := by
  rw [onToolCall_new newToolId (by simp [h.toolBlocks])]
  apply arguments_inTool newToolId _ rfl
  have hclose : (closeText s).blockIndex = 0 ∧ (closeText s).textBlockOpen = false ∧ (closeText s).toolBlocks = [] := by
    simp [closeText, h.textBlockOpen, h.blockIndex, h.toolBlocks]
  obtain ⟨hindex, htext, hcalls⟩ := hclose
  constructor
  · simp [openTool, hindex]
  · simpa [openTool] using htext
  · simp [openTool, hcalls, hindex]
  · rw [scanned_openTool, scanned_closeText h.textBlockOpen, h.scanned, h.blockIndex, hindex]
    rfl

theorem onContent_inTool (h : s.At (.inTool i n)) (content : String) : (onContent s content).At .broken := by
  have hopen : (openText s).scanned = none := by
    rw [scanned_openText h.textBlockOpen, h.scanned]
    rfl
  simp [StreamState.At, onContent, hopen]

theorem onToolCall_other (h : s.At (.inTool i n)) (ht : t.tcIndex ≠ i) : (onToolCall newToolId s t).At .broken := by
  have hclose : closeText s = s := by simp [closeText, h.textBlockOpen]
  have hopened : (openTool newToolId s t).scanned = none := by
    rw [scanned_openTool, hclose, h.scanned]
    rfl
  have hnew : s.toolBlocks.lookup t.tcIndex = none := by simp [h.toolBlocks, ht]
  unfold onToolCall
  simp only [hnew, Option.isSome_none, Bool.false_eq_true, if_false]
  split
  · exact hopened
  · simp [StreamState.At, hopened]

theorem onPiece_broken (h : s.At .broken) (p : Piece) : (onPiece newToolId s p).At .broken := by
  have hs : s.scanned = none := h
  cases p with
  | text content =>
    have hopen : (openText s).scanned = none := by
      cases htext : s.textBlockOpen with
      | true => simpa [openText, htext] using hs
      | false => rw [scanned_openText htext, hs, Option.bind_none]
    simp [StreamState.At, onPiece, onContent, hopen]
  | tool t =>
    have hclose : (closeText s).scanned = none := by
      cases htext : s.textBlockOpen with
      | true => rw [scanned_closeText htext, hs, Option.bind_none]
      | false => simpa [closeText, htext] using hs
    have hopen : (openTool newToolId s t).scanned = none := by rw [scanned_openTool, hclose, Option.bind_none]
    have hknown : ∀ b : Bool, (if b then s else openTool newToolId s t).scanned = none := by
      intro b
      cases b <;> simp [hs, hopen]
    simp only [StreamState.At, onPiece, onToolCall]
    split
    · exact hknown _
    · rw [scanned_emit, hknown, Option.bind_none]

/-- One piece: the state moves with the phase. -/
theorem onPiece_at (h : s.At phase) (p : Piece) : (onPiece newToolId s p).At (phase.step p) := by
  cases phase with
  | blank =>
    cases p with
    | text content => exact onContent_blank h content
    | tool t => exact onToolCall_blank newToolId h t
  | inText =>
    cases p with
    | text content => exact onContent_inText h content
    | tool t => exact onToolCall_inText newToolId h t
  | inTool i n =>
    cases p with
    | text content => exact onContent_inTool h content
    | tool t =>
      by_cases ht : t.tcIndex = i
      · simpa [StreamPhase.step, onPiece, ht] using arguments_inTool newToolId h ht
      · simpa [StreamPhase.step, onPiece, ht] using onToolCall_other newToolId h ht
  | broken =>
    have hstay : StreamPhase.step .broken p = .broken := by cases p <;> rfl
    rw [hstay]
    exact onPiece_broken newToolId h p

/-! ## A whole stream -/

theorem onPieces_at (h : s.At phase) (ps : List Piece) :
    (ps.foldl (onPiece newToolId) s).At (ps.foldl StreamPhase.step phase) := by
  induction ps generalizing s phase with
  | nil => exact h
  | cons p ps ih => exact ih (onPiece_at newToolId h p)

theorem note_at (h : s.At phase) (c : WireChunk) : (c.note s).At phase := by
  cases phase with
  | broken => exact h
  | _ => exact ⟨h.blockIndex, h.textBlockOpen, h.toolBlocks, h.scanned⟩

theorem onChunks_at (h : s.At phase) (chunks : List WireChunk) :
    (chunks.foldl (onChunk newToolId) s).At ((piecesOf chunks).foldl StreamPhase.step phase) := by
  induction chunks generalizing s phase with
  | nil => exact h
  | cons c chunks ih =>
    have hc : (onChunk newToolId s c).At (c.pieces.foldl StreamPhase.step phase) := by
      rw [onChunk_eq]
      exact onPieces_at newToolId (note_at h c) c.pieces
    have hpieces : piecesOf (c :: chunks) = c.pieces ++ piecesOf chunks := List.flatMap_cons
    rw [List.foldl_cons, hpieces, List.foldl_append]
    exact ih hc

theorem onLines_at (loads : String → Option WireChunk) (lines : List String) :
    (onLines newToolId loads lines).At (phaseOf (piecesOf (chunksOf loads lines))) := by
  rw [onLines_eq]
  have hblank : ({} : StreamState).At .blank := ⟨rfl, rfl, rfl, rfl⟩
  exact onChunks_at newToolId hblank _

end Piece

theorem scan_contentEvents (h : s.At phase) :
    (∃ n, scan (some (.between 0)) s.contentEvents = some (.between n)) ↔ phase ≠ .broken := by
  have hyielded : scan (some (.between 0)) s.yielded = s.scanned := rfl
  cases phase with
  | blank => simp [StreamState.contentEvents, h.textBlockOpen, h.toolBlocks, hyielded, h.scanned]
  | inText =>
    simp [StreamState.contentEvents, h.textBlockOpen, h.blockIndex, scan_append, hyielded, h.scanned, scanStep]
  | inTool i n =>
    simp [StreamState.contentEvents, h.toolBlocks, h.blockIndex, scan_append, hyielded, h.scanned, scanStep]
  | broken =>
    have hs : s.scanned = none := h
    have hnone : scan (some (.between 0)) s.contentEvents = none := by
      unfold StreamState.contentEvents
      split
      · rw [scan_append, hyielded, hs, scan_none]
      · rw [hyielded, hs]
    simp [hnone]

/-! ## The condition -/

theorem phase_texts (texts : List String) (phase : StreamPhase) (h : phase = .blank ∨ phase = .inText) :
    (texts.map Piece.text).foldl StreamPhase.step phase = phase ∨ (texts.map Piece.text).foldl StreamPhase.step phase = .inText := by
  induction texts generalizing phase with
  | nil => exact .inl rfl
  | cons text texts ih =>
    right
    have hstep : phase.step (.text text) = .inText := by rcases h with rfl | rfl <;> rfl
    have hrest := ih .inText (.inr rfl)
    simpa [hstep] using hrest

theorem phase_fragments (fragments : List ToolCallDelta) (h : ∀ t ∈ fragments, t.tcIndex = i) :
    (fragments.map Piece.tool).foldl StreamPhase.step (.inTool i n) = .inTool i n := by
  induction fragments with
  | nil => rfl
  | cons t ts ih =>
    have hstep : (StreamPhase.inTool i n).step (.tool t) = .inTool i n := by simp [StreamPhase.step, h t (by simp)]
    rw [List.map_cons, List.foldl_cons, hstep]
    exact ih fun u hu => h u (by simp [hu])

variable (ps : List Piece)

theorem phase_broken : ps.foldl StreamPhase.step .broken = .broken := by
  induction ps with
  | nil => rfl
  | cons p ps ih =>
    have hstay : StreamPhase.step .broken p = .broken := by cases p <;> rfl
    rw [List.foldl_cons, hstay, ih]

theorem fragments_of_phase (h : ps.foldl StreamPhase.step (.inTool i n) ≠ .broken) :
    ∃ fragments : List ToolCallDelta, ps = fragments.map .tool ∧ ∀ t ∈ fragments, t.tcIndex = i := by
  induction ps with
  | nil => exact ⟨[], rfl, by simp⟩
  | cons p ps ih =>
    cases p with
    | text content => exact absurd (phase_broken ps) h
    | tool t =>
      by_cases ht : t.tcIndex = i
      · have hstep : (StreamPhase.inTool i n).step (.tool t) = .inTool i n := by simp [StreamPhase.step, ht]
        rw [List.foldl_cons, hstep] at h
        obtain ⟨fragments, rfl, hall⟩ := ih h
        exact ⟨t :: fragments, rfl, by simpa [ht] using hall⟩
      · have hstep : (StreamPhase.inTool i n).step (.tool t) = .broken := by simp [StreamPhase.step, ht]
        rw [List.foldl_cons, hstep] at h
        exact absurd (phase_broken ps) h

theorem oneCall_of_phase (phase : StreamPhase) (hphase : phase = .blank ∨ phase = .inText)
    (h : ps.foldl StreamPhase.step phase ≠ .broken) : OneCallAfterText ps := by
  induction ps generalizing phase with
  | nil => exact ⟨[], [], 0, rfl, by simp⟩
  | cons p ps ih =>
    cases p with
    | text content =>
      have hstep : phase.step (.text content) = .inText := by rcases hphase with rfl | rfl <;> rfl
      rw [List.foldl_cons, hstep] at h
      obtain ⟨texts, fragments, i, rfl, hall⟩ := ih .inText (.inr rfl) h
      exact ⟨content :: texts, fragments, i, rfl, hall⟩
    | tool t =>
      have hstep : ∃ n, phase.step (.tool t) = .inTool t.tcIndex n := by
        rcases hphase with rfl | rfl
        · exact ⟨0, rfl⟩
        · exact ⟨1, rfl⟩
      obtain ⟨n, hstep⟩ := hstep
      rw [List.foldl_cons, hstep] at h
      obtain ⟨fragments, rfl, hall⟩ := fragments_of_phase ps h
      exact ⟨[], t :: fragments, t.tcIndex, rfl, by simpa using hall⟩

/-- The condition is that no piece breaks the stream. -/
theorem phaseOf_ne_broken : phaseOf ps ≠ .broken ↔ OneCallAfterText ps := by
  constructor
  · exact oneCall_of_phase ps .blank (.inl rfl)
  · rintro ⟨texts, fragments, i, rfl, hall⟩
    have htexts := phase_texts texts .blank (.inl rfl)
    rw [phaseOf, List.foldl_append]
    cases fragments with
    | nil => rcases htexts with h | h <;> rw [h] <;> simp
    | cons t ts =>
      have hts : ∀ u ∈ ts, u.tcIndex = t.tcIndex := fun u hu => by
        rw [hall t (by simp), hall u (by simp [hu])]
      rcases htexts with h | h
      · rw [h, List.map_cons, List.foldl_cons, StreamPhase.step, phase_fragments ts hts]
        simp
      · rw [h, List.map_cons, List.foldl_cons, StreamPhase.step, phase_fragments ts hts]
        simp

/-! ## The law -/

section Law

variable (newToolId : Int → String) (loads : String → Option WireChunk) (lines : List String) (model messageId : String)

theorem wellFormed_iff_scan : WellFormedEvents (streamAnthropicEvents newToolId loads lines model messageId) ↔
      ∃ n, scan (some (.between 0)) (onLines newToolId loads lines).contentEvents = some (.between n) := by
  constructor
  · rintro ⟨id, model', blocks, stopReason, usage, h⟩
    obtain ⟨-, h⟩ := List.cons_eq_cons.mp h
    have hlast : [AnthropicEvent.messageDelta (onLines newToolId loads lines).stopReason
        (onLines newToolId loads lines).anthropicUsage, .messageStop].length =
        [AnthropicEvent.messageDelta stopReason usage, .messageStop].length := rfl
    have hcontent := (List.append_inj' h hlast).1
    have hinj : Function.Injective AnthropicEvent.content := fun _ _ he => by injection he
    rw [List.map_injective_iff.mpr hinj hcontent]
    exact ⟨_, scan_render blocks 0⟩
  · rintro ⟨n, h⟩
    obtain ⟨blocks, hblocks⟩ := exists_render h
    exact ⟨messageId, model, blocks, (onLines newToolId loads lines).stopReason,
      (onLines newToolId loads lines).anthropicUsage, by rw [streamAnthropicEvents, hblocks]⟩

theorem wellFormed_iff_phase : WellFormedEvents (streamAnthropicEvents newToolId loads lines model messageId) ↔
      phaseOf (piecesOf (chunksOf loads lines)) ≠ .broken := by
  rw [wellFormed_iff_scan, scan_contentEvents (onLines_at newToolId loads lines)]

theorem not_endsInError : ¬ EndsInError (streamAnthropicEvents newToolId loads lines model messageId) := by
  rintro ⟨message, h⟩
  have hlast : streamAnthropicEvents newToolId loads lines model messageId =
      (.messageStart messageId model :: (onLines newToolId loads lines).contentEvents.map .content ++
        [.messageDelta (onLines newToolId loads lines).stopReason (onLines newToolId loads lines).anthropicUsage]) ++
        [.messageStop] := by
    simp [streamAnthropicEvents]
  rw [hlast, List.getLast?_concat] at h
  cases h

/-- **The event stream keeps its promise exactly if** no line is an error chunk and the pieces are texts and then fragments of
    one call. -/
theorem stream_kept_iff :
    StreamKept (chunksOf loads lines) (streamAnthropicEvents newToolId loads lines model messageId) ↔
      (∀ c ∈ chunksOf loads lines, c.error = none) ∧ OneCallAfterText (piecesOf (chunksOf loads lines)) := by
  have hcontent : WellFormedEvents (streamAnthropicEvents newToolId loads lines model messageId) ↔
      OneCallAfterText (piecesOf (chunksOf loads lines)) := by
    rw [wellFormed_iff_phase, phaseOf_ne_broken]
  unfold StreamKept
  split
  next herror =>
    obtain ⟨c, hc, hsome⟩ := herror
    constructor
    · intro h
      exact absurd h (not_endsInError newToolId loads lines model messageId)
    · rintro ⟨hnone, -⟩
      simp [hnone c hc] at hsome
  next hfree =>
    have hnone : ∀ c ∈ chunksOf loads lines, c.error = none := by
      intro c hc
      by_contra h
      exact hfree ⟨c, hc, Option.isSome_iff_ne_none.mpr h⟩
    rw [hcontent]
    exact ⟨fun h => ⟨hnone, h⟩, fun h => h.2⟩

end Law

/-! ## Two calls in one answer -/

/-- The text of a chunk that starts call `i`. -/
def callText (i : String) : String :=
  "\x7b\"choices\":[\x7b\"delta\":\x7b\"tool_calls\":[\x7b\"index\":" ++ i ++ ",\"id\":\"a" ++ i ++ "\"\x7d]\x7d\x7d]\x7d"

def callChunk (i : Int) (id : String) : WireChunk where
  choices := [{ toolCalls := [{ index := i, id }] }]

/-- `json.loads` on the lines of the example. -/
def loadsCall (payload : String) : Option WireChunk :=
  if payload = callText "0" then some (callChunk 0 "a0")
  else if payload = callText "1" then some (callChunk 1 "a1")
  else none

def twoCalls : List String := ["data: " ++ callText "0" ++ "\n\n", "data: " ++ callText "1" ++ "\n\n"]

theorem chunksOf_twoCalls : chunksOf loadsCall twoCalls = [callChunk 0 "a0", callChunk 1 "a1"] := by
  decide +kernel

/-- Two tool calls: the block of the first is never stopped. -/
theorem parallel_calls_break :
    ¬ StreamKept (chunksOf loadsCall twoCalls)
        (streamAnthropicEvents (fun n => "toolu_" ++ n.repr) loadsCall twoCalls "claude" "msg_1") := by
  have hfree : ¬ ∃ c ∈ [callChunk 0 "a0", callChunk 1 "a1"], c.error.isSome := by simp [callChunk]
  have hbroken : phaseOf (piecesOf [callChunk 0 "a0", callChunk 1 "a1"]) = .broken := by decide
  unfold StreamKept
  rw [wellFormed_iff_phase, chunksOf_twoCalls, if_neg hfree, hbroken]
  exact fun h => h rfl

end Gatewayz
