import Gatewayz.Messages.Route
import Mathlib.Data.List.Induction

/-!
# `Correctness.MessageAgrees` — `/v1/messages` returns what the model said

The same completion reaches a client in one piece, through `transform_openai_to_anthropic`, or as events, through
`_stream_anthropic_events`. Both must say the same: text, tool calls, stop reason, usage.

They do not. In one piece the endpoint always fails, since `chat_completions` returns a response object and `create_message`
wants a dictionary. As events the answer differs in three cases: a text of white space only, which the translation drops; a
stop sequence, which only the translation looks for; and tool calls that begin out of order.
-/

namespace Gatewayz

open Exec

/-! ## What is said -/

/-- Usage as four counts; a count that is left out is zero. -/
structure UsageCounts where
  input : Nat
  output : Nat
  cacheRead : Nat
  cacheCreation : Nat

def AnthropicUsage.counts (u : AnthropicUsage) : UsageCounts :=
  ⟨u.inputTokens, u.outputTokens, u.cacheReadInputTokens.getD 0, u.cacheCreationInputTokens.getD 0⟩

/-- What a client is told: the text, the tool calls with id, name and input, why the model stopped, and the usage. -/
structure Said (J : Type) where
  text : String
  toolUses : List (String × String × J)
  stopReason : Option String
  usage : Option UsageCounts

section Said

variable {J : Type}

def ContentBlock.textPart : ContentBlock J → String
  | .text t => t
  | _ => ""

def ContentBlock.toolUse? : ContentBlock J → Option (String × String × J)
  | .toolUse id name input => some (id, name, input)
  | _ => none

def AnthropicMessage.said (m : AnthropicMessage J) : Said J where
  text := concat (m.content.map ContentBlock.textPart)
  toolUses := m.content.filterMap ContentBlock.toolUse?
  stopReason := some m.stopReason
  usage := some m.usage.counts

def BlockDelta.textPart : BlockDelta → String
  | .text t => t
  | .inputJson _ => ""

def BlockDelta.jsonPart : BlockDelta → String
  | .text _ => ""
  | .inputJson partialJson => partialJson

def textOfBlock (b : Block BlockStart BlockDelta) : String :=
  match b.header with
  | .text => concat (b.items.map BlockDelta.textPart)
  | .toolUse _ _ => ""

def toolUseOfBlock (loads : String → Option J) (emptyObject : J) (b : Block BlockStart BlockDelta) :
    Option (String × String × J) :=
  match b.header with
  | .text => none
  | .toolUse id name => some (id, name, parseArguments loads emptyObject (concat (b.items.map BlockDelta.jsonPart)))

def AnthropicEvent.content? : AnthropicEvent → Option ContentEvent
  | .content e => some e
  | _ => none

def AnthropicEvent.messageEnd? : AnthropicEvent → Option (String × AnthropicUsage)
  | .messageDelta stopReason usage => some (stopReason, usage)
  | _ => none

/-- What a client assembles from events. -/
def saidByEvents (loads : String → Option J) (emptyObject : J) (events : List AnthropicEvent) : Said J :=
  let blocks := assemble (events.filterMap AnthropicEvent.content?)
  let messageEnd := events.findSome? AnthropicEvent.messageEnd?
  { text := concat (blocks.map textOfBlock)
    toolUses := blocks.filterMap (toolUseOfBlock loads emptyObject)
    stopReason := messageEnd.map Prod.fst
    usage := messageEnd.map fun e => e.2.counts }

end Said

/-! ## Cutting a completion into chunks -/

def Piece.textPart : Piece → String
  | .text content => content
  | .tool _ => ""

def Piece.fragment? : Piece → Option ToolCallDelta
  | .text _ => none
  | .tool t => some t

/-- The fragments of the tool call with index `i`. -/
def fragmentsOf (ps : List Piece) (i : Int) : List ToolCallDelta :=
  (ps.filterMap Piece.fragment?).filter (·.tcIndex = i)

def argumentsOf (ts : List ToolCallDelta) : String := concat (ts.map fun t => t.arguments.getD "")

def lastFinishReason (chunks : List WireChunk) : String :=
  chunks.foldl (fun r c => if c.finishReason = "" then r else c.finishReason) "stop"

def lastUsage (chunks : List WireChunk) : WireUsage := chunks.foldl (fun u c => c.usageAfter u) {}

/-- A completion cut into chunks. The text is cut anywhere, and so are the arguments of each call; the first fragment of a
    call has its id and name. A call's index is its place in the completion. -/
structure CutInto (r : Completion) (chunks : List WireChunk) : Prop where
  content : concat ((piecesOf chunks).map Piece.textPart) = r.content
  calls : ∀ (k : Nat) (call : ToolCall), r.toolCalls[k]? = some call →
    (∃ first rest, fragmentsOf (piecesOf chunks) k = first :: rest ∧ first.id = some call.id ∧ first.name = some call.name) ∧
    argumentsOf (fragmentsOf (piecesOf chunks) k) = call.arguments
  noOther : ∀ t, Piece.tool t ∈ piecesOf chunks → ∃ k : Nat, t.tcIndex = k ∧ k < r.toolCalls.length
  finishReason : lastFinishReason chunks = r.finishReason
  usage : lastUsage chunks = r.usage

def begun (ps : List Piece) : List Int :=
  (ps.filterMap Piece.fragment?).foldl (fun is t => if t.tcIndex ∈ is then is else is ++ [t.tcIndex]) []

/-! ## Entries -/

/-- A block, and the index of its call if it is one of a call. -/
structure Entry where
  call : Option Int
  block : Block BlockStart BlockDelta

/-- Where the blocks of calls are, from position `n` on. -/
def positions : Int → List Entry → List (Int × Int)
  | _, [] => []
  | n, e :: es =>
    match e.call with
    | some i => (i, n) :: positions (n + 1) es
    | none => positions (n + 1) es

/-- Arguments for call `i`. -/
def pushCall (i : Int) (x : BlockDelta) (es : List Entry) : List Entry :=
  es.map fun e => if e.call = some i then { e with block := e.block.push x } else e

def endsInText (es : List Entry) : Bool := (es.getLast?.map Entry.call) = some none

theorem positions_append (es fs : List Entry) (n : Int) :
    positions n (es ++ fs) = positions n es ++ positions (n + es.length) fs := by
  induction es generalizing n with
  | nil => simp [positions]
  | cons e es ih =>
    have hn : n + 1 + (es.length : Int) = n + (es.length + 1 : Nat) := by omega
    cases he : e.call <;> simp [positions, he, ih, hn]

theorem positions_pushCall (i : Int) (x : BlockDelta) (es : List Entry) (n : Int) :
    positions n (pushCall i x es) = positions n es := by
  induction es generalizing n with
  | nil => rfl
  | cons e es ih =>
    have hcall : (if e.call = some i then { e with block := e.block.push x } else e).call = e.call := by
      split <;> rfl
    simp only [pushCall, List.map_cons, positions, hcall] at ih ⊢
    cases e.call <;> simp [ih]

theorem calls_positions (es : List Entry) (n : Int) : (positions n es).map Prod.fst = es.filterMap Entry.call := by
  induction es generalizing n with
  | nil => rfl
  | cons e es ih => cases he : e.call <;> simp [positions, he, ih]

/-- The block of a call is where `positions` says, and no other block is of that call. -/
theorem modify_position {i m : Int} (x : BlockDelta) :
    ∀ {es : List Entry} {n : Int}, (es.filterMap Entry.call).Nodup → (positions n es).lookup i = some m →
      ∃ k : Nat, m = n + k ∧ (es.map Entry.block).modify k (·.push x) = (pushCall i x es).map Entry.block := by
  intro es
  induction es with
  | nil => intro n _ h; simp [positions] at h
  | cons e es ih =>
    intro n hnodup h
    cases he : e.call with
    | none =>
      simp only [positions, he] at h
      obtain ⟨k, hk, hmod⟩ := ih (by simpa [he] using hnodup) h
      refine ⟨k + 1, by omega, ?_⟩
      simpa [pushCall, he] using hmod
    | some j =>
      by_cases hij : i = j
      · subst hij
        have hrest : ∀ f ∈ es, f.call ≠ some i := by
          intro f hf hfi
          have hmem : i ∈ es.filterMap Entry.call := List.mem_filterMap.mpr ⟨f, hf, hfi⟩
          simp [he] at hnodup
          exact hnodup.1 f hf hfi
        have hm : m = n := by simpa [positions, he] using h.symm
        refine ⟨0, by omega, ?_⟩
        have hsame : pushCall i x es = es := by
          unfold pushCall
          conv_rhs => rw [← List.map_id es]
          exact List.map_congr_left fun f hf => by simp [hrest f hf]
        have hcons : pushCall i x (e :: es) = { e with block := e.block.push x } :: pushCall i x es := by
          simp [pushCall, he]
        rw [hcons, hsame]
        rfl
      · have hne : ¬ (j = i) := fun hji => hij hji.symm
        have htail : (positions (n + 1) es).lookup i = some m := by
          have hbeq : (i == j) = false := by simpa using hij
          simpa [positions, he, List.lookup_cons, hbeq] using h
        have hnodup' : (es.filterMap Entry.call).Nodup := by
          simp [he] at hnodup
          exact hnodup.2
        obtain ⟨k, hk, hmod⟩ := ih hnodup' htail
        refine ⟨k + 1, by omega, ?_⟩
        simpa [pushCall, he, hne] using hmod

/-! ## The generator and its entries -/

def pushLast (x : BlockDelta) (es : List Entry) : List Entry :=
  es.modify (es.length - 1) fun e => { e with block := e.block.push x }

theorem pushLast_concat (x : BlockDelta) (es : List Entry) (e : Entry) :
    pushLast x (es ++ [e]) = es ++ [{ e with block := e.block.push x }] := by
  have hmod : ∀ fs : List Entry, (fs ++ [e]).modify fs.length (fun e => { e with block := e.block.push x }) =
      fs ++ [{ e with block := e.block.push x }] := by
    intro fs
    induction fs with
    | nil => rfl
    | cons f fs ih => simpa using ih
  simpa [pushLast] using hmod es

theorem exists_of_endsInText {es : List Entry} (h : endsInText es = true) : ∃ fs e, es = fs ++ [e] ∧ e.call = none := by
  obtain rfl | ⟨fs, e, rfl⟩ := es.eq_nil_or_concat
  · simp [endsInText] at h
  · exact ⟨fs, e, by simp, by simpa [endsInText] using h⟩

/-- The entries go with the variables of the generator. -/
structure EntriesKept (s : StreamState) (es : List Entry) : Prop where
  blocks : assemble s.yielded = es.map Entry.block
  blockIndex : s.blockIndex + 1 = es.length
  textBlockOpen : s.textBlockOpen = endsInText es
  toolBlocks : s.toolBlocks = positions 0 es
  nodup : (es.filterMap Entry.call).Nodup

def withText (es : List Entry) : List Entry := if endsInText es then es else es ++ [⟨none, ⟨.text, []⟩⟩]

theorem endsInText_withText (es : List Entry) : endsInText (withText es) = true := by
  unfold withText
  split
  · assumption
  · simp [endsInText]

variable {s : StreamState}

theorem kept_openText {es : List Entry} (h : EntriesKept s es) : EntriesKept (openText s) (withText es) := by
  cases htext : endsInText es with
  | true => simpa [openText, withText, h.textBlockOpen, htext] using h
  | false =>
    have hopen : s.textBlockOpen = false := by rw [h.textBlockOpen, htext]
    have hes : withText es = es ++ [⟨none, ⟨.text, []⟩⟩] := by simp [withText, htext]
    rw [hes]
    constructor
    · simp [openText, hopen, StreamState.emit, h.blocks, assembleStep]
    · simp [openText, hopen, StreamState.emit, h.blockIndex]
    · simp [openText, hopen, StreamState.emit, endsInText]
    · simp [openText, hopen, StreamState.emit, h.toolBlocks, positions_append, positions]
    · simpa using h.nodup

theorem kept_pushLast {es : List Entry} (h : EntriesKept s es) (htext : endsInText es = true) (x : BlockDelta) :
    EntriesKept (s.emit (.item s.blockIndex x)) (pushLast x es) := by
  obtain ⟨fs, e, rfl, he⟩ := exists_of_endsInText htext
  have hindex : s.blockIndex = fs.length := by
    have hlen := h.blockIndex
    rw [List.length_append, List.length_singleton] at hlen
    omega
  rw [pushLast_concat]
  constructor
  · rw [StreamState.emit, assemble_concat, h.blocks, assembleStep, hindex, Int.toNat_natCast, List.map_append,
      List.map_singleton]
    simpa using push_last (fs.map Entry.block) e.block x
  · simpa [StreamState.emit] using h.blockIndex
  · simpa [StreamState.emit, endsInText] using h.textBlockOpen
  · simpa [StreamState.emit, positions_append, positions, he] using h.toolBlocks
  · simpa [StreamState.emit, he] using h.nodup

theorem kept_onContent {es : List Entry} (h : EntriesKept s es) (content : String) :
    EntriesKept (onContent s content) (pushLast (.text content) (withText es)) :=
  kept_pushLast (kept_openText h) (endsInText_withText es) (.text content)

section Entries

variable (newToolId : Int → String)

def newCall (es : List Entry) (t : ToolCallDelta) : Entry :=
  ⟨some t.tcIndex, ⟨.toolUse (t.id.getD (newToolId es.length)) (t.name.getD ""), []⟩⟩

def withCall (es : List Entry) (t : ToolCallDelta) : List Entry :=
  if t.tcIndex ∈ es.filterMap Entry.call then es else es ++ [newCall newToolId es t]

/-- What a piece does to the entries. -/
def entriesAfter (es : List Entry) : Piece → List Entry
  | .text content => pushLast (.text content) (withText es)
  | .tool t =>
    if t.arguments.getD "" = "" then withCall newToolId es t
    else pushCall t.tcIndex (.inputJson (t.arguments.getD "")) (withCall newToolId es t)

theorem mem_withCall (es : List Entry) (t : ToolCallDelta) : t.tcIndex ∈ (withCall newToolId es t).filterMap Entry.call := by
  unfold withCall
  split
  · assumption
  · simp [newCall]

theorem lookup_isSome {i : Int} (l : List (Int × Int)) : (l.lookup i).isSome ↔ i ∈ l.map Prod.fst := by
  rw [List.lookup_isSome_iff, List.mem_map]
  exact exists_congr fun e => and_congr_right fun _ => beq_iff_eq.trans eq_comm

theorem kept_openTool {es : List Entry} (h : EntriesKept s es) {t : ToolCallDelta}
    (ht : t.tcIndex ∉ es.filterMap Entry.call) :
    EntriesKept (openTool newToolId s t) (es ++ [newCall newToolId es t]) := by
  have hclose : (closeText s).blockIndex = s.blockIndex ∧ (closeText s).toolBlocks = s.toolBlocks ∧
      (closeText s).textBlockOpen = false ∧ assemble (closeText s).yielded = assemble s.yielded := by
    cases hopen : s.textBlockOpen <;> simp [closeText, hopen, StreamState.emit, assembleStep]
  obtain ⟨hindex, hcalls, htext, hblocks⟩ := hclose
  constructor
  · simp [openTool, StreamState.emit, hblocks, h.blocks, assembleStep, newCall, hindex, h.blockIndex]
  · simp [openTool, StreamState.emit, hindex, h.blockIndex]
  · simp [openTool, StreamState.emit, htext, endsInText, newCall]
  · simp [openTool, StreamState.emit, hcalls, h.toolBlocks, positions_append, positions, newCall, hindex, h.blockIndex]
  · have hnodup := h.nodup
    rw [List.filterMap_append, List.nodup_append]
    refine ⟨hnodup, by simp [newCall], ?_⟩
    intro i hi j hj hij
    have hj' : j = t.tcIndex := by simpa [newCall] using hj
    exact ht (hj' ▸ hij ▸ hi)

theorem kept_pushCall {es : List Entry} (h : EntriesKept s es) {i : Int}
    (hi : i ∈ es.filterMap Entry.call) (x : BlockDelta) :
    EntriesKept (s.emit (.item ((s.toolBlocks.lookup i).getD 0) x)) (pushCall i x es) := by
  have hsome : (s.toolBlocks.lookup i).isSome := by
    rw [h.toolBlocks, lookup_isSome, calls_positions]
    exact hi
  obtain ⟨m, hm⟩ := Option.isSome_iff_exists.mp hsome
  obtain ⟨k, hk, hmod⟩ := modify_position x h.nodup (h.toolBlocks ▸ hm)
  have hk' : m.toNat = k := by omega
  have hlen : (pushCall i x es).length = es.length := by simp [pushCall]
  have hcalls : (pushCall i x es).map Entry.call = es.map Entry.call := by
    rw [pushCall, List.map_map]
    apply List.map_congr_left
    intro e _
    simp only [Function.comp]
    split <;> rfl
  constructor
  · rw [StreamState.emit, assemble_concat, h.blocks, assembleStep, hm, Option.getD_some, hk', hmod]
  · rw [hlen]
    exact h.blockIndex
  · have hlast : endsInText (pushCall i x es) = endsInText es := by
      rw [endsInText, endsInText, ← List.getLast?_map, ← List.getLast?_map, hcalls]
    rw [hlast]
    exact h.textBlockOpen
  · rw [positions_pushCall]
    exact h.toolBlocks
  · have hfilter : (pushCall i x es).filterMap Entry.call = es.filterMap Entry.call := by
      have hid : ∀ fs : List Entry, fs.filterMap Entry.call = (fs.map Entry.call).filterMap id := by
        intro fs
        rw [List.filterMap_map]
        rfl
      rw [hid, hcalls, ← hid]
    rw [hfilter]
    exact h.nodup

theorem kept_onToolCall {es : List Entry} (h : EntriesKept s es) (t : ToolCallDelta) :
    EntriesKept (onToolCall newToolId s t) (entriesAfter newToolId es (.tool t)) := by
  have hknown : (s.toolBlocks.lookup t.tcIndex).isSome ↔ t.tcIndex ∈ es.filterMap Entry.call := by
    rw [h.toolBlocks, lookup_isSome, calls_positions]
  have hblock : EntriesKept (if (s.toolBlocks.lookup t.tcIndex).isSome then s else openTool newToolId s t)
      (withCall newToolId es t) := by
    by_cases hmem : t.tcIndex ∈ es.filterMap Entry.call
    · simpa only [withCall, if_pos (hknown.mpr hmem), if_pos hmem] using h
    · have hnot : ¬ (s.toolBlocks.lookup t.tcIndex).isSome := fun hs => hmem (hknown.mp hs)
      rw [if_neg hnot, withCall, if_neg hmem]
      exact kept_openTool newToolId h hmem
  unfold onToolCall entriesAfter
  by_cases harg : t.arguments.getD "" = ""
  · simpa only [if_pos harg] using hblock
  · simpa only [if_neg harg] using kept_pushCall hblock (mem_withCall newToolId es t) _

theorem kept_onPiece {es : List Entry} (h : EntriesKept s es) (p : Piece) :
    EntriesKept (onPiece newToolId s p) (entriesAfter newToolId es p) := by
  cases p with
  | text content => exact kept_onContent h content
  | tool t => exact kept_onToolCall newToolId h t

end Entries

/-! ## What the entries tell -/

@[simp] theorem textOfBlock_push_json (b : Block BlockStart BlockDelta) (args : String) :
    textOfBlock (b.push (.inputJson args)) = textOfBlock b := by
  obtain ⟨header, items⟩ := b
  cases header <;> simp [textOfBlock, Block.push, BlockDelta.textPart]

theorem textOfBlock_push_text {b : Block BlockStart BlockDelta} (h : b.header = .text) (content : String) :
    textOfBlock (b.push (.text content)) = textOfBlock b ++ content := by
  simp [textOfBlock, Block.push, h, BlockDelta.textPart]

def textOfEntries (es : List Entry) : String := concat (es.map fun e => textOfBlock e.block)

/-- What the block of a call must hold: id and name of the first fragment, and all arguments. -/
structure CallBlock (newToolId : Int → String) (fragments : List ToolCallDelta) (b : Block BlockStart BlockDelta) : Prop where
  header : ∃ first rest n, fragments = first :: rest ∧
    b.header = .toolUse (first.id.getD (newToolId n)) (first.name.getD "")
  arguments : concat (b.items.map BlockDelta.jsonPart) = argumentsOf fragments

structure Told (newToolId : Int → String) (ps : List Piece) (es : List Entry) : Prop where
  text : textOfEntries es = concat (ps.map Piece.textPart)
  begun : es.filterMap Entry.call = begun ps
  texts : ∀ e ∈ es, e.call = none → e.block.header = .text
  calls : ∀ e ∈ es, ∀ i, e.call = some i → CallBlock newToolId (fragmentsOf ps i) e.block

theorem textOfEntries_append (es fs : List Entry) : textOfEntries (es ++ fs) = textOfEntries es ++ textOfEntries fs := by
  simp [textOfEntries]

@[simp] theorem fragmentsOf_text (ps : List Piece) (content : String) (i : Int) :
    fragmentsOf (ps ++ [.text content]) i = fragmentsOf ps i := by
  simp [fragmentsOf, Piece.fragment?]

theorem fragmentsOf_tool (ps : List Piece) (t : ToolCallDelta) (i : Int) :
    fragmentsOf (ps ++ [.tool t]) i = if t.tcIndex = i then fragmentsOf ps i ++ [t] else fragmentsOf ps i := by
  by_cases h : t.tcIndex = i <;> simp [fragmentsOf, Piece.fragment?, h]

@[simp] theorem begun_text (ps : List Piece) (content : String) : begun (ps ++ [.text content]) = begun ps := by
  rw [begun, List.filterMap_append, List.foldl_append]
  rfl

theorem begun_tool (ps : List Piece) (t : ToolCallDelta) :
    begun (ps ++ [.tool t]) = if t.tcIndex ∈ begun ps then begun ps else begun ps ++ [t.tcIndex] := by
  rw [begun, List.filterMap_append, List.foldl_append]
  rfl

theorem mem_begun (ps : List Piece) (i : Int) : i ∈ begun ps ↔ fragmentsOf ps i ≠ [] := by
  induction ps using List.reverseRecOn with
  | nil => simp [begun, fragmentsOf]
  | append_singleton ps p ih =>
    cases p with
    | text content => simpa using ih
    | tool t =>
      rw [begun_tool, fragmentsOf_tool]
      by_cases hi : t.tcIndex = i
      · subst hi
        by_cases hmem : t.tcIndex ∈ begun ps <;> simp [hmem]
      · have hne : ¬ i = t.tcIndex := fun h => hi h.symm
        by_cases hmem : t.tcIndex ∈ begun ps <;> simp [hmem, hi, hne, ih]

section Told

variable {newToolId : Int → String} {ps : List Piece} {es : List Entry}

theorem told_withText (h : Told newToolId ps es) : Told newToolId ps (withText es) := by
  unfold withText
  split
  · exact h
  · constructor
    · rw [textOfEntries_append, h.text]
      simp [textOfEntries, textOfBlock]
    · simpa using h.begun
    · intro e he hcall
      rcases List.mem_append.mp he with he | he
      · exact h.texts e he hcall
      · rw [List.mem_singleton.mp he]
    · intro e he i hcall
      rcases List.mem_append.mp he with he | he
      · exact h.calls e he i hcall
      · rw [List.mem_singleton.mp he] at hcall
        cases hcall

theorem told_text (h : Told newToolId ps es) (content : String) :
    Told newToolId (ps ++ [.text content]) (pushLast (.text content) (withText es)) := by
  have hw := told_withText h
  obtain ⟨fs, e, hes, he⟩ := exists_of_endsInText (endsInText_withText es)
  rw [hes] at hw ⊢
  have hheader : e.block.header = .text := hw.texts e (by simp) he
  rw [pushLast_concat]
  constructor
  · have htext := hw.text
    rw [textOfEntries_append] at htext ⊢
    have hlast : textOfEntries [{ e with block := e.block.push (.text content) }] = textOfEntries [e] ++ content := by
      simp [textOfEntries, textOfBlock_push_text hheader]
    rw [hlast, ← String.append_assoc, htext, List.map_append, concat_append]
    simp [Piece.textPart]
  · rw [begun_text, ← hw.begun]
    simp [List.filterMap_cons]
  · intro f hf hcall
    rcases List.mem_append.mp hf with hf | hf
    · exact hw.texts f (by simp [hf]) hcall
    · rw [List.mem_singleton.mp hf]
      exact hheader
  · intro f hf i hcall
    rw [fragmentsOf_text]
    rcases List.mem_append.mp hf with hf | hf
    · exact hw.calls f (by simp [hf]) i hcall
    · rw [List.mem_singleton.mp hf] at hcall
      rw [he] at hcall
      cases hcall

theorem argumentsOf_concat (ts : List ToolCallDelta) (t : ToolCallDelta) :
    argumentsOf (ts ++ [t]) = argumentsOf ts ++ t.arguments.getD "" := by
  simp [argumentsOf]

theorem callBlock_more {ts : List ToolCallDelta} {b : Block BlockStart BlockDelta} (h : CallBlock newToolId ts b)
    (t : ToolCallDelta) : CallBlock newToolId (ts ++ [t])
      (if t.arguments.getD "" = "" then b else b.push (.inputJson (t.arguments.getD ""))) := by
  obtain ⟨first, rest, n, rfl, hheader⟩ := h.header
  constructor
  · refine ⟨first, rest ++ [t], n, rfl, ?_⟩
    split
    · exact hheader
    · exact hheader
  · rw [argumentsOf_concat]
    split
    next harg => rw [harg, String.append_empty, h.arguments]
    next harg => simp [Block.push, BlockDelta.jsonPart, h.arguments]

def Entry.hear (t : ToolCallDelta) (e : Entry) : Entry :=
  if e.call = some t.tcIndex then
    { e with block := if t.arguments.getD "" = "" then e.block else e.block.push (.inputJson (t.arguments.getD "")) }
  else e

theorem entriesAfter_tool (es : List Entry) (t : ToolCallDelta) :
    entriesAfter newToolId es (.tool t) = (withCall newToolId es t).map (Entry.hear t) := by
  by_cases harg : t.arguments.getD "" = ""
  · have hid : Entry.hear t = id := by
      funext e
      simp [Entry.hear, harg]
    simp [entriesAfter, harg, hid]
  · have hpush : Entry.hear t = fun e =>
        if e.call = some t.tcIndex then { e with block := e.block.push (.inputJson (t.arguments.getD "")) } else e := by
      funext e
      simp [Entry.hear, harg]
    simp [entriesAfter, harg, pushCall, hpush]

@[simp] theorem hear_call (t : ToolCallDelta) (e : Entry) : (e.hear t).call = e.call := by
  unfold Entry.hear
  split <;> rfl

@[simp] theorem hear_text (t : ToolCallDelta) (e : Entry) : textOfBlock (e.hear t).block = textOfBlock e.block := by
  unfold Entry.hear
  split
  · split <;> simp
  · rfl

theorem told_tool (h : Told newToolId ps es) (t : ToolCallDelta) :
    Told newToolId (ps ++ [.tool t]) (entriesAfter newToolId es (.tool t)) := by
  have hbegun : (withCall newToolId es t).filterMap Entry.call = begun (ps ++ [.tool t]) := by
    rw [begun_tool, ← h.begun, withCall]
    split
    · rfl
    · simp [newCall]
  have hmem : ∀ e ∈ withCall newToolId es t, e ∈ es ∨ (e = newCall newToolId es t ∧ t.tcIndex ∉ begun ps) := by
    intro e he
    unfold withCall at he
    split at he
    next hold => exact .inl he
    next hnew =>
      rcases List.mem_append.mp he with he | he
      · exact .inl he
      · exact .inr ⟨List.mem_singleton.mp he, h.begun ▸ hnew⟩
  rw [entriesAfter_tool]
  constructor
  · have htext : textOfEntries ((withCall newToolId es t).map (Entry.hear t)) = textOfEntries (withCall newToolId es t) := by
      simp [textOfEntries, Function.comp_def]
    have hw : textOfEntries (withCall newToolId es t) = textOfEntries es := by
      unfold withCall
      split
      · rfl
      · rw [textOfEntries_append]
        simp [textOfEntries, newCall, textOfBlock]
    rw [htext, hw, h.text]
    simp [Piece.textPart]
  · rw [List.filterMap_map, ← hbegun]
    congr 1
    funext e
    simp
  · intro e he hcall
    obtain ⟨f, hf, rfl⟩ := List.mem_map.mp he
    rw [hear_call] at hcall
    have hheard : f.hear t = f := by simp [Entry.hear, hcall]
    rw [hheard]
    rcases hmem f hf with hf | ⟨rfl, -⟩
    · exact h.texts f hf hcall
    · cases hcall
  · intro e he i hcall
    obtain ⟨f, hf, rfl⟩ := List.mem_map.mp he
    rw [hear_call] at hcall
    rw [fragmentsOf_tool]
    by_cases hi : t.tcIndex = i
    · subst hi
      rw [if_pos rfl]
      simp only [Entry.hear, hcall, if_true]
      rcases hmem f hf with hf | ⟨rfl, hnew⟩
      · exact callBlock_more (h.calls f hf _ hcall) t
      · have hnone : fragmentsOf ps t.tcIndex = [] := by
          by_contra hne
          exact hnew ((mem_begun ps t.tcIndex).mpr hne)
        rw [hnone, List.nil_append]
        constructor
        · refine ⟨t, [], es.length, rfl, ?_⟩
          split <;> rfl
        · split
          next harg => simp [argumentsOf, harg, newCall]
          next harg => simp [argumentsOf, newCall, Block.push, BlockDelta.jsonPart]
    · rw [if_neg hi]
      have hother : ¬ f.call = some t.tcIndex := by
        rw [hcall]
        intro hsome
        exact hi (Option.some.inj hsome).symm
      simp only [Entry.hear, hother, if_false]
      rcases hmem f hf with hf | ⟨rfl, -⟩
      · exact h.calls f hf i hcall
      · exact absurd rfl hother

theorem told_piece (h : Told newToolId ps es) (p : Piece) : Told newToolId (ps ++ [p]) (entriesAfter newToolId es p) := by
  cases p with
  | text content => exact told_text h content
  | tool t => exact told_tool h t

end Told

/-! ## A whole stream -/

/-- What is left of the chunks at the end: stop reason and usage. -/
structure Noted (chunks : List WireChunk) (s : StreamState) : Prop where
  stopReason : s.stopReason = stopReasonOf (lastFinishReason chunks)
  usage : s.usage = lastUsage chunks

/-- The generator and a list of entries that tells the pieces of some chunks. -/
structure Followed (newToolId : Int → String) (chunks : List WireChunk) (s : StreamState) (es : List Entry) : Prop where
  kept : EntriesKept s es
  told : Told newToolId (piecesOf chunks) es
  noted : Noted chunks s

theorem onPiece_noted (newToolId : Int → String) (s : StreamState) (p : Piece) :
    (onPiece newToolId s p).stopReason = s.stopReason ∧ (onPiece newToolId s p).usage = s.usage := by
  cases p with
  | text content => cases hopen : s.textBlockOpen <;> simp [onPiece, onContent, openText, StreamState.emit, hopen]
  | tool t =>
    have hblock : ∀ b : Bool, (if b then s else openTool newToolId s t).stopReason = s.stopReason ∧
        (if b then s else openTool newToolId s t).usage = s.usage := by
      intro b
      cases b <;> cases hopen : s.textBlockOpen <;> simp [openTool, closeText, StreamState.emit, hopen]
    simp only [onPiece, onToolCall]
    split
    · exact hblock _
    · exact hblock _

theorem pieces_followed {newToolId : Int → String} (ps qs : List Piece) {es : List Entry}
    (hkept : EntriesKept s es) (htold : Told newToolId qs es) :
    ∃ es', EntriesKept (ps.foldl (onPiece newToolId) s) es' ∧ Told newToolId (qs ++ ps) es' ∧
      (ps.foldl (onPiece newToolId) s).stopReason = s.stopReason ∧ (ps.foldl (onPiece newToolId) s).usage = s.usage := by
  induction ps generalizing qs s es with
  | nil => exact ⟨es, hkept, by simpa using htold, rfl, rfl⟩
  | cons p ps ih =>
    obtain ⟨es', hkept', htold', hstop, husage⟩ := ih (qs ++ [p]) (kept_onPiece newToolId hkept p) (told_piece htold p)
    have hp := onPiece_noted newToolId s p
    refine ⟨es', hkept', by simpa using htold', hstop.trans hp.1, husage.trans hp.2⟩

/-- One chunk. -/
theorem chunk_followed {newToolId : Int → String} {chunks : List WireChunk} {es : List Entry}
    (h : Followed newToolId chunks s es) (c : WireChunk) :
    ∃ es', Followed newToolId (chunks ++ [c]) (onChunk newToolId s c) es' := by
  have hkept : EntriesKept (c.note s) es := ⟨h.kept.blocks, h.kept.blockIndex, h.kept.textBlockOpen, h.kept.toolBlocks, h.kept.nodup⟩
  obtain ⟨es', hkept', htold', hstop, husage⟩ := pieces_followed c.pieces (piecesOf chunks) hkept h.told
  refine ⟨es', ?_⟩
  rw [onChunk_eq]
  refine ⟨hkept', by simpa [piecesOf] using htold', ?_, ?_⟩
  · rw [hstop, WireChunk.note, h.noted.stopReason, lastFinishReason, lastFinishReason, List.foldl_append]
    simp only [List.foldl_cons, List.foldl_nil, WireChunk.stopReasonAfter]
    split <;> rfl
  · rw [husage, WireChunk.note, h.noted.usage, lastUsage, lastUsage, List.foldl_append]
    rfl

theorem chunks_followed (newToolId : Int → String) (chunks : List WireChunk) :
    ∃ es, Followed newToolId chunks (chunks.foldl (onChunk newToolId) {}) es := by
  induction chunks using List.reverseRecOn with
  | nil =>
    refine ⟨[], ⟨rfl, rfl, rfl, rfl, by simp⟩, ⟨rfl, rfl, by simp, by simp⟩, rfl, rfl⟩
  | append_singleton chunks c ih =>
    obtain ⟨es, h⟩ := ih
    rw [List.foldl_append]
    exact chunk_followed h c

theorem lines_followed (newToolId : Int → String) (loads : String → Option WireChunk) (lines : List String) :
    ∃ es, Followed newToolId (chunksOf loads lines) (onLines newToolId loads lines) es := by
  rw [onLines_eq]
  exact chunks_followed newToolId _

/-! ## What the two answers say -/

section Answers

variable {J : Type} (loads : String → Option J) (emptyObject : J)

def ToolCall.toolUse (call : ToolCall) : String × String × J :=
  (call.id, call.name, parseArguments loads emptyObject call.arguments)

def asBegun (r : Completion) (ps : List Piece) : List (String × String × J) :=
  (begun ps).filterMap fun i => r.toolCalls[i.toNat]?.map (ToolCall.toolUse loads emptyObject)

theorem contentEvents_of_stream (newToolId : Int → String) (loadsChunk : String → Option WireChunk) (lines : List String)
    (model messageId : String) :
    (streamAnthropicEvents newToolId loadsChunk lines model messageId).filterMap AnthropicEvent.content? =
      (onLines newToolId loadsChunk lines).contentEvents := by
  have hcontent : ∀ es : List ContentEvent, (es.map AnthropicEvent.content).filterMap AnthropicEvent.content? = es := by
    intro es
    rw [List.filterMap_map]
    exact List.filterMap_some
  simp [streamAnthropicEvents, AnthropicEvent.content?, hcontent, List.filterMap_cons]

theorem messageEnd_of_stream (newToolId : Int → String) (loadsChunk : String → Option WireChunk) (lines : List String)
    (model messageId : String) :
    (streamAnthropicEvents newToolId loadsChunk lines model messageId).findSome? AnthropicEvent.messageEnd? =
      some ((onLines newToolId loadsChunk lines).stopReason, (onLines newToolId loadsChunk lines).anthropicUsage) := by
  have hnone : ∀ es : List ContentEvent, (es.map AnthropicEvent.content).findSome? AnthropicEvent.messageEnd? = none := by
    intro es
    induction es with
    | nil => rfl
    | cons e es ih => exact ih
  rw [streamAnthropicEvents, List.cons_append, List.findSome?_cons, List.findSome?_append, hnone]
  rfl

theorem assemble_contentEvents (s : StreamState) : assemble s.contentEvents = assemble s.yielded := by
  unfold StreamState.contentEvents
  split
  · rw [assemble_concat]
    rfl
  · rfl

theorem toolUses_of_entries {newToolId : Int → String} {chunks : List WireChunk} {es : List Entry} {r : Completion}
    (htold : Told newToolId (piecesOf chunks) es) (hcut : CutInto r chunks) :
    (es.map Entry.block).filterMap (toolUseOfBlock loads emptyObject) = asBegun loads emptyObject r (piecesOf chunks) := by
  have hentry : ∀ e ∈ es, toolUseOfBlock loads emptyObject e.block =
      e.call.bind fun i => r.toolCalls[i.toNat]?.map (ToolCall.toolUse loads emptyObject) := by
    intro e he
    cases hcall : e.call with
    | none => simp [toolUseOfBlock, htold.texts e he hcall]
    | some i =>
      have hblock := htold.calls e he i hcall
      obtain ⟨first, rest, n, hfragments, hheader⟩ := hblock.header
      -- the call is one of the completion, since one of its fragments is among the pieces
      have hfirst : first ∈ fragmentsOf (piecesOf chunks) i := by simp [hfragments]
      obtain ⟨hpiece, hindex⟩ := List.mem_filter.mp hfirst
      obtain ⟨p, hp, hp'⟩ := List.mem_filterMap.mp hpiece
      have htool : Piece.tool first ∈ piecesOf chunks := by
        cases p with
        | text content => cases hp'
        | tool t => rwa [← Option.some.inj hp']
      obtain ⟨k, hk, hlt⟩ := hcut.noOther first htool
      have hi : i = (k : Int) := by rw [← hk]; simpa using Eq.symm (of_decide_eq_true hindex)
      subst hi
      have hget : r.toolCalls[k]? = some r.toolCalls[k] := List.getElem?_eq_getElem hlt
      obtain ⟨⟨first', rest', hfragments', hid, hname⟩, harguments⟩ := hcut.calls k _ hget
      have hsame : first' = first := (List.cons.inj (hfragments'.symm.trans hfragments)).1
      subst hsame
      simp [toolUseOfBlock, hheader, hid, hname, hblock.arguments, harguments, hget, ToolCall.toolUse]
  have hcongr : (es.map Entry.block).filterMap (toolUseOfBlock loads emptyObject) =
      es.filterMap fun e => e.call.bind fun i => r.toolCalls[i.toNat]?.map (ToolCall.toolUse loads emptyObject) := by
    rw [List.filterMap_map]
    exact List.filterMap_congr hentry
  rw [hcongr, asBegun, ← htold.begun, List.filterMap_filterMap]

/-- What the events say. -/
theorem said_of_stream (newToolId : Int → String) {loadsChunk : String → Option WireChunk} {lines : List String}
    (model messageId : String) {r : Completion} (hcut : CutInto r (chunksOf loadsChunk lines)) :
    saidByEvents loads emptyObject (streamAnthropicEvents newToolId loadsChunk lines model messageId) =
      { text := r.content
        toolUses := asBegun loads emptyObject r (piecesOf (chunksOf loadsChunk lines))
        stopReason := some (stopReasonOf r.finishReason)
        usage := some (usageResponse r.usage).counts } := by
  obtain ⟨es, h⟩ := lines_followed newToolId loadsChunk lines
  have htext : concat ((es.map Entry.block).map textOfBlock) = r.content := by
    rw [List.map_map]
    exact h.told.text.trans hcut.content
  have husage : (onLines newToolId loadsChunk lines).anthropicUsage.counts = (usageResponse r.usage).counts := by
    have hzero : ∀ o : Option Nat, (o.filter (· ≠ 0)).getD 0 = o.getD 0 := by
      intro o
      cases o with
      | none => rfl
      | some n =>
        by_cases hn : n = 0
        · subst hn; rfl
        · simp [Option.filter, hn]
    simp only [StreamState.anthropicUsage, AnthropicUsage.counts, usageResponse, h.noted.usage, hcut.usage, hzero]
  unfold saidByEvents
  rw [contentEvents_of_stream, messageEnd_of_stream, assemble_contentEvents, h.kept.blocks]
  simp only [Option.map_some, htext, toolUses_of_entries loads emptyObject h.told hcut, h.noted.stopReason,
    hcut.finishReason, husage]

theorem text_leadingBlocks (reasoning : Option String) (toolCalls : List ToolCall) :
    concat ((leadingBlocks loads emptyObject reasoning toolCalls).map ContentBlock.textPart) = "" := by
  have hcalls : ∀ calls : List ToolCall, concat (calls.map fun call =>
      ContentBlock.textPart (.toolUse call.id call.name (parseArguments loads emptyObject call.arguments))) = "" := by
    intro calls
    induction calls with
    | nil => rfl
    | cons call calls ih => simpa [ContentBlock.textPart] using ih
  cases reasoning with
  | none => simpa [leadingBlocks, Function.comp_def] using hcalls toolCalls
  | some t => by_cases ht : t = "" <;> simpa [leadingBlocks, ht, Function.comp_def, ContentBlock.textPart] using hcalls toolCalls

theorem toolUses_leadingBlocks (reasoning : Option String) (toolCalls : List ToolCall) :
    (leadingBlocks loads emptyObject reasoning toolCalls).filterMap ContentBlock.toolUse? =
      toolCalls.map (ToolCall.toolUse loads emptyObject) := by
  have hcalls : (toolCalls.map fun call => ContentBlock.toolUse call.id call.name
      (parseArguments loads emptyObject call.arguments)).filterMap ContentBlock.toolUse? =
      toolCalls.map (ToolCall.toolUse loads emptyObject) := by
    induction toolCalls with
    | nil => rfl
    | cons call calls ih => simpa [ContentBlock.toolUse?, ToolCall.toolUse, List.filterMap_cons] using ih
  cases reasoning with
  | none => simpa [leadingBlocks] using hcalls
  | some t => by_cases ht : t = "" <;> simpa [leadingBlocks, ht, ContentBlock.toolUse?, List.filterMap_cons] using hcalls

theorem said_filled (blocks : List (ContentBlock J)) :
    concat ((if blocks.isEmpty then [.text ""] else blocks).map ContentBlock.textPart) =
      concat (blocks.map ContentBlock.textPart) ∧
    (if blocks.isEmpty then [.text ""] else blocks).filterMap ContentBlock.toolUse? =
      blocks.filterMap ContentBlock.toolUse? := by
  cases blocks with
  | nil => simp [ContentBlock.textPart, ContentBlock.toolUse?]
  | cons b bs => simp

/-- What the translation says. -/
theorem said_of_translation (r : Completion) (stops : Option (List String)) :
    (transformOpenaiToAnthropic loads emptyObject r stops).said =
      { text := if strip r.content.toList = [] then "" else r.content
        toolUses := r.toolCalls.map (ToolCall.toolUse loads emptyObject)
        stopReason := some (if (stopSequenceTriggered stops r.content (stopReasonOf r.finishReason)).isSome
          then "stop_sequence" else stopReasonOf r.finishReason)
        usage := some (usageResponse r.usage).counts } := by
  have hcontent : concat ((contentBlocks loads emptyObject r).map ContentBlock.textPart) =
        (if strip r.content.toList = [] then "" else r.content) ∧
      (contentBlocks loads emptyObject r).filterMap ContentBlock.toolUse? =
        r.toolCalls.map (ToolCall.toolUse loads emptyObject) := by
    unfold contentBlocks
    rw [(said_filled _).1, (said_filled _).2]
    split <;> simp [text_leadingBlocks, toolUses_leadingBlocks, ContentBlock.textPart, ContentBlock.toolUse?]
  simp only [AnthropicMessage.said, transformOpenaiToAnthropic, hcontent.1, hcontent.2]

end Answers

/-! ## The law -/

section Law

variable {J : Type} (loadsChunk : String → Option WireChunk) (loads : String → Option J) (emptyObject : J)
  (newToolId : Int → String)

/-- What the endpoint promises for a request that was served with completion `r`: the translation of `r`, or events that
    say what it says. -/
def MessageKept (req : MessagesRequest J) (r : Completion) (messageId : String) (answer : MessagesAnswer J) : Prop :=
  if req.streamed then
    ∃ events, answer = .eventStream events ∧
      saidByEvents loads emptyObject events = (transformOpenaiToAnthropic loads emptyObject r req.stopSequences).said
  else answer = .message { transformOpenaiToAnthropic loads emptyObject r req.stopSequences with id := messageId }

def EndsOnStopSequence (req : MessagesRequest J) (r : Completion) : Prop :=
  stopReasonOf r.finishReason = "end_turn" ∧ r.content ≠ "" ∧ ∃ seq ∈ req.stopSequences.getD [], endsWith r.content seq

theorem stopReason_eq_iff (req : MessagesRequest J) (r : Completion) : stopReasonOf r.finishReason =
      (if (stopSequenceTriggered req.stopSequences r.content (stopReasonOf r.finishReason)).isSome then "stop_sequence"
        else stopReasonOf r.finishReason) ↔ ¬ EndsOnStopSequence req r := by
  have hne : stopReasonOf r.finishReason ≠ "stop_sequence" := by
    unfold stopReasonOf
    split <;> decide
  have htriggered : (stopSequenceTriggered req.stopSequences r.content (stopReasonOf r.finishReason)).isSome ↔
      EndsOnStopSequence req r := by
    unfold stopSequenceTriggered EndsOnStopSequence
    split
    next h => simp [h.1, h.2, List.find?_isSome]
    next h =>
      constructor
      · intro hnone
        cases hnone
      · rintro ⟨hend, hcontent, -⟩
        exact absurd ⟨hcontent, hend⟩ h
  split
  next h => simp [hne, htriggered.mp h]
  next h => simpa using fun hends => h (htriggered.mpr hends)

theorem text_eq_iff (content : String) :
    content = (if strip content.toList = [] then "" else content) ↔ content = "" ∨ strip content.toList ≠ [] := by
  split
  next h => simp [h]
  next h => simp [h]

/-- **The endpoint returns what the model said exactly if** the request is streamed, the text is empty or not white space only,
    no stop sequence ends it, and the tool calls begin in order. -/
theorem message_kept_iff (req : MessagesRequest J) (r : Completion) (lines : List String) (messageId : String)
    (hmessages : req.messages ≠ []) (hcut : CutInto r (chunksOf loadsChunk lines)) :
    MessageKept loads emptyObject req r messageId
        (createMessage loadsChunk loads emptyObject newToolId req (chatReturn req.streamed r lines) messageId) ↔
      req.streamed ∧ (r.content = "" ∨ strip r.content.toList ≠ []) ∧ ¬ EndsOnStopSequence req r ∧
        asBegun loads emptyObject r (piecesOf (chunksOf loadsChunk lines)) =
          r.toolCalls.map (ToolCall.toolUse loads emptyObject) := by
  have hne : req.messages.isEmpty = false := by simpa using hmessages
  cases hstream : req.streamed with
  | false => simp [MessageKept, createMessage, chatReturn, hne, hstream]
  | true =>
    have hanswer : createMessage loadsChunk loads emptyObject newToolId req (chatReturn true r lines) messageId =
        .eventStream (streamAnthropicEvents newToolId loadsChunk lines req.model messageId) := by
      simp [createMessage, chatReturn, hne, hstream]
    rw [hanswer]
    simp only [MessageKept, hstream, if_true, MessagesAnswer.eventStream.injEq, exists_eq_left', true_and]
    rw [said_of_stream loads emptyObject newToolId req.model messageId hcut, said_of_translation]
    simp only [Said.mk.injEq, Option.some.injEq, and_true]
    rw [text_eq_iff, stopReason_eq_iff]
    exact and_congr_right fun _ => and_comm

end Law

/-! ## A greeting -/

def greetingText : String := "\x7b\"choices\":[\x7b\"delta\":\x7b\"content\":\"Hi\"\x7d,\"finish_reason\":\"stop\"\x7d]\x7d"

def greetingChunk : WireChunk where
  choices := [{ content := "Hi", finishReason := "stop" }]

/-- `json.loads` on the line of the example. -/
def loadsGreeting (payload : String) : Option WireChunk := if payload = greetingText then some greetingChunk else none

def greetingLines : List String := ["data: " ++ greetingText ++ "\n\n", "data: [DONE]\n\n"]

def greeting : Completion := { id := "chatcmpl_1", model := "claude", content := "Hi" }

/-- `json.loads` of tool arguments, for the empty object. -/
def loadsEmpty (arguments : String) : Option Dict := if arguments = "\x7b\x7d" then some [] else none

def askGreeting (stream : Bool) : MessagesRequest Dict where
  model := "claude"
  messages := [⟨.user, .text "Hello"⟩]
  maxTokens := 100
  maxTokens_pos := Nat.succ_pos 99
  stream := stream

theorem chunksOf_greeting : chunksOf loadsGreeting greetingLines = [greetingChunk] := by
  decide +kernel

theorem greeting_cut : CutInto greeting (chunksOf loadsGreeting greetingLines) := by
  rw [chunksOf_greeting]
  constructor
  · decide
  · intro k call h
    cases h
  · intro t ht
    simp [piecesOf, WireChunk.pieces, WireChoice.pieces, greetingChunk] at ht
  · decide
  · decide

theorem message_kept_iff_greeting :
    MessageKept loadsEmpty [] (askGreeting true) greeting "msg_1"
      (createMessage loadsGreeting loadsEmpty [] (fun n => "toolu_" ++ n.repr) (askGreeting true)
        (chatReturn (askGreeting true).streamed greeting greetingLines) "msg_1") := by
  refine (message_kept_iff loadsGreeting loadsEmpty [] (fun n => "toolu_" ++ n.repr) (askGreeting true) greeting
    greetingLines "msg_1" (by decide) greeting_cut).mpr ⟨rfl, .inr (by decide), ?_, ?_⟩
  · rintro ⟨-, -, seq, hseq, -⟩
    cases hseq
  · rw [chunksOf_greeting]
    rfl

/-- In one piece the same answer is lost. -/
theorem whole_message_lost :
    CutInto greeting (chunksOf loadsGreeting greetingLines) ∧
    ¬ MessageKept loadsEmpty [] (askGreeting false) greeting "msg_1"
        (createMessage loadsGreeting loadsEmpty [] (fun n => "toolu_" ++ n.repr) (askGreeting false)
          (chatReturn (askGreeting false).streamed greeting greetingLines) "msg_1") := by
  refine ⟨greeting_cut, fun h => ?_⟩
  have hstream : (askGreeting false).streamed = false := rfl
  have hmessages : (askGreeting false).messages.isEmpty = false := rfl
  simp [MessageKept, createMessage, chatReturn, hstream, hmessages] at h

end Gatewayz
