import Gatewayz.Correctness.AnswerRoundTrip

/-!
# `Correctness.NativeStream` — Anthropic's stream, and its answer in one piece

The same message of Anthropic's, streamed or not, should be the same message to an OpenAI client.

Streamed, there is always a content, if an empty one; the arguments of a tool call are what JSON has come since it began, be it none or of
another block; and how much of the prompt was read from the cache is told in one of two places only. `stream_agrees_iff` says which
messages and deliveries come out the same.
-/

namespace Gatewayz.Native

open Exec (BlockEvent render)

/-! ## The client -/

structure Received where
  content : Option String := none
  toolCalls : List ToolCall := []
  finishReasons : List String := []
  usage : Option OpenaiUsage := none

def addToolCall (calls : List ToolCall) (t : ToolCallDelta) : List ToolCall :=
  if t.tcIndex.toNat < calls.length then
    calls.modify t.tcIndex.toNat fun call =>
      ⟨t.id.getD call.id, t.name.getD call.name, call.arguments ++ t.arguments.getD ""⟩
  else calls ++ [⟨t.id.getD "", t.name.getD "", t.arguments.getD ""⟩]

/-- A chunk is added. -/
def Received.add (a : Received) (c : Chunk) : Received where
  content :=
    match c.content with
    | some text => some (a.content.getD "" ++ text)
    | none => a.content
  toolCalls := c.toolCalls.foldl addToolCall a.toolCalls
  finishReasons := a.finishReasons ++ c.finishReason.toList
  usage := c.usage.or a.usage

/-- The message of a stream. -/
def received (chunks : List Chunk) : Received := chunks.foldl Received.add {}

/-! ## Deliveries -/

def BlockDelta.textPart : BlockDelta → Option String
  | .text t => some t
  | .inputJson _ | .other _ => none

def BlockDelta.jsonPart : BlockDelta → Option String
  | .inputJson t => some t
  | .text _ | .other _ => none

abbrev Streamed := Exec.Block BlockStart BlockDelta

def textIn (items : List BlockDelta) : String := concat (items.filterMap BlockDelta.textPart)

def jsonIn (items : List BlockDelta) : String := concat (items.filterMap BlockDelta.jsonPart)

section Deliveries

variable {J : Type} (json : JsonText J)

/-- A block is streamed so: a text in pieces, an input as JSON in pieces (none of it if it is the empty object), and other blocks
in any pieces but texts. -/
inductive Carries : Block J → Streamed → Prop
  | text {items : List BlockDelta} (hitems : items.filterMap BlockDelta.jsonPart = []) :
      Carries (.text (textIn items)) ⟨.text, items⟩
  | toolUse {id name : String} {input : J} {items : List BlockDelta} (hitems : items.filterMap BlockDelta.textPart = [])
      (hinput : json.loads (jsonIn items) = some input ∨ jsonIn items = "" ∧ input = json.emptyObject) :
      Carries (.toolUse id name input) ⟨.toolUse id name, items⟩
  | other {type : String} {items : List BlockDelta} (hitems : items.filterMap BlockDelta.textPart = []) :
      Carries (.other type) ⟨.other type, items⟩

/-- A stream delivers a message, in these blocks: it begins, the blocks come one by one, it ends; pings may come at any time. -/
structure Delivers (events : List Event) (m : Message J) (blocks : List Streamed) : Prop where
  content : List.Forall₂ (Carries json) m.content blocks
  events : ∃ outputTokens, events.filter (· ≠ .ping) =
    .messageStart { m.usage with outputTokens := outputTokens } :: (render 0 blocks).map .content ++
      [.messageDelta m.stopReason (some m.usage.outputTokens), .messageStop]

/-- The JSON that comes before the first tool use, and the tool calls with the JSON that comes from each on up to the next. -/
def reaching : List Streamed → String × List ToolCall
  | [] => ("", [])
  | ⟨.toolUse id name, items⟩ :: blocks => ("", ⟨id, name, jsonIn items ++ (reaching blocks).1⟩ :: (reaching blocks).2)
  | ⟨_, items⟩ :: blocks => (jsonIn items ++ (reaching blocks).1, (reaching blocks).2)

def Block.input : Block J → Option J
  | .toolUse _ _ input => some input
  | .text _ | .other _ => none

/-- Every input can be read from the JSON that comes between its tool use and the next. -/
def InputsReach (m : Message J) (blocks : List Streamed) : Prop :=
  List.Forall₂ (fun call input => json.loads call.arguments = some input) (reaching blocks).2 (m.content.filterMap Block.input)

/-! ## Agreement -/

def SameCall (a b : ToolCall) : Prop :=
  a.id = b.id ∧ a.name = b.name ∧ ∃ input, json.loads a.arguments = some input ∧ json.loads b.arguments = some input

structure SameUsage (u v : OpenaiUsage) : Prop where
  prompt : u.promptTokens.getD 0 = v.promptTokens.getD 0
  completion : u.completionTokens.getD 0 = v.completionTokens.getD 0
  total : u.totalTokens.getD 0 = v.totalTokens.getD 0
  cacheCreation : u.cacheCreationInputTokens.getD 0 = v.cacheCreationInputTokens.getD 0
  cacheRead : u.cacheReadInputTokens.getD 0 = v.cacheReadInputTokens.getD 0
  cached : u.cachedTokens.getD 0 = v.cachedTokens.getD 0

/-- The stream is the answer: the same content, tool calls and usage, and one finish reason, which is the same. -/
structure Agrees (a : Received) (r : Response) : Prop where
  content : a.content = r.content
  toolCalls : List.Forall₂ (SameCall json) a.toolCalls r.toolCalls
  finish : a.finishReasons = [r.finishReason]
  usage : ∃ u, a.usage = some u ∧ SameUsage u r.usage

end Deliveries

/-! ## What the client receives -/

section Received

def onEvents (p : State × Received) (e : Event) : State × Received :=
  match onEvent p.1 e with
  | .ok (chunk, s) => (s, (chunk.map p.2.add).getD p.2)
  | .error _ => p

theorem foldl_generateFrom (events : List Event) (herror : ∀ e ∈ events, ∀ type message, e ≠ .error type message)
    (s : State) (a : Received) : (generateFrom events s).1.foldl Received.add a = (events.foldl onEvents (s, a)).2 := by
  induction events generalizing s a with
  | nil => rfl
  | cons e events ih =>
    have hrest : ∀ e ∈ events, ∀ type message, e ≠ .error type message := fun f hf => herror f (List.mem_cons_of_mem e hf)
    rw [generateFrom, List.foldl_cons]
    cases hstep : onEvent s e with
    | error text =>
      -- nothing else fails
      have he := herror e List.mem_cons_self
      unfold onEvent at hstep
      split at hstep
      any_goals cases hstep
      · split_ifs at hstep
      · dsimp only at hstep
        split at hstep <;> cases hstep
      · exact absurd rfl (he _ _)
    | ok next =>
      obtain ⟨chunk, s'⟩ := next
      have honce : onEvents (s, a) e = (s', (chunk.map a.add).getD a) := by
        unfold onEvents
        rw [hstep]
      rw [honce]
      dsimp only
      rw [List.foldl_append, ← ih hrest]
      cases chunk <;> rfl

theorem foldl_without_pings (events : List Event) (p : State × Received) :
    events.foldl onEvents p = (events.filter (· ≠ .ping)).foldl onEvents p := by
  induction events generalizing p with
  | nil => rfl
  | cons e events ih =>
    by_cases hping : e = .ping
    · subst hping
      rw [List.filter_cons_of_neg (by simp), List.foldl_cons]
      exact ih p
    · rw [List.filter_cons_of_pos (by simpa using hping), List.foldl_cons, List.foldl_cons]
      exact ih _

def appendLast (calls : List ToolCall) (t : String) : List ToolCall :=
  calls.modify (calls.length - 1) fun call => { call with arguments := call.arguments ++ t }

variable (calls : List ToolCall)

@[simp] theorem length_appendLast (t : String) : (appendLast calls t).length = calls.length :=
  List.length_modify ..

theorem appendLast_nil (t : String) : appendLast [] t = [] := rfl

theorem appendLast_concat (call : ToolCall) (t : String) :
    appendLast (calls ++ [call]) t = calls ++ [{ call with arguments := call.arguments ++ t }] := by
  unfold appendLast
  rw [List.length_append, List.length_singleton, Nat.add_sub_cancel]
  induction calls with
  | nil => rfl
  | cons c calls ih => simpa using ih

theorem appendLast_empty : appendLast calls "" = calls := by
  rcases List.eq_nil_or_concat calls with rfl | ⟨calls, call, rfl⟩
  · rfl
  · rw [List.concat_eq_append, appendLast_concat, String.append_empty]

theorem appendLast_append (t u : String) : appendLast (appendLast calls t) u = appendLast calls (t ++ u) := by
  rcases List.eq_nil_or_concat calls with rfl | ⟨calls, call, rfl⟩
  · rfl
  · rw [List.concat_eq_append, appendLast_concat, appendLast_concat, appendLast_concat, String.append_assoc]

def InStep (s : State) (a : Received) : Prop := s.toolIndex = (a.toolCalls.length : ℤ) - 1 ∧ a.content.isSome = true

variable {s : State} {a : Received}

theorem InStep.content_eq (h : InStep s a) : a.content = some (a.content.getD "" ++ "") := by
  obtain ⟨text, htext⟩ := Option.isSome_iff_exists.mp h.2
  rw [htext, Option.getD_some, String.append_empty]

variable (n : ℤ)

theorem onEvents_text (t : String) (s : State) (a : Received) :
    onEvents (s, a) (.content (.item n (.text t))) = (s, { a with content := some (a.content.getD "" ++ t) }) := by
  have hadd : a.add { content := some t } = { a with content := some (a.content.getD "" ++ t) } := by
    unfold Received.add
    simp
  exact congrArg (Prod.mk s) hadd

theorem onEvents_json (t : String) (h : InStep s a) :
    onEvents (s, a) (.content (.item n (.inputJson t))) = (s, { a with toolCalls := appendLast a.toolCalls t }) := by
  unfold onEvents onEvent
  dsimp only
  by_cases hcalls : a.toolCalls = []
  · have hindex : ¬ 0 ≤ s.toolIndex := by
      rw [h.1, hcalls]
      decide
    rw [if_neg hindex, hcalls]
    dsimp only
    rw [appendLast_nil, ← hcalls]
    rfl
  · have hlength : 0 < a.toolCalls.length := List.length_pos_of_ne_nil hcalls
    have hindex : 0 ≤ s.toolIndex := by
      rw [h.1]
      omega
    have hcall : addToolCall a.toolCalls { index := some s.toolIndex, arguments := some t } = appendLast a.toolCalls t := by
      have hnat : ToolCallDelta.tcIndex { index := some s.toolIndex, arguments := some t } = s.toolIndex := rfl
      have hlast : s.toolIndex.toNat = a.toolCalls.length - 1 := by
        rw [h.1]
        omega
      unfold addToolCall
      rw [hnat, hlast, if_pos (Nat.sub_lt hlength Nat.one_pos)]
      rfl
    rw [if_pos hindex]
    dsimp only
    have hadd : a.add { toolCalls := [{ index := some s.toolIndex, arguments := some t }] } =
        { a with toolCalls := appendLast a.toolCalls t } := by
      rw [← hcall]
      unfold Received.add
      simp
    exact congrArg (Prod.mk s) hadd

theorem foldl_items (items : List BlockDelta) (h : InStep s a) :
    (items.map fun d => Event.content (.item n d)).foldl onEvents (s, a) =
      (s, { a with content := some (a.content.getD "" ++ textIn items), toolCalls := appendLast a.toolCalls (jsonIn items) }) := by
  induction items generalizing a with
  | nil =>
    have hcontent : a.content = some (a.content.getD "" ++ textIn []) := h.content_eq
    have hcalls : a.toolCalls = appendLast a.toolCalls (jsonIn []) := (appendLast_empty _).symm
    rw [← hcontent, ← hcalls]
    rfl
  | cons d items ih =>
    rw [List.map_cons, List.foldl_cons]
    cases d with
    | text t =>
      have htext : textIn (.text t :: items) = t ++ textIn items := rfl
      have hsynced : InStep s { a with content := some (a.content.getD "" ++ t) } := ⟨h.1, rfl⟩
      rw [onEvents_text, ih hsynced, htext, ← String.append_assoc]
      rfl
    | inputJson t =>
      have hjson : jsonIn (.inputJson t :: items) = t ++ jsonIn items := rfl
      have hsynced : InStep s { a with toolCalls := appendLast a.toolCalls t } := ⟨by rw [length_appendLast]; exact h.1, h.2⟩
      rw [onEvents_json n t h, ih hsynced, hjson, ← appendLast_append]
      rfl
    | other type => exact ih h

def afterBlock (calls : List ToolCall) (b : Streamed) : List ToolCall :=
  match b.header with
  | .toolUse id name => appendLast (calls ++ [⟨id, name, ""⟩]) (jsonIn b.items)
  | .text | .other _ => appendLast calls (jsonIn b.items)

theorem foldl_block (b : Streamed) (h : InStep s a) : ∃ s', s'.usageTotals = s.usageTotals ∧
      InStep s' { a with content := some (a.content.getD "" ++ textIn b.items), toolCalls := afterBlock a.toolCalls b } ∧
      ((b.events n).map Event.content).foldl onEvents (s, a) =
        (s', { a with content := some (a.content.getD "" ++ textIn b.items), toolCalls := afterBlock a.toolCalls b }) := by
  obtain ⟨header, items⟩ := b
  have hevents : (Exec.Block.events n ⟨header, items⟩).map Event.content =
      .content (.opened n header) :: (items.map fun d => Event.content (.item n d)) ++ [.content (.closed n)] := by
    simp [Exec.Block.events, Function.comp_def]
  have hclosed (p : State × Received) : onEvents p (.content (.closed n)) = p := rfl
  rw [hevents, List.cons_append, List.foldl_cons, List.foldl_append, List.foldl_cons, List.foldl_nil, hclosed]
  cases header with
  | text =>
    refine ⟨s, rfl, ⟨?_, rfl⟩, foldl_items n items h⟩
    show s.toolIndex = ((appendLast a.toolCalls (jsonIn items)).length : ℤ) - 1
    rw [length_appendLast]
    exact h.1
  | other type =>
    refine ⟨s, rfl, ⟨?_, rfl⟩, foldl_items n items h⟩
    show s.toolIndex = ((appendLast a.toolCalls (jsonIn items)).length : ℤ) - 1
    rw [length_appendLast]
    exact h.1
  | toolUse id name =>
    have hopened : onEvents (s, a) (.content (.opened n (.toolUse id name))) =
        ({ s with toolIndex := s.toolIndex + 1 }, { a with toolCalls := a.toolCalls ++ [⟨id, name, ""⟩] }) := by
      have hnew : ¬ (s.toolIndex + 1).toNat < a.toolCalls.length := by
        rw [h.1]
        omega
      have hcall : addToolCall a.toolCalls { index := some (s.toolIndex + 1), id := some id, name := some name, arguments := some "" } =
          a.toolCalls ++ [⟨id, name, ""⟩] := if_neg hnew
      have hadd : a.add { toolCalls := [{ index := some (s.toolIndex + 1), id := some id, name := some name, arguments := some "" }] } =
          { a with toolCalls := a.toolCalls ++ [⟨id, name, ""⟩] } := by
        rw [← hcall]
        unfold Received.add
        simp
      exact congrArg (Prod.mk _) hadd
    have hstep : InStep { s with toolIndex := s.toolIndex + 1 } { a with toolCalls := a.toolCalls ++ [⟨id, name, ""⟩] } := by
      refine ⟨?_, h.2⟩
      show s.toolIndex + 1 = ((a.toolCalls ++ [(⟨id, name, ""⟩ : ToolCall)]).length : ℤ) - 1
      rw [h.1, List.length_append, List.length_singleton]
      omega
    rw [hopened, foldl_items n items hstep]
    refine ⟨{ s with toolIndex := s.toolIndex + 1 }, rfl, ⟨?_, rfl⟩, rfl⟩
    show s.toolIndex + 1 = ((appendLast (a.toolCalls ++ [⟨id, name, ""⟩]) (jsonIn items)).length : ℤ) - 1
    rw [length_appendLast]
    exact hstep.1

theorem foldl_blocks (blocks : List Streamed) (h : InStep s a) : ∃ s', s'.usageTotals = s.usageTotals ∧
      ((render n blocks).map Event.content).foldl onEvents (s, a) =
        (s', { a with
          content := some (a.content.getD "" ++ concat (blocks.map fun b => textIn b.items))
          toolCalls := blocks.foldl afterBlock a.toolCalls }) := by
  induction blocks generalizing n s a with
  | nil =>
    refine ⟨s, rfl, ?_⟩
    have hcontent : a.content = some (a.content.getD "" ++ concat []) := h.content_eq
    show (s, a) = (s, { a with content := some (a.content.getD "" ++ concat []) })
    rw [← hcontent]
  | cons b blocks ih =>
    obtain ⟨s', htotals, hstep, hfold⟩ := foldl_block n b h
    obtain ⟨s'', htotals', hrest⟩ := ih (n + 1) hstep
    refine ⟨s'', htotals'.trans htotals, ?_⟩
    rw [render, List.map_append, List.foldl_append, hfold, hrest, List.map_cons, concat_cons, ← String.append_assoc]
    rfl

theorem foldl_afterBlock (blocks : List Streamed) :
    blocks.foldl afterBlock calls = appendLast calls (reaching blocks).1 ++ (reaching blocks).2 := by
  induction blocks generalizing calls with
  | nil => exact (appendLast_empty calls).symm.trans (List.append_nil _).symm
  | cons b blocks ih =>
    obtain ⟨header, items⟩ := b
    rw [List.foldl_cons, ih]
    cases header with
    | text => exact congrArg (· ++ _) (appendLast_append calls _ _)
    | other type => exact congrArg (· ++ _) (appendLast_append calls _ _)
    | toolUse id name =>
      show appendLast (appendLast (calls ++ [⟨id, name, ""⟩]) (jsonIn items)) (reaching blocks).1 ++ (reaching blocks).2 =
        appendLast calls "" ++ ⟨id, name, jsonIn items ++ (reaching blocks).1⟩ :: (reaching blocks).2
      rw [appendLast_append, appendLast_concat, appendLast_empty, String.empty_append, List.append_assoc, List.singleton_append]

end Received

/-! ## Streamed, and in one piece -/

section Agreement

variable {J : Type} {json : JsonText J} {events : List Event} {m : Message J} {blocks : List Streamed}

def streamedUsage (u : Usage) : OpenaiUsage where
  promptTokens := some (u.inputTokens + u.cacheCreationInputTokens + u.cacheReadInputTokens)
  completionTokens := some u.outputTokens
  totalTokens := some (u.inputTokens + u.cacheCreationInputTokens + u.cacheReadInputTokens + u.outputTokens)
  cacheCreationInputTokens := some u.cacheCreationInputTokens
  cacheReadInputTokens := some u.cacheReadInputTokens

theorem Delivers.no_error (hd : Delivers json events m blocks) : ∀ e ∈ events, ∀ type message, e ≠ .error type message := by
  rintro e he type message rfl
  obtain ⟨outputTokens, hevents⟩ := hd.events
  have hmem : Event.error type message ∈ events.filter (· ≠ .ping) := List.mem_filter.mpr ⟨he, rfl⟩
  rw [hevents] at hmem
  simp at hmem

/-- What a client receives of a delivery. -/
theorem received_of_delivers (hd : Delivers json events m blocks) : received (generate events).1 =
      { content := some (concat (blocks.map fun b => textIn b.items))
        toolCalls := (reaching blocks).2
        finishReasons := ((m.stopReason.filter (· ≠ "")).map finishReasonOf).toList
        usage := (m.stopReason.filter (· ≠ "")).map fun _ => streamedUsage m.usage } := by
  obtain ⟨outputTokens, hevents⟩ := hd.events
  have hfirst : received (generate events).1 = (generateFrom events {}).1.foldl Received.add { content := some "" } := rfl
  rw [hfirst, foldl_generateFrom events hd.no_error, foldl_without_pings, hevents, List.cons_append, List.foldl_cons, List.foldl_append]
  -- `message_start`
  have hstart : onEvents ({}, { content := some "" }) (.messageStart { m.usage with outputTokens := outputTokens }) =
      ({ usageTotals := { start := some { m.usage with outputTokens := outputTokens } } }, { content := some "" }) := rfl
  -- the blocks
  have hstep : InStep { usageTotals := { start := some { m.usage with outputTokens := outputTokens } } } { content := some "" } :=
    ⟨rfl, rfl⟩
  obtain ⟨s, htotals, hfold⟩ := foldl_blocks 0 blocks hstep
  have hcalls : blocks.foldl afterBlock [] = (reaching blocks).2 := by
    rw [foldl_afterBlock, appendLast_nil, List.nil_append]
  rw [hstart, hfold, hcalls, Option.getD_some, String.empty_append, List.foldl_cons, List.foldl_cons, List.foldl_nil]
  -- `message_delta`
  have hstop (p : State × Received) : onEvents p .messageStop = p := rfl
  rw [hstop]
  unfold onEvents onEvent
  dsimp only
  rw [htotals]
  cases m.stopReason.filter (· ≠ "") with
  | none => rfl
  | some reason => rfl

theorem text_of_carries {content : List (Block J)} (hcontent : List.Forall₂ (Carries json) content blocks) :
    concat (blocks.map fun b => textIn b.items) = concat (content.filterMap Block.textPart) := by
  induction hcontent with
  | nil => rfl
  | @cons b streamed content blocks hb _ ih =>
    rw [List.map_cons, concat_cons, ih]
    have hnone {items : List BlockDelta} (hitems : items.filterMap BlockDelta.textPart = []) : textIn items = "" := by
      unfold textIn
      rw [hitems, concat_nil]
    cases hb with
    | text hitems => rfl
    | other hitems => exact (congrArg (· ++ _) (hnone hitems)).trans String.empty_append
    | toolUse hitems hinput => exact (congrArg (· ++ _) (hnone hitems)).trans String.empty_append

theorem sameCalls_iff {content : List (Block J)} (hcontent : List.Forall₂ (Carries json) content blocks) :
    List.Forall₂ (SameCall json) (reaching blocks).2 (content.filterMap (Block.toolCall json)) ↔
      List.Forall₂ (fun call input => json.loads call.arguments = some input) (reaching blocks).2 (content.filterMap Block.input) := by
  induction hcontent with
  | nil => exact ⟨fun _ => .nil, fun _ => .nil⟩
  | @cons b streamed content blocks hb _ ih =>
    cases hb with
    | text hitems => exact ih
    | other hitems => exact ih
    | @toolUse id name input items hitems hinput =>
      have hcall (arguments : String) :
          SameCall json ⟨id, name, arguments⟩ ⟨id, name, json.dumps input⟩ ↔ json.loads arguments = some input := by
        constructor
        · rintro ⟨-, -, value, hvalue, hdumps⟩
          rw [json.loads_dumps] at hdumps
          rw [hvalue, hdumps]
        · exact fun hread => ⟨rfl, rfl, input, hread, json.loads_dumps input⟩
      refine List.forall₂_cons.trans (Iff.trans ?_ List.forall₂_cons.symm)
      exact and_congr (hcall _) ih

theorem content_eq_iff (json : JsonText J) (m : Message J) :
    some (concat (m.content.filterMap Block.textPart)) = (anthropicResponseToOpenai json m).content ↔
      ∃ text, .text text ∈ m.content := by
  have hparts : m.content.filterMap Block.textPart ≠ [] ↔ ∃ text, .text text ∈ m.content := by
    rw [Ne, List.filterMap_eq_nil_iff]
    push Not
    constructor
    · rintro ⟨b, hb, hne⟩
      cases b with
      | text text => exact ⟨text, hb⟩
      | toolUse id name input => exact absurd rfl hne
      | other type => exact absurd rfl hne
    · rintro ⟨text, hb⟩
      exact ⟨_, hb, Option.some_ne_none text⟩
  rw [← hparts]
  unfold anthropicResponseToOpenai
  dsimp only
  split_ifs with hnone
  · exact ⟨fun h => h.elim, fun h => absurd hnone h⟩
  · exact ⟨fun _ => hnone, fun _ => rfl⟩

theorem sameUsage_iff (u : Usage) : SameUsage (streamedUsage u) (openaiUsage u) ↔ u.cacheReadInputTokens = 0 := by
  by_cases hcached : u.cacheCreationInputTokens ≠ 0 ∨ u.cacheReadInputTokens ≠ 0
  · have husage : openaiUsage u =
        { toWireUsage := (streamedUsage u).toWireUsage, cachedTokens := some u.cacheReadInputTokens } := by
      unfold openaiUsage streamedUsage
      rw [if_pos hcached, if_pos hcached]
    rw [husage]
    exact ⟨fun h => h.cached.symm, fun h => ⟨rfl, rfl, rfl, rfl, rfl, h.symm⟩⟩
  · have hnone : u.cacheCreationInputTokens = 0 ∧ u.cacheReadInputTokens = 0 := by
      push Not at hcached
      exact hcached
    refine ⟨fun _ => hnone.2, fun _ => ⟨rfl, rfl, rfl, ?_, ?_, ?_⟩⟩
    · show u.cacheCreationInputTokens = (if _ then some u.cacheCreationInputTokens else none).getD 0
      rw [if_neg hcached, hnone.1]
      rfl
    · show u.cacheReadInputTokens = (if _ then some u.cacheReadInputTokens else none).getD 0
      rw [if_neg hcached, hnone.2]
      rfl
    · show 0 = (if _ then some u.cacheReadInputTokens else none).getD 0
      rw [if_neg hcached]
      rfl

/-- **When the stream is the answer**: there is a text block, the input of every tool use can be read, there is a stop reason, and nothing
of the prompt was read from the cache. -/
theorem stream_agrees_iff (hd : Delivers json events m blocks) :
    Agrees json (received (generate events).1) (anthropicResponseToOpenai json m) ↔
      (∃ text, .text text ∈ m.content) ∧ InputsReach json m blocks ∧ (∃ reason, m.stopReason = some reason ∧ reason ≠ "") ∧
        m.usage.cacheReadInputTokens = 0 := by
  have hreceived := received_of_delivers hd
  have hcalls := sameCalls_iff hd.content
  have hcontent : some (concat (blocks.map fun b => textIn b.items)) = (anthropicResponseToOpenai json m).content ↔
      ∃ text, .text text ∈ m.content := by
    rw [text_of_carries hd.content]
    exact content_eq_iff json m
  constructor
  · intro h
    have hfinish := h.finish
    have htools := h.toolCalls
    obtain ⟨u, hu, husage⟩ := h.usage
    have htext := h.content
    rw [hreceived] at htext htools hfinish hu
    cases hreason : m.stopReason.filter (· ≠ "") with
    | none =>
      rw [hreason] at hfinish
      cases hfinish
    | some reason =>
      rw [hreason] at hu
      cases hu
      obtain ⟨hsome, hne⟩ := Option.filter_eq_some_iff.mp hreason
      exact ⟨hcontent.mp htext, hcalls.mp htools, ⟨reason, hsome, by simpa using hne⟩, (sameUsage_iff m.usage).mp husage⟩
  · rintro ⟨htext, hinputs, ⟨reason, hsome, hne⟩, hcached⟩
    have hreason : m.stopReason.filter (· ≠ "") = some reason := by
      rw [hsome, Option.filter_some, if_pos (by simpa using hne)]
    rw [hreceived, hreason]
    refine ⟨hcontent.mpr htext, hcalls.mpr hinputs, ?_, streamedUsage m.usage, rfl, (sameUsage_iff m.usage).mpr hcached⟩
    show [finishReasonOf reason] = [finishReasonOf (m.stopReason.getD "")]
    rw [hsome, Option.getD_some]

end Agreement

/-! ## A tool without arguments -/

def lookMessage : Message Unit :=
  ⟨"msg_1", "claude", [.text "Let me look.", .toolUse "toolu_1" "look" ()], some "tool_use", { inputTokens := 10, outputTokens := 5 }⟩

def lookBlocks (input : String) : List Streamed :=
  [⟨.text, [.text "Let me", .text " look."]⟩, ⟨.toolUse "toolu_1" "look", [.inputJson input]⟩]

def lookEvents (input : String) : List Event :=
  .messageStart { inputTokens := 10, outputTokens := 1 } :: .ping :: (render 0 (lookBlocks input)).map .content ++
    [.messageDelta (some "tool_use") (some 5), .messageStop]

theorem delivers_look {input : String} (hinput : input = "\x7b\x7d" ∨ input = "") :
    Delivers emptyObjectJson (lookEvents input) lookMessage (lookBlocks input) := by
  have htext : "Let me look." = textIn [.text "Let me", .text " look."] := by decide
  refine ⟨.cons ?_ (.cons (.toolUse rfl ?_) .nil), 1, rfl⟩
  · rw [htext]
    exact .text rfl
  · rcases hinput with rfl | rfl
    · exact .inl (by decide)
    · exact .inr ⟨by decide, rfl⟩

/-- Its text in one piece is there in both; and so is its input, if it is sent as JSON. -/
theorem stream_agrees_look :
    Agrees emptyObjectJson (received (generate (lookEvents "\x7b\x7d")).1) (anthropicResponseToOpenai emptyObjectJson lookMessage) :=
  (stream_agrees_iff (delivers_look (.inl rfl))).mpr
    ⟨⟨"Let me look.", List.mem_cons_self⟩, .cons (by decide) .nil, ⟨"tool_use", rfl, by decide⟩, rfl⟩

/-- But Anthropic need not send an empty input: then the arguments are an empty text, and no JSON. -/
theorem no_arguments_no_json :
    Delivers emptyObjectJson (lookEvents "") lookMessage (lookBlocks "") ∧
      ¬ Agrees emptyObjectJson (received (generate (lookEvents "")).1) (anthropicResponseToOpenai emptyObjectJson lookMessage) := by
  refine ⟨delivers_look (.inr rfl), fun h => ?_⟩
  have hcalls := h.toolCalls
  have hreceived : (received (generate (lookEvents "")).1).toolCalls = [⟨"toolu_1", "look", ""⟩] := by decide
  rw [hreceived] at hcalls
  obtain ⟨⟨-, -, input, hread, -⟩, -⟩ := List.forall₂_cons.mp hcalls
  have hnone : emptyObjectJson.loads "" = none := by decide
  cases hnone.symm.trans hread

end Gatewayz.Native
