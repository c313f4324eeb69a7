import Gatewayz.Messages.Native

/-!
# `Correctness.AnswerRoundTrip` — an answer of Anthropic's, to OpenAI and back

`/v1/messages` may be served by Anthropic itself; its answer is then made a completion and a message again. What should be the same is
its text and its tool uses in their order (`pieces`), why it stopped, and each class of tokens.

On the way texts are joined and tool uses put before them, a blank text is dropped, two stop reasons become `end_turn`, and cached input
is added to the prompt, which is read back as input that was not cached.
-/

namespace Gatewayz.Native

/-! ## Lists in two parts -/

section Parts

variable {α : Type}

/-- A list is its `p`-free part and then the rest if and only if nothing without `p` follows what has it. -/
theorem eq_filter_append_filter_iff (p : α → Bool) (l : List α) :
    l = l.filter (fun a => !p a) ++ l.filter p ↔ l.Pairwise fun a b => p a = true → p b = true := by
  induction l with
  | nil => exact ⟨fun _ => .nil, fun _ => rfl⟩
  | cons a l ih =>
    rw [List.pairwise_cons]
    by_cases ha : p a = true
    · rw [List.filter_cons_of_neg (by simp [ha]), List.filter_cons_of_pos ha]
      constructor
      · intro h
        have hfree : l.filter (fun a => !p a) = [] := by
          cases hfree : l.filter fun a => !p a with
          | nil => rfl
          | cons c rest =>
            rw [hfree] at h
            have hc : c ∈ l.filter fun a => !p a := by
              rw [hfree]
              exact List.mem_cons_self
            rw [List.mem_filter, ← (List.cons.inj h).1, ha] at hc
            exact absurd hc.2 Bool.false_ne_true
        have hall : ∀ b ∈ l, p b = true := fun b hb => by simpa using List.filter_eq_nil_iff.mp hfree b hb
        exact ⟨fun b hb _ => hall b hb, List.pairwise_of_forall_mem_list fun _ _ b hb _ => hall b hb⟩
      · rintro ⟨hall, -⟩
        have hfree : l.filter (fun a => !p a) = [] :=
          List.filter_eq_nil_iff.mpr fun b hb => by simp [hall b hb ha]
        rw [hfree, List.nil_append, List.filter_eq_self.mpr fun b hb => hall b hb ha]
    · rw [List.filter_cons_of_pos (by simpa using ha), List.filter_cons_of_neg ha, List.cons_append, List.cons_inj_right, ih]
      exact ⟨fun h => ⟨fun _ _ hpa => absurd hpa ha, h⟩, fun h => h.2⟩

end Parts

/-! ## Pieces -/

/-- A piece of content: a character, or a whole tool use. -/
inductive Piece (J : Type) where
  | char (c : Char)
  | toolUse (id name : String) (input : J)

section Pieces

variable {J : Type}

def Piece.isChar : Piece J → Bool
  | .char _ => true
  | .toolUse _ _ _ => false

def charPieces (text : String) : List (Piece J) := text.toList.map .char

def Block.pieces : Block J → List (Piece J)
  | .text t => charPieces t
  | .toolUse id name input => [.toolUse id name input]
  | .other _ => []

def blockPieces : ContentBlock J → List (Piece J)
  | .text t => charPieces t
  | .toolUse id name input => [.toolUse id name input]
  | .thinking _ => []

def Block.tool : Block J → List (Piece J)
  | .toolUse id name input => [.toolUse id name input]
  | .text _ | .other _ => []

def textOf (content : List (Block J)) : String := concat (content.filterMap Block.textPart)

/-- What is to be the same after the round trip: the pieces in their order, the stop reason, and the tokens of each class. -/
structure RoundTrips (r : Message J) (m : AnthropicMessage J) : Prop where
  pieces : m.content.flatMap blockPieces = r.content.flatMap Block.pieces
  stopReason : some m.stopReason = r.stopReason
  inputTokens : m.usage.inputTokens = r.usage.inputTokens
  outputTokens : m.usage.outputTokens = r.usage.outputTokens
  cacheCreation : m.usage.cacheCreationInputTokens.getD 0 = r.usage.cacheCreationInputTokens
  cacheRead : m.usage.cacheReadInputTokens.getD 0 = r.usage.cacheReadInputTokens

/-- An answer that is none the worse: no text before a tool use, a text that is not blank, a stop reason that has a finish reason of
its own, and nothing cached. -/
structure Message.Plain (r : Message J) : Prop where
  toolsFirst : r.content.Pairwise fun a b => a.pieces.any Piece.isChar = true → ∀ id name input, b ≠ .toolUse id name input
  notBlank : textOf r.content ≠ "" → strip (textOf r.content).toList ≠ []
  stopReason : r.stopReason ∈ [some "end_turn", some "max_tokens", some "tool_use", some "refusal"]
  uncached : r.usage.cacheCreationInputTokens = 0 ∧ r.usage.cacheReadInputTokens = 0

theorem charPieces_append (s t : String) : charPieces (J := J) (s ++ t) = charPieces s ++ charPieces t := by
  unfold charPieces
  rw [String.toList_append, List.map_append]

theorem filter_charPieces (t : String) : (charPieces (J := J) t).filter Piece.isChar = charPieces t :=
  List.filter_eq_self.mpr fun p hp => by
    obtain ⟨c, -, rfl⟩ := List.mem_map.mp hp
    rfl

theorem filter_charPieces_not (t : String) : (charPieces (J := J) t).filter (fun p => !p.isChar) = [] :=
  List.filter_eq_nil_iff.mpr fun p hp => by
    obtain ⟨c, -, rfl⟩ := List.mem_map.mp hp
    exact Bool.false_ne_true

variable (content : List (Block J))

theorem chars_of_content : (content.flatMap Block.pieces).filter Piece.isChar = charPieces (textOf content) := by
  induction content with
  | nil => rfl
  | cons b content ih =>
    rw [List.flatMap_cons, List.filter_append, ih]
    cases b with
    | text t =>
      have htext : textOf (.text t :: content) = t ++ textOf content := rfl
      rw [htext, charPieces_append]
      exact congrArg (· ++ _) (filter_charPieces t)
    | toolUse id name input => rfl
    | other type => rfl

theorem tools_of_content : (content.flatMap Block.pieces).filter (fun p => !p.isChar) = content.flatMap Block.tool := by
  induction content with
  | nil => rfl
  | cons b content ih =>
    rw [List.flatMap_cons, List.filter_append, ih, List.flatMap_cons]
    cases b with
    | text t => exact congrArg (· ++ _) (filter_charPieces_not t)
    | toolUse id name input => rfl
    | other type => rfl

theorem toolsFirst_iff : content.flatMap Block.pieces = content.flatMap Block.tool ++ charPieces (textOf content) ↔
      content.Pairwise fun a b => a.pieces.any Piece.isChar = true → ∀ id name input, b ≠ .toolUse id name input := by
  have hparts := eq_filter_append_filter_iff Piece.isChar (content.flatMap Block.pieces)
  rw [tools_of_content, chars_of_content, List.pairwise_flatMap] at hparts
  rw [hparts]
  have halone : ∀ b ∈ content, (Block.pieces b).Pairwise fun p q => p.isChar = true → q.isChar = true := by
    intro b _
    cases b with
    | text t =>
      refine List.pairwise_of_forall_mem_list fun p _ q hq _ => ?_
      obtain ⟨c, -, rfl⟩ := List.mem_map.mp hq
      rfl
    | toolUse id name input => exact List.pairwise_singleton _ _
    | other type => exact .nil
  rw [and_iff_right halone]
  refine List.Pairwise.iff fun a b => ?_
  constructor
  · rintro h hany id name input rfl
    obtain ⟨p, hp, hchar⟩ := List.any_eq_true.mp hany
    exact Bool.false_ne_true (h p hp (.toolUse id name input) List.mem_cons_self hchar)
  · intro h p hp q hq hchar
    have hnot := h (List.any_eq_true.mpr ⟨p, hp, hchar⟩)
    cases b with
    | text t =>
      obtain ⟨c, -, rfl⟩ := List.mem_map.mp hq
      rfl
    | toolUse id name input => exact absurd rfl (hnot id name input)
    | other type => exact absurd hq List.not_mem_nil

end Pieces

/-! ## There and back -/

section RoundTrip

variable {J : Type} (json : JsonText J) (r : Message J)

def roundTrip : AnthropicMessage J :=
  transformOpenaiToAnthropic json.loads json.emptyObject (anthropicResponseToOpenai json r).read none

theorem content_read : (anthropicResponseToOpenai json r).read.content = textOf r.content := by
  unfold Response.read anthropicResponseToOpenai textOf
  dsimp only
  split_ifs with hnone
  · rw [hnone]
    rfl
  · rfl

theorem pieces_of_toolCalls (content : List (Block J)) :
    (leadingBlocks json.loads json.emptyObject none (content.filterMap (Block.toolCall json))).flatMap blockPieces =
      content.flatMap Block.tool := by
  unfold leadingBlocks
  rw [List.nil_append]
  induction content with
  | nil => rfl
  | cons b content ih =>
    rw [List.flatMap_cons, ← ih]
    cases b with
    | text t => rfl
    | other type => rfl
    | toolUse id name input =>
      have hinput : parseArguments json.loads json.emptyObject (json.dumps input) = input := by
        unfold parseArguments
        rw [json.loads_dumps, Option.getD_some]
      have hcall : Block.toolCall json (.toolUse id name input) = some ⟨id, name, json.dumps input⟩ := rfl
      rw [List.filterMap_cons_some hcall, List.map_cons, List.flatMap_cons, hinput]
      rfl

theorem pieces_of_contentBlocks (loads : String → Option J) (emptyObject : J) (c : Completion) :
    (contentBlocks loads emptyObject c).flatMap blockPieces =
      (leadingBlocks loads emptyObject c.reasoning c.toolCalls).flatMap blockPieces ++
        if strip c.content.toList = [] then [] else charPieces c.content := by
  have hblocks (blocks : List (ContentBlock J)) :
      (if blocks.isEmpty then [.text ""] else blocks).flatMap blockPieces = blocks.flatMap blockPieces := by
    cases blocks <;> rfl
  unfold contentBlocks
  dsimp only
  rw [hblocks, List.flatMap_append]
  congr 1
  split_ifs
  · rfl
  · exact List.flatMap_singleton blockPieces _

theorem pieces_roundTrip : (roundTrip json r).content.flatMap blockPieces =
      r.content.flatMap Block.tool ++ if strip (textOf r.content).toList = [] then [] else charPieces (textOf r.content) := by
  have hblocks := pieces_of_contentBlocks json.loads json.emptyObject (anthropicResponseToOpenai json r).read
  rw [content_read] at hblocks
  exact hblocks.trans (congrArg (· ++ _) (pieces_of_toolCalls json r.content))

theorem pieces_roundTrip_iff : (roundTrip json r).content.flatMap blockPieces = r.content.flatMap Block.pieces ↔
      (r.content.Pairwise fun a b => a.pieces.any Piece.isChar = true → ∀ id name input, b ≠ .toolUse id name input) ∧
        (textOf r.content ≠ "" → strip (textOf r.content).toList ≠ []) := by
  rw [pieces_roundTrip, ← toolsFirst_iff]
  by_cases hblank : strip (textOf r.content).toList = []
  · rw [if_pos hblank, List.append_nil]
    constructor
    · intro h
      -- tool uses are all there is, so there is no text
      have hchars := congrArg (List.filter Piece.isChar) h
      rw [chars_of_content] at hchars
      have hnone : (r.content.flatMap Block.tool).filter Piece.isChar = [] := by
        rw [← tools_of_content, List.filter_filter]
        exact List.filter_eq_nil_iff.mpr fun p _ => by simp
      have hempty : textOf r.content = "" := by
        rw [hnone] at hchars
        exact String.toList_eq_nil_iff.mp (List.map_eq_nil_iff.mp hchars.symm)
      refine ⟨?_, fun hne => absurd hempty hne⟩
      rw [← h, hempty]
      exact (List.append_nil _).symm
    · rintro ⟨h, hnot⟩
      have hempty : textOf r.content = "" := by
        by_contra hne
        exact hnot hne hblank
      rw [h, hempty]
      exact (List.append_nil _).symm
  · rw [if_neg hblank]
    exact ⟨fun h => ⟨h.symm, fun _ => hblank⟩, fun h => h.1.symm⟩

theorem stopReason_roundTrip_iff : some (roundTrip json r).stopReason = r.stopReason ↔
      r.stopReason ∈ [some "end_turn", some "max_tokens", some "tool_use", some "refusal"] := by
  have hreason : (roundTrip json r).stopReason = stopReasonOf (finishReasonOf (r.stopReason.getD "")) := by
    have hnone (content stop : String) : stopSequenceTriggered none content stop = none := by
      unfold stopSequenceTriggered
      split_ifs <;> rfl
    show (if (stopSequenceTriggered none _ _).isSome then _ else stopReasonOf _) = _
    rw [hnone]
    rfl
  rw [hreason]
  cases hstop : r.stopReason with
  | none => decide
  | some reason =>
    by_cases hknown : reason ∈ stopReasonMap.map Prod.fst
    · simp only [stopReasonMap, List.map_cons, List.map_nil, List.mem_cons, List.not_mem_nil, or_false] at hknown
      obtain rfl | rfl | rfl | rfl | rfl | rfl := hknown <;> decide
    · -- a reason that is not in the map comes back as `end_turn`
      have hfinish : finishReasonOf reason = "stop" := by
        unfold finishReasonOf
        have hnone : stopReasonMap.lookup reason = none := by
          refine List.lookup_eq_none_iff.mpr fun p hp => bne_iff_ne.mpr fun heq => ?_
          exact hknown (List.mem_map.mpr ⟨p, hp, heq.symm⟩)
        rw [hnone, Option.getD_none]
      have hback : stopReasonOf (finishReasonOf ((some reason).getD "")) = "end_turn" := by
        rw [Option.getD_some, hfinish]
        rfl
      rw [hback]
      have hnot (known : String) (hmem : known ∈ stopReasonMap.map Prod.fst) : reason ≠ known := fun heq => hknown (heq ▸ hmem)
      have hend := hnot "end_turn" (by decide)
      have hlength := hnot "max_tokens" (by decide)
      have htool := hnot "tool_use" (by decide)
      have hrefusal := hnot "refusal" (by decide)
      simp [hend, hend.symm, hlength, htool, hrefusal]

theorem usage_roundTrip : (roundTrip json r).usage.inputTokens =
        r.usage.inputTokens + r.usage.cacheCreationInputTokens + r.usage.cacheReadInputTokens ∧
      (roundTrip json r).usage.outputTokens = r.usage.outputTokens ∧
      (roundTrip json r).usage.cacheCreationInputTokens.getD 0 = r.usage.cacheCreationInputTokens ∧
      (roundTrip json r).usage.cacheReadInputTokens.getD 0 = r.usage.cacheReadInputTokens := by
  refine ⟨rfl, rfl, ?_, ?_⟩
  · show (if _ then some r.usage.cacheCreationInputTokens else none).getD 0 = _
    split_ifs with hcached
    · rfl
    · push Not at hcached
      exact hcached.1.symm
  · show (if _ then some r.usage.cacheReadInputTokens else none).getD 0 = _
    split_ifs with hcached
    · rfl
    · push Not at hcached
      exact hcached.2.symm

/-- **Which answers are none the worse** for the round trip. -/
theorem round_trip_iff : RoundTrips r (roundTrip json r) ↔ r.Plain := by
  obtain ⟨hinput, houtput, hcreation, hread⟩ := usage_roundTrip json r
  have hpieces := pieces_roundTrip_iff json r
  have hstop := stopReason_roundTrip_iff json r
  constructor
  · intro h
    obtain ⟨htools, hblank⟩ := hpieces.mp h.pieces
    have hsame := hinput.symm.trans h.inputTokens
    exact ⟨htools, hblank, hstop.mp h.stopReason, by omega, by omega⟩
  · intro h
    have hsame : (roundTrip json r).usage.inputTokens = r.usage.inputTokens := by
      rw [hinput, h.uncached.1, h.uncached.2, Nat.add_zero]
    exact ⟨hpieces.mpr ⟨h.toolsFirst, h.notBlank⟩, hstop.mpr h.stopReason, hsame, houtput, hcreation, hread⟩

end RoundTrip

/-- JSON texts of the empty object, the only value. -/
def emptyObjectJson : JsonText Unit where
  dumps _ := "\x7b\x7d"
  loads text := if text = "\x7b\x7d" then some () else none
  emptyObject := ()
  objectSchema := ()
  truthy _ := true
  loads_dumps _ := rfl
  dumps_ne_empty _ := by decide
  truthy_objectSchema := rfl

def cachedAnswer : Message Unit :=
  ⟨"msg_1", "claude", [.text "Let me look.", .toolUse "toolu_1" "look" ()], some "tool_use",
    { inputTokens := 2, outputTokens := 5, cacheReadInputTokens := 8 }⟩

/-- It comes back with the tool use first, and eight tokens counted twice. -/
theorem cached_counted_twice :
    ¬ RoundTrips cachedAnswer (roundTrip emptyObjectJson cachedAnswer) ∧
      (roundTrip emptyObjectJson cachedAnswer).usage = ⟨10, 5, some 8, some 0⟩ ∧
      (roundTrip emptyObjectJson cachedAnswer).content = [.toolUse "toolu_1" "look" (), .text "Let me look."] := by
  refine ⟨fun h => ?_, by decide, by decide⟩
  exact absurd h.inputTokens (by decide)

end Gatewayz.Native
