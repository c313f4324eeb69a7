import Gatewayz.Messages.StreamNormalizer

/-!
# `Correctness.NormalizedStream` — what a normalised stream still says

A chunk **says** something to each choice: text, reasoning, pieces of tool calls, and why it is over (`Said`). A stream is kept if what
is emitted says the same to every choice, piece after piece. The normaliser has one form for text, and for reasoning; for tool calls it
has none, and the end of a message it announces twice.
-/

namespace Gatewayz.Normalizer

/-! ## What is said -/

/-- A piece of a tool call: as OpenAI or Gemini has it, or as Anthropic does, its beginning and text. -/
inductive ToolPiece (T : Type) where
  | fragment (t : T)
  | start (id name : String)
  | json (text : String)
  deriving DecidableEq

structure Said (T : Type) where
  index : ℕ
  content : String := ""
  reasoning : String := ""
  tools : List (ToolPiece T) := []
  finish : List String := []

section Said

variable {T : Type} (i : ℕ) (a b : List (Said T))

def contentAt (said : List (Said T)) : String := concat ((said.filter fun s => s.index = i).map Said.content)

def reasoningAt (said : List (Said T)) : String := concat ((said.filter fun s => s.index = i).map Said.reasoning)

def toolsAt (said : List (Said T)) : List (ToolPiece T) := (said.filter fun s => s.index = i).flatMap Said.tools

def finishAt (said : List (Said T)) : List String := (said.filter fun s => s.index = i).flatMap Said.finish

theorem contentAt_append : contentAt i (a ++ b) = contentAt i a ++ contentAt i b := by
  unfold contentAt
  rw [List.filter_append, List.map_append, concat_append]

theorem reasoningAt_append : reasoningAt i (a ++ b) = reasoningAt i a ++ reasoningAt i b := by
  unfold reasoningAt
  rw [List.filter_append, List.map_append, concat_append]

theorem toolsAt_append : toolsAt i (a ++ b) = toolsAt i a ++ toolsAt i b := by
  unfold toolsAt
  rw [List.filter_append, List.flatMap_append]

theorem finishAt_append : finishAt i (a ++ b) = finishAt i a ++ finishAt i b := by
  unfold finishAt
  rw [List.filter_append, List.flatMap_append]

theorem contentAt_singleton (s : Said T) : contentAt i [s] = if s.index = i then s.content else "" := by
  unfold contentAt
  by_cases h : s.index = i
  · rw [List.filter_cons_of_pos (by simpa using h), if_pos h]
    exact String.append_empty
  · rw [List.filter_cons_of_neg (by simpa using h), if_neg h]
    rfl

theorem reasoningAt_singleton (s : Said T) : reasoningAt i [s] = if s.index = i then s.reasoning else "" := by
  unfold reasoningAt
  by_cases h : s.index = i
  · rw [List.filter_cons_of_pos (by simpa using h), if_pos h]
    exact String.append_empty
  · rw [List.filter_cons_of_neg (by simpa using h), if_neg h]
    rfl

theorem toolsAt_singleton (s : Said T) : toolsAt i [s] = if s.index = i then s.tools else [] := by
  unfold toolsAt
  by_cases h : s.index = i
  · rw [List.filter_cons_of_pos (by simpa using h), if_pos h, List.filter_nil, List.flatMap_singleton]
  · rw [List.filter_cons_of_neg (by simpa using h), if_neg h]
    rfl

theorem finishAt_singleton (s : Said T) : finishAt i [s] = if s.index = i then s.finish else [] := by
  unfold finishAt
  by_cases h : s.index = i
  · rw [List.filter_cons_of_pos (by simpa using h), if_pos h, List.filter_nil, List.flatMap_singleton]
  · rw [List.filter_cons_of_neg (by simpa using h), if_neg h]
    rfl

end Said

def NormalizedChoice.said {T : Type} (c : NormalizedChoice) : Said T where
  index := c.index
  content := c.delta.content.getD ""
  reasoning := c.delta.reasoningContent.getD ""
  tools := c.delta.toolInputDelta.toList.map .json
  finish := c.finishReason.toList

/-! ## What upstream says -/

/-- A choice, as OpenAI and those who follow it send it. -/
structure WireChoice (T : Type) where
  index : ℕ
  role : Option String := none
  content : Option String := none
  reasoning : Option (ReasoningField × String) := none
  reasoningDetails : List String := []
  toolCalls : List T := []
  finishReason : Option String := none

inductive WireBlock where
  | text (text : String)
  | thinking (thinking : String)
  | toolUse (id name : String)
  | other (type : String)
  deriving DecidableEq

inductive WireDelta where
  | text (text : String)
  | thinking (thinking : String)
  | signature (signature : String)
  | inputJson (partialJson : String)
  | other (type : String)
  deriving DecidableEq

inductive WireEvent where
  | messageStart
  | contentBlockStart (index : ℕ) (block : WireBlock)
  | contentBlockDelta (index : ℕ) (delta : WireDelta)
  | contentBlockStop (index : ℕ)
  | messageDelta (stopReason : Option String)
  | messageStop
  | ping
  deriving DecidableEq

/-- A well-formed chunk, of one of the three formats. -/
inductive WireChunk (T : Type) where
  | choices (id : String) (created : ℕ) (model : String) (choices : List (WireChoice T))
  | candidates (candidates : List (Candidate T))
  | event (event : WireEvent)

section Encode

variable {T : Type}

/-- The dictionary of a choice. -/
def WireChoice.encode (c : WireChoice T) : Choice T where
  index := some c.index
  finishReason := c.finishReason
  delta := some
    { role := c.role
      content := c.content
      reasoning :=
        { fields := fun field => (c.reasoning.filter fun r => r.1 = field).map Prod.snd
          details := some (.list (c.reasoningDetails.map fun text => .step none (some text) none)) }
      toolCalls := c.toolCalls }

def WireBlock.encode : WireBlock → ContentBlock
  | .text t => { type := "text", text := some t }
  | .thinking t => { type := "thinking", thinking := some t }
  | .toolUse id name => { type := "tool_use", tool := some (id, name) }
  | .other type => { type := type }

/-- The dictionary of a piece. -/
def WireDelta.encode : WireDelta → Delta T
  | .text t => { type := some "text_delta", text := some t }
  | .thinking t =>
    { type := some "thinking_delta", reasoning := { fields := fun field => if field = .thinking then some t else none } }
  | .signature t => { type := some "signature_delta", signature := some t }
  | .inputJson t => { type := some "input_json_delta", partialJson := some t }
  | .other type => { type := some type }

/-- The dictionary of an event. -/
def WireEvent.encode : WireEvent → Chunk T
  | .messageStart => { type := some "message_start" }
  | .contentBlockStart index block => { type := some "content_block_start", index := some index, contentBlock := some block.encode }
  | .contentBlockDelta index delta => { type := some "content_block_delta", index := some index, delta := some delta.encode }
  | .contentBlockStop index => { type := some "content_block_stop", index := some index }
  | .messageDelta stopReason => { type := some "message_delta", delta := some { stopReason := stopReason } }
  | .messageStop => { type := some "message_stop" }
  | .ping => { type := some "ping" }

def WireChunk.encode : WireChunk T → Chunk T
  | .choices id created model cs =>
    { id := some id, created := some created, model := some model, choices := some (cs.map WireChoice.encode) }
  | .candidates cs => { candidates := some cs }
  | .event e => e.encode

def WireChoice.reasoningText (c : WireChoice T) : String :=
  match (c.reasoning.map Prod.snd).filter (· ≠ "") with
  | some text => text
  | none => "\n".intercalate (c.reasoningDetails.filter (· ≠ ""))

def WireChoice.said (c : WireChoice T) : Said T where
  index := c.index
  content := c.content.getD ""
  reasoning := c.reasoningText
  tools := c.toolCalls.map .fragment
  finish := (truthy c.finishReason).toList

def partTexts (thought : Bool) (parts : List (Part T)) : String :=
  concat ((parts.filter fun p => p.thought = thought).filterMap Part.text)

def saidByCandidate (index : ℕ) (c : Candidate T) : Said T where
  index := index
  content := partTexts false c.parts
  reasoning := partTexts true c.parts
  tools := (c.parts.filterMap Part.functionCall).map .fragment
  finish := (truthy c.finishReason).toList

def WireBlock.said : WireBlock → Said T
  | .text t => { index := 0, content := t }
  | .thinking t => { index := 0, reasoning := t }
  | .toolUse id name => { index := 0, tools := [.start id name] }
  | .other _ => { index := 0 }

def WireDelta.said : WireDelta → Said T
  | .text t => { index := 0, content := t }
  | .thinking t => { index := 0, reasoning := t }
  | .inputJson t => { index := 0, tools := (truthy (some t)).toList.map .json }
  | .signature _ | .other _ => { index := 0 }

def WireEvent.said : WireEvent → Said T
  | .contentBlockStart _ block => block.said
  | .contentBlockDelta _ delta => delta.said
  | .messageDelta stopReason => { index := 0, finish := (truthy stopReason).toList }
  | .messageStart | .contentBlockStop _ | .messageStop | .ping => { index := 0 }

/-- What a chunk says. -/
def WireChunk.said : WireChunk T → List (Said T)
  | .choices _ _ _ cs => cs.map WireChoice.said
  | .candidates cs => cs.mapIdx saidByCandidate
  | .event e => [e.said]

end Encode

/-! ## What is emitted -/

section Emit

variable {T : Type} {s : StreamNormalizer}

theorem truthy_getD (o : Option String) : (truthy o).getD "" = o.getD "" := by
  cases o with
  | none => rfl
  | some t =>
    unfold truthy
    by_cases h : t = ""
    · subst h
      rfl
    · rw [Option.filter_some, if_pos (by simpa using h)]

theorem truthy_eq_none_iff {t : String} : truthy (some t) = none ↔ t = "" := by
  unfold truthy
  by_cases h : t = ""
  · simp [h]
  · simp [h]

theorem truthy_of_ne {t : String} (h : t ≠ "") : truthy (some t) = some t := by
  unfold truthy
  rw [Option.filter_some, if_pos (by simpa using h)]

@[simp] theorem truthy_none : truthy none = none := rfl

@[simp] theorem truthy_empty : truthy (some "") = none := rfl

def StreamNormalizer.took (s : StreamNormalizer) (d : NormalizedDelta) : StreamNormalizer :=
  (s.addContent d.content).addReasoning d.reasoningContent

@[simp] theorem addContent_none : s.addContent none = s := by
  unfold StreamNormalizer.addContent
  rw [Option.getD_none, String.append_empty]

@[simp] theorem addReasoning_none : s.addReasoning none = s := by
  unfold StreamNormalizer.addReasoning
  rw [Option.getD_none, String.append_empty]

theorem took_empty : s.took {} = s := by
  unfold StreamNormalizer.took
  rw [addContent_none, addReasoning_none]

theorem took_content (t : Option String) : s.took { content := t } = s.addContent t := by
  unfold StreamNormalizer.took
  rw [addReasoning_none]

theorem took_reasoning (t : Option String) : s.took { reasoningContent := t } = s.addReasoning t := by
  unfold StreamNormalizer.took
  rw [addContent_none]

def StreamNormalizer.tookAll (s : StreamNormalizer) (choices : List NormalizedChoice) : StreamNormalizer :=
  choices.foldl (fun s c => s.took c.delta) s

/-! ### Choices -/

def choiceOf (c : WireChoice T) : NormalizedChoice where
  index := c.index
  delta := { role := c.role, content := truthy c.content, reasoningContent := truthy (some c.reasoningText) }
  finishReason := normalizeFinishReason c.finishReason

theorem findSome_fields (r : Option (ReasoningField × String)) :
    (ReasoningField.all.findSome? fun field => truthy ((r.filter fun r => r.1 = field).map Prod.snd)) = truthy (r.map Prod.snd) := by
  cases r with
  | none => rfl
  | some r =>
    obtain ⟨name, text⟩ := r
    by_cases h : text = ""
    · subst h
      cases name <;> rfl
    · have ht := truthy_of_ne h
      cases name <;> simp [ReasoningField.all, Option.filter_some, ht]

theorem reads_details (texts : List String) :
    (texts.map fun text => ReasoningDetail.step none (some text) none).filterMap ReasoningDetail.reads = texts.filter (· ≠ "") := by
  induction texts with
  | nil => rfl
  | cons t texts ih =>
    rw [List.map_cons]
    by_cases h : t = ""
    · subst h
      rw [List.filterMap_cons_none rfl, ih, List.filter_cons_of_neg (by simp)]
    · have hreads : (ReasoningDetail.step none (some t) none).reads = some t := by
        simp [ReasoningDetail.reads, truthy_of_ne h]
      rw [List.filterMap_cons_some hreads, ih, List.filter_cons_of_pos (by simpa using h)]

theorem extractReasoning_encode (c : WireChoice T) :
    (extractReasoning ((c.encode.delta.getD {}).reasoning)).filter (· ≠ "") = truthy (some c.reasoningText) := by
  have hextract : extractReasoning ((c.encode.delta.getD {}).reasoning) =
      (truthy (c.reasoning.map Prod.snd)).or
        (if c.reasoningDetails.filter (· ≠ "") = [] then none else some ("\n".intercalate (c.reasoningDetails.filter (· ≠ "")))) := by
    rw [← findSome_fields, ← reads_details]
    rfl
  have htext : c.reasoningText = (truthy (c.reasoning.map Prod.snd)).getD ("\n".intercalate (c.reasoningDetails.filter (· ≠ ""))) := by
    unfold WireChoice.reasoningText truthy
    split
    · next t ht => rw [ht, Option.getD_some]
    · next ht => rw [ht, Option.getD_none]
  rw [hextract, htext]
  cases hfield : truthy (c.reasoning.map Prod.snd) with
  | some t =>
    obtain ⟨-, hne⟩ := Option.filter_eq_some_iff.mp hfield
    rw [Option.getD_some, Option.some_or, Option.filter_some, if_pos hne, truthy_of_ne (by simpa using hne)]
  | none =>
    rw [Option.getD_none, Option.none_or]
    by_cases hnone : c.reasoningDetails.filter (· ≠ "") = []
    · rw [if_pos hnone, hnone]
      rfl
    · rw [if_neg hnone]
      rfl

theorem normalizeChoice_encode (s : StreamNormalizer) (c : WireChoice T) :
    s.normalizeChoice c.encode = (choiceOf c, s.took (choiceOf c).delta) := by
  have hreasoning := extractReasoning_encode c
  have hnone : truthy (extractReasoning {}) = none := rfl
  have hcontent : (truthy (c.encode.delta.getD {}).content).or (truthy c.encode.text) = truthy c.content := Option.or_none
  have htext : (truthy (some c.reasoningText)).or (truthy (extractReasoning c.encode.reasoning)) = truthy (some c.reasoningText) := by
    show (truthy (some c.reasoningText)).or (truthy (extractReasoning {})) = _
    rw [hnone, Option.or_none]
  unfold StreamNormalizer.normalizeChoice
  dsimp only
  rw [hreasoning, hcontent, htext]
  rfl

theorem normalizeChoices_encode (s : StreamNormalizer) (cs : List (WireChoice T)) :
    StreamNormalizer.normalizeChoices (cs.map WireChoice.encode) s = (cs.map choiceOf, s.tookAll (cs.map choiceOf)) := by
  induction cs generalizing s with
  | nil => rfl
  | cons c cs ih =>
    rw [List.map_cons, StreamNormalizer.normalizeChoices, normalizeChoice_encode]
    dsimp only
    rw [ih]
    rfl

/-! ### Candidates -/

def candidateOf (index : ℕ) (c : Candidate T) : NormalizedChoice where
  index := index
  delta := { content := truthy (some (concat (c.parts.filterMap Part.text))) }
  finishReason := normalizeFinishReason c.finishReason

theorem normalizeCandidates_eq (s : StreamNormalizer) (n : ℕ) (cs : List (Candidate T)) :
    StreamNormalizer.normalizeCandidates n cs s =
      (cs.mapIdx fun i => candidateOf (n + i), s.tookAll (cs.mapIdx fun i => candidateOf (n + i))) := by
  induction cs generalizing n s with
  | nil => rfl
  | cons c cs ih =>
    have hshift : (fun i => candidateOf (T := T) (n + (i + 1))) = fun i => candidateOf (n + 1 + i) := by
      funext i
      rw [Nat.add_assoc, Nat.add_comm 1 i]
    have hfirst : s.normalizeGeminiCandidate c n = (candidateOf n c, s.took (candidateOf n c).delta) :=
      congrArg (Prod.mk _) (took_content _).symm
    rw [StreamNormalizer.normalizeCandidates, List.mapIdx_cons, hshift, hfirst]
    dsimp only
    rw [ih]
    rfl

/-! ### Events -/

def WireDelta.normalized : WireDelta → NormalizedDelta
  | .text t => { content := truthy (some t) }
  | .thinking t => { reasoningContent := truthy (some t) }
  | .signature t => { signature := truthy (some t) }
  | .inputJson t => { toolInputDelta := truthy (some t) }
  | .other _ => {}

def WireBlock.normalized : WireBlock → NormalizedDelta
  | .text t => { content := truthy (some t) }
  | .thinking t => { reasoningContent := truthy (some t) }
  | .toolUse _ _ | .other _ => {}

theorem blockDelta_encode (s : StreamNormalizer) (d : WireDelta) :
    s.blockDelta (d.encode (T := T)) = (d.normalized, s.took d.normalized) := by
  unfold StreamNormalizer.blockDelta
  cases d with
  | text t =>
    rw [if_pos (.inl rfl)]
    exact congrArg (Prod.mk _) (took_content _).symm
  | thinking t =>
    rw [if_neg (by simp [WireDelta.encode]), if_pos (.inl rfl)]
    exact congrArg (Prod.mk _) (took_reasoning _).symm
  | signature t =>
    have htype : (WireDelta.signature t).encode (T := T).type.getD "" = "signature_delta" := rfl
    rw [if_neg (by simp [htype]), if_neg (by simp [htype]), if_pos htype]
    exact congrArg (Prod.mk _) took_empty.symm
  | inputJson t =>
    have htype : (WireDelta.inputJson t).encode (T := T).type.getD "" = "input_json_delta" := rfl
    rw [if_neg (by simp [htype]), if_neg (by simp [htype]), if_neg (by simp [htype]), if_pos htype]
    exact congrArg (Prod.mk _) took_empty.symm
  | other type =>
    -- whatever it is called, there is nothing in it
    have hnothing : ((WireDelta.other type).normalized, s.took (WireDelta.other type).normalized) = ({}, s) :=
      congrArg (Prod.mk _) took_empty
    rw [hnothing]
    dsimp only
    split_ifs
    · exact congrArg (Prod.mk _) addContent_none
    · exact congrArg (Prod.mk _) addReasoning_none
    · rfl
    · rfl
    · rfl

theorem blockStart_encode (s : StreamNormalizer) (b : WireBlock) :
    s.blockStart b.encode = (b.normalized, s.took b.normalized) := by
  unfold StreamNormalizer.blockStart
  cases b with
  | text t =>
    rw [if_neg (by simp [WireBlock.encode]), if_pos (by rfl)]
    exact congrArg (Prod.mk _) (took_content _).symm
  | thinking t =>
    rw [if_pos (by rfl)]
    exact congrArg (Prod.mk _) (took_reasoning _).symm
  | toolUse id name =>
    rw [if_neg (by simp [WireBlock.encode]), if_neg (by simp [WireBlock.encode])]
    exact congrArg (Prod.mk _) took_empty.symm
  | other type =>
    have hnothing : ((WireBlock.other type).normalized, s.took (WireBlock.other type).normalized) = ({}, s) :=
      congrArg (Prod.mk _) took_empty
    rw [hnothing]
    split_ifs
    · exact congrArg (Prod.mk _) addReasoning_none
    · exact congrArg (Prod.mk _) addContent_none
    · rfl

/-- What is emitted for an event. What says nothing and has a delta is still emitted, as a choice of its own. -/
def eventOf : WireEvent → List NormalizedChoice
  | .contentBlockStart _ block => if block.normalized = {} then [] else [⟨0, block.normalized, none⟩]
  | .contentBlockDelta index delta => if delta.normalized = {} then [⟨index, {}, none⟩] else [⟨0, delta.normalized, none⟩]
  | .messageDelta stopReason => [⟨0, {}, normalizeFinishReason stopReason⟩]
  | .messageStop => [⟨0, {}, some "stop"⟩]
  | .messageStart | .contentBlockStop _ | .ping => []

def emittedOf : WireChunk T → List NormalizedChoice
  | .choices _ _ _ cs => cs.map choiceOf
  | .candidates cs => cs.mapIdx candidateOf
  | .event e => eventOf e

theorem normalizeChoice_silent (s : StreamNormalizer) (index : Option ℕ) (d : Delta T) (hrole : d.role = none)
    (hcontent : truthy d.content = none) (hreasoning : extractReasoning d.reasoning = none) :
    s.normalizeChoice { index := index, delta := some d } = (⟨index.getD 0, {}, none⟩, s) := by
  have hnone : extractReasoning {} = none := rfl
  unfold StreamNormalizer.normalizeChoice
  simp [hrole, hcontent, hreasoning, hnone, normalizeFinishReason]

theorem silent_of_normalized {d : WireDelta} (h : d.normalized = {}) :
    (d.encode (T := T)).role = none ∧ truthy (d.encode (T := T)).content = none ∧
      extractReasoning (d.encode (T := T)).reasoning = none := by
  refine ⟨by cases d <;> rfl, by cases d <;> rfl, ?_⟩
  cases d with
  | thinking t =>
    have ht : truthy (some t) = none := congrArg NormalizedDelta.reasoningContent h
    rw [truthy_eq_none_iff] at ht
    subst ht
    rfl
  | text t => rfl
  | signature t => rfl
  | inputJson t => rfl
  | other type => rfl

theorem normalizeChunk_of_form {s s' : StreamNormalizer} {chunk : Chunk T} {l : List NormalizedChoice}
    (h : s.normalizeForm chunk = (l, s')) (hl : l ≠ [] ∨ ¬ (chunk.content.isSome ∨ chunk.delta.isSome)) :
    ((s.normalizeChunk chunk).1.map NormalizedChunk.choices).getD [] = l ∧ (s.normalizeChunk chunk).2 = s' := by
  have hflat : ¬ (l = [] ∧ (chunk.content.isSome ∨ chunk.delta.isSome)) := fun hboth => hl.elim (absurd hboth.1) (absurd hboth.2)
  unfold StreamNormalizer.normalizeChunk
  rw [h]
  dsimp only
  rw [if_neg hflat]
  dsimp only
  by_cases hempty : l = []
  · rw [if_pos hempty]
    exact ⟨hempty.symm, rfl⟩
  · rw [if_neg hempty]
    exact ⟨rfl, rfl⟩

theorem normalizeChunk_flat {s s' s'' : StreamNormalizer} {chunk : Chunk T} {c : NormalizedChoice}
    (h : s.normalizeForm chunk = ([], s')) (hdelta : chunk.delta.isSome) (hc : s'.normalizeChoice chunk.toChoice = (c, s'')) :
    ((s.normalizeChunk chunk).1.map NormalizedChunk.choices).getD [] = [c] ∧ (s.normalizeChunk chunk).2 = s'' := by
  unfold StreamNormalizer.normalizeChunk
  simp [h, hdelta, hc]

theorem normalizeChunk_event (s : StreamNormalizer) (e : WireEvent) :
    ((s.normalizeChunk (e.encode (T := T))).1.map NormalizedChunk.choices).getD [] = eventOf e ∧
      (s.normalizeChunk (e.encode (T := T))).2 = s.tookAll (eventOf e) := by
  cases e with
  | messageStart => exact ⟨rfl, rfl⟩
  | contentBlockStop index => exact ⟨rfl, rfl⟩
  | ping => exact ⟨rfl, rfl⟩
  | messageStop =>
    have hform : s.normalizeForm ((WireEvent.messageStop).encode (T := T)) = ([⟨0, {}, some "stop"⟩], s) := by
      simp [StreamNormalizer.normalizeForm, StreamNormalizer.normalizeAnthropicEvent, WireEvent.encode]
    rw [eventOf, StreamNormalizer.tookAll, List.foldl_cons, took_empty]
    exact normalizeChunk_of_form hform (.inl (List.cons_ne_nil _ _))
  | messageDelta stopReason =>
    have hstate : s.tookAll (eventOf (.messageDelta stopReason)) = s := took_empty
    rw [hstate]
    cases hreason : normalizeFinishReason stopReason with
    | some reason =>
      have hform : s.normalizeForm ((WireEvent.messageDelta stopReason).encode (T := T)) = ([⟨0, {}, some reason⟩], s) := by
        simp [StreamNormalizer.normalizeForm, StreamNormalizer.normalizeAnthropicEvent, WireEvent.encode, hreason]
      rw [eventOf, hreason]
      exact normalizeChunk_of_form hform (.inl (List.cons_ne_nil _ _))
    | none =>
      have hform : s.normalizeForm ((WireEvent.messageDelta stopReason).encode (T := T)) = ([], s) := by
        simp [StreamNormalizer.normalizeForm, StreamNormalizer.normalizeAnthropicEvent, WireEvent.encode, hreason]
      rw [eventOf, hreason]
      exact normalizeChunk_flat hform rfl (normalizeChoice_silent s none _ rfl rfl rfl)
  | contentBlockStart index block =>
    have hemit : s.normalizeForm ((WireEvent.contentBlockStart index block).encode (T := T)) =
        (eventOf (.contentBlockStart index block), s.took block.normalized) := by
      have hstart := blockStart_encode s block
      by_cases hempty : block.normalized = {}
      · simp [StreamNormalizer.normalizeForm, StreamNormalizer.normalizeAnthropicEvent, WireEvent.encode, hstart, eventOf, hempty]
      · simp [StreamNormalizer.normalizeForm, StreamNormalizer.normalizeAnthropicEvent, WireEvent.encode, hstart, eventOf, hempty]
    have hstate : s.tookAll (eventOf (.contentBlockStart index block)) = s.took block.normalized := by
      rw [eventOf]
      split_ifs with hempty
      · rw [hempty, took_empty]
        rfl
      · rfl
    rw [hstate]
    exact normalizeChunk_of_form hemit (.inr (by simp [WireEvent.encode]))
  | contentBlockDelta index delta =>
    have hdelta := blockDelta_encode (T := T) s delta
    by_cases hempty : delta.normalized = {}
    · obtain ⟨hrole, hcontent, hreasoning⟩ := silent_of_normalized (T := T) hempty
      have hform : s.normalizeForm ((WireEvent.contentBlockDelta index delta).encode (T := T)) = ([], s) := by
        simp [StreamNormalizer.normalizeForm, StreamNormalizer.normalizeAnthropicEvent, WireEvent.encode, hdelta, hempty, took_empty]
      have hstate : s.tookAll [⟨index, {}, none⟩] = s := took_empty
      rw [eventOf, if_pos hempty, hstate]
      exact normalizeChunk_flat hform rfl (normalizeChoice_silent s (some index) _ hrole hcontent hreasoning)
    · have hform : s.normalizeForm ((WireEvent.contentBlockDelta index delta).encode (T := T)) =
          ([⟨0, delta.normalized, none⟩], s.took delta.normalized) := by
        simp [StreamNormalizer.normalizeForm, StreamNormalizer.normalizeAnthropicEvent, WireEvent.encode, hdelta, hempty]
      rw [eventOf, if_neg hempty]
      exact normalizeChunk_of_form hform (.inl (List.cons_ne_nil _ _))

/-- What is emitted for a chunk, which is added up. -/
theorem normalizeChunk_encode (s : StreamNormalizer) (c : WireChunk T) :
    ((s.normalizeChunk c.encode).1.map NormalizedChunk.choices).getD [] = emittedOf c ∧
      (s.normalizeChunk c.encode).2 = s.tookAll (emittedOf c) := by
  cases c with
  | choices id created model cs =>
    exact normalizeChunk_of_form (normalizeChoices_encode s cs) (.inr (by simp [WireChunk.encode]))
  | candidates cs =>
    have hform := normalizeCandidates_eq s 0 cs
    simp only [Nat.zero_add] at hform
    exact normalizeChunk_of_form hform (.inr (by simp [WireChunk.encode]))
  | event e => exact normalizeChunk_event s e

def emittedChoices (out : List NormalizedChunk) : List NormalizedChoice := out.flatMap NormalizedChunk.choices

/-- What is emitted for a stream, which is added up. -/
theorem normalizeStream_encode (s : StreamNormalizer) (cs : List (WireChunk T)) :
    emittedChoices (StreamNormalizer.normalizeStream (cs.map WireChunk.encode) s).1 = cs.flatMap emittedOf ∧
      (StreamNormalizer.normalizeStream (cs.map WireChunk.encode) s).2 = s.tookAll (cs.flatMap emittedOf) := by
  induction cs generalizing s with
  | nil => exact ⟨rfl, rfl⟩
  | cons c cs ih =>
    obtain ⟨hout, hstate⟩ := normalizeChunk_encode s c
    obtain ⟨hrest, hfinal⟩ := ih (s.tookAll (emittedOf c))
    rw [List.map_cons, StreamNormalizer.normalizeStream, List.flatMap_cons]
    dsimp only
    rw [hstate]
    constructor
    · refine (List.flatMap_append ..).trans (congrArg₂ _ ?_ hrest)
      rw [← hout]
      cases (s.normalizeChunk c.encode).1 <;> simp
    · rw [hfinal]
      exact (List.foldl_append ..).symm

end Emit

/-! ## Reasons -/

inductive FinishKind where
  | stop
  | length
  | filter
  | tool
  deriving DecidableEq

/-- The kind of a reason, of any of the formats. -/
def finishKind (reason : String) : Option FinishKind :=
  let reason := lower reason
  if reason ∈ ["stop", "end_turn", "stop_sequence", "pause_turn"] then some .stop
  else if reason ∈ ["length", "max_tokens"] then some .length
  else if reason ∈ ["content_filter", "safety", "error", "refusal"] then some .filter
  else if reason ∈ ["tool_calls", "function_call", "tool_use"] then some .tool
  else none

def Corresponds (upstream emitted : String) : Prop := ∀ kind, finishKind upstream = some kind → finishKind emitted = some kind

/-- The reasons that `_normalize_finish_reason` does not know. -/
def FinishKept (reason : String) : Prop := lower reason ∉ ["tool_use", "refusal"]

instance (reason : String) : Decidable (FinishKept reason) := inferInstanceAs (Decidable (_ ∉ _))

theorem corresponds_finishWord (reason : String) : Corresponds reason (finishWord reason) ↔ FinishKept reason := by
  have hstop : finishKind "stop" = some .stop := by decide
  have hlength : finishKind "length" = some .length := by decide
  have herror : finishKind "error" = some .filter := by decide
  have hcalls : finishKind "tool_calls" = some .tool := by decide
  have hcall : finishKind "function_call" = some .tool := by decide
  unfold Corresponds FinishKept
  rw [finishKind, finishWord]
  generalize lower reason = w
  by_cases hs : w ∈ ["stop", "end_turn", "stop_sequence", "pause_turn"]
  · simp only [List.mem_cons, List.not_mem_nil, or_false] at hs
    obtain rfl | rfl | rfl | rfl := hs <;> simp [hstop]
  rw [if_neg hs]
  by_cases hl : w ∈ ["length", "max_tokens"]
  · simp only [List.mem_cons, List.not_mem_nil, or_false] at hl
    obtain rfl | rfl := hl <;> simp [hlength]
  rw [if_neg hl]
  by_cases hf : w ∈ ["content_filter", "safety", "error", "refusal"]
  · simp only [List.mem_cons, List.not_mem_nil, or_false] at hf
    obtain rfl | rfl | rfl | rfl := hf <;> simp [herror, hstop]
  rw [if_neg hf]
  by_cases ht : w ∈ ["tool_calls", "function_call", "tool_use"]
  · simp only [List.mem_cons, List.not_mem_nil, or_false] at ht
    obtain rfl | rfl | rfl := ht <;> simp [hcalls, hcall, hstop]
  rw [if_neg ht]
  simp only [List.mem_cons, List.not_mem_nil, or_false, not_or] at hf ht ⊢
  exact ⟨fun _ => ⟨ht.2.2, hf.2.2.2⟩, fun _ _ => nofun⟩

/-! ## Streams, piece by piece -/

section Additive

variable {α β γ : Type}

theorem flatMap_agree {F G : List γ → β} {op : β → β → β} (hF : ∀ a b, F (a ++ b) = op (F a) (F b))
    (hG : ∀ a b, G (a ++ b) = op (G a) (G b)) (hnil : F [] = G []) {f g : α → List γ} {L : List α}
    (h : ∀ a ∈ L, F (f a) = G (g a)) : F (L.flatMap f) = G (L.flatMap g) := by
  induction L with
  | nil => exact hnil
  | cons a L ih =>
    rw [List.flatMap_cons, List.flatMap_cons, hF, hG, h a List.mem_cons_self, ih fun b hb => h b (List.mem_cons_of_mem a hb)]

variable {m : List γ → ℕ} {f g : α → List γ} {L : List α}

theorem flatMap_le (hadd : ∀ a b, m (a ++ b) = m a + m b) (h : ∀ a ∈ L, m (f a) ≤ m (g a)) :
    m (L.flatMap f) ≤ m (L.flatMap g) := by
  induction L with
  | nil => exact le_rfl
  | cons a L ih =>
    rw [List.flatMap_cons, List.flatMap_cons, hadd, hadd]
    exact Nat.add_le_add (h a List.mem_cons_self) (ih fun b hb => h b (List.mem_cons_of_mem a hb))

theorem eq_of_flatMap_eq (hadd : ∀ a b, m (a ++ b) = m a + m b) (h : ∀ a ∈ L, m (f a) ≤ m (g a))
    (heq : m (L.flatMap f) = m (L.flatMap g)) : ∀ a ∈ L, m (f a) = m (g a) := by
  induction L with
  | nil => exact fun a ha => absurd ha List.not_mem_nil
  | cons b L ih =>
    have hhead := h b List.mem_cons_self
    have htail := flatMap_le hadd fun a ha => h a (List.mem_cons_of_mem b ha)
    rw [List.flatMap_cons, List.flatMap_cons, hadd, hadd] at heq
    intro a ha
    obtain rfl | ha := List.mem_cons.mp ha
    · omega
    · exact ih (fun a ha => h a (List.mem_cons_of_mem b ha)) (by omega) a ha

end Additive

section Pieces

variable {T : Type} {α : Type}

/-- What is emitted, `e`, says all that upstream does. -/
structure Says (u e : List (Said T)) : Prop where
  content : ∀ i, contentAt i e = contentAt i u
  reasoning : ∀ i, reasoningAt i e = reasoningAt i u
  tools : ∀ i, toolsAt i e = toolsAt i u
  finish : ∀ i, finishAt i e = (finishAt i u).map finishWord

/-- What is emitted never has less text, nor more pieces of tool calls, nor fewer reasons to be over. -/
structure Within (u e : List (Said T)) : Prop where
  content : ∀ i, (contentAt i u).length ≤ (contentAt i e).length
  tools : ∀ i, (toolsAt i e).length ≤ (toolsAt i u).length
  finish : ∀ i, (finishAt i u).length ≤ (finishAt i e).length

structure Balanced (u e : List (Said T)) : Prop where
  content : ∀ i, (contentAt i u).length = (contentAt i e).length
  tools : ∀ i, (toolsAt i e).length = (toolsAt i u).length
  finish : ∀ i, (finishAt i u).length = (finishAt i e).length

theorem length_contentAt_append (i : ℕ) (a b : List (Said T)) :
    (contentAt i (a ++ b)).length = (contentAt i a).length + (contentAt i b).length := by
  rw [contentAt_append, String.length_append]

theorem length_toolsAt_append (i : ℕ) (a b : List (Said T)) :
    (toolsAt i (a ++ b)).length = (toolsAt i a).length + (toolsAt i b).length := by
  rw [toolsAt_append, List.length_append]

theorem length_finishAt_append (i : ℕ) (a b : List (Said T)) :
    (finishAt i (a ++ b)).length = (finishAt i a).length + (finishAt i b).length := by
  rw [finishAt_append, List.length_append]

variable {f g : α → List (Said T)} {L : List α}

theorem Says.flatMap (h : ∀ a ∈ L, Says (f a) (g a)) : Says (L.flatMap f) (L.flatMap g) where
  content i := flatMap_agree (contentAt_append i) (contentAt_append i) rfl fun a ha => (h a ha).content i
  reasoning i := flatMap_agree (reasoningAt_append i) (reasoningAt_append i) rfl fun a ha => (h a ha).reasoning i
  tools i := flatMap_agree (toolsAt_append i) (toolsAt_append i) rfl fun a ha => (h a ha).tools i
  finish i := by
    have hmap (a b : List (Said T)) :
        (finishAt i (a ++ b)).map finishWord = (finishAt i a).map finishWord ++ (finishAt i b).map finishWord := by
      rw [finishAt_append, List.map_append]
    exact flatMap_agree (G := fun said => (finishAt i said).map finishWord) (finishAt_append i) hmap rfl fun a ha => (h a ha).finish i

theorem Within.flatMap (h : ∀ a ∈ L, Within (f a) (g a)) : Within (L.flatMap f) (L.flatMap g) where
  content i := flatMap_le (m := fun said => (contentAt i said).length) (length_contentAt_append i) fun a ha => (h a ha).content i
  tools i := flatMap_le (m := fun said => (toolsAt i said).length) (length_toolsAt_append i) fun a ha => (h a ha).tools i
  finish i := flatMap_le (m := fun said => (finishAt i said).length) (length_finishAt_append i) fun a ha => (h a ha).finish i

theorem Balanced.of_flatMap (h : ∀ a ∈ L, Within (f a) (g a)) (hb : Balanced (L.flatMap f) (L.flatMap g)) :
    ∀ a ∈ L, Balanced (f a) (g a) := fun a ha =>
  { content := fun i => eq_of_flatMap_eq (m := fun said => (contentAt i said).length) (length_contentAt_append i)
      (fun a ha => (h a ha).content i) (hb.content i) a ha
    tools := fun i => eq_of_flatMap_eq (m := fun said => (toolsAt i said).length) (length_toolsAt_append i)
      (fun a ha => (h a ha).tools i) (hb.tools i) a ha
    finish := fun i => eq_of_flatMap_eq (m := fun said => (finishAt i said).length) (length_finishAt_append i)
      (fun a ha => (h a ha).finish i) (hb.finish i) a ha }

end Pieces

/-! ## What is kept -/

section Kept

variable {T : Type}

/-- A chunk that is kept whole: it has no tool call but Anthropic's JSON, no thought among its parts, no reason that is not known,
and it is not `message_stop`. -/
def WireChunk.Kept : WireChunk T → Prop
  | .choices _ _ _ cs => ∀ c ∈ cs, c.toolCalls = [] ∧ ∀ reason ∈ c.finishReason, FinishKept reason
  | .candidates cs =>
    ∀ c ∈ cs, (∀ p ∈ c.parts, p.functionCall = none ∧ (p.thought = true → p.text.getD "" = "")) ∧
      ∀ reason ∈ c.finishReason, FinishKept reason
  | .event (.contentBlockStart _ (.toolUse _ _)) => False
  | .event (.messageDelta stopReason) => ∀ reason ∈ stopReason, FinishKept reason
  | .event .messageStop => False
  | .event _ => True

def saidBy (choices : List NormalizedChoice) : List (Said T) := choices.map NormalizedChoice.said

theorem finish_of_reason (reason : Option String) : (normalizeFinishReason reason).toList = (truthy reason).toList.map finishWord := by
  unfold normalizeFinishReason
  cases truthy reason <;> rfl

theorem finishKept_iff (reason : Option String) :
    (∀ r ∈ (truthy reason).toList, FinishKept r) ↔ ∀ r ∈ reason, FinishKept r := by
  cases reason with
  | none => simp
  | some r =>
    by_cases h : r = ""
    · subst h
      have hempty : FinishKept "" := by decide
      simp [hempty]
    · simp [truthy_of_ne h]

theorem says_singleton {u e : Said T} (hindex : e.index = u.index) (hcontent : e.content = u.content)
    (hreasoning : e.reasoning = u.reasoning) (htools : e.tools = u.tools) (hfinish : e.finish = u.finish.map finishWord) :
    Says [u] [e] := by
  refine ⟨fun i => ?_, fun i => ?_, fun i => ?_, fun i => ?_⟩
  · rw [contentAt_singleton, contentAt_singleton, hindex, hcontent]
  · rw [reasoningAt_singleton, reasoningAt_singleton, hindex, hreasoning]
  · rw [toolsAt_singleton, toolsAt_singleton, hindex, htools]
  · rw [finishAt_singleton, finishAt_singleton, hindex, hfinish]
    split_ifs <;> rfl

theorem within_singleton {u e : Said T} (hindex : e.index = u.index) (hcontent : u.content.length ≤ e.content.length)
    (htools : e.tools.length ≤ u.tools.length) (hfinish : u.finish.length ≤ e.finish.length) : Within [u] [e] := by
  refine ⟨fun i => ?_, fun i => ?_, fun i => ?_⟩
  · rw [contentAt_singleton, contentAt_singleton, hindex]
    split_ifs
    · exact hcontent
    · exact le_rfl
  · rw [toolsAt_singleton, toolsAt_singleton, hindex]
    split_ifs
    · exact htools
    · exact le_rfl
  · rw [finishAt_singleton, finishAt_singleton, hindex]
    split_ifs
    · exact hfinish
    · exact le_rfl

/-! ### Choices -/

theorem said_choiceOf (c : WireChoice T) :
    (choiceOf c).said (T := T) = { c.said with tools := [], finish := c.said.finish.map finishWord } := by
  unfold NormalizedChoice.said choiceOf WireChoice.said
  dsimp only
  rw [truthy_getD, truthy_getD, finish_of_reason]
  rfl

theorem within_choice (c : WireChoice T) : Within [c.said] [(choiceOf c).said] := by
  rw [said_choiceOf]
  exact within_singleton rfl le_rfl (Nat.zero_le _) (List.length_map finishWord).ge

theorem says_choice {c : WireChoice T} (htools : c.toolCalls = []) : Says [c.said] [(choiceOf c).said] := by
  rw [said_choiceOf]
  have hnone : c.said.tools = [] := by
    unfold WireChoice.said
    rw [htools, List.map_nil]
  exact says_singleton rfl rfl rfl hnone.symm rfl

theorem toolCalls_of_balanced {c : WireChoice T} (h : Balanced [c.said] [(choiceOf c).said]) : c.toolCalls = [] := by
  have htools := h.tools c.index
  rw [said_choiceOf, toolsAt_singleton, toolsAt_singleton, if_pos (by rfl), if_pos (by rfl)] at htools
  have hlength : c.toolCalls.length = 0 := by
    rw [← List.length_map (f := ToolPiece.fragment)]
    exact htools.symm
  exact List.length_eq_zero_iff.mp hlength

/-! ### Candidates -/

theorem said_candidateOf (index : ℕ) (c : Candidate T) : (candidateOf index c).said (T := T) =
      { saidByCandidate index c with
        content := concat (c.parts.filterMap Part.text), reasoning := "", tools := [],
        finish := (saidByCandidate index c).finish.map finishWord } := by
  unfold NormalizedChoice.said candidateOf saidByCandidate
  dsimp only
  rw [truthy_getD, finish_of_reason]
  rfl

theorem partTexts_cons (thought : Bool) (p : Part T) (parts : List (Part T)) :
    partTexts thought (p :: parts) = (if p.thought = thought then p.text.getD "" else "") ++ partTexts thought parts := by
  unfold partTexts
  by_cases h : p.thought = thought
  · rw [List.filter_cons_of_pos (by simpa using h), if_pos h]
    cases htext : p.text <;> simp [htext]
  · rw [List.filter_cons_of_neg (by simpa using h), if_neg h, String.empty_append]

theorem texts_cons (p : Part T) (parts : List (Part T)) :
    concat ((p :: parts).filterMap Part.text) = p.text.getD "" ++ concat (parts.filterMap Part.text) := by
  cases htext : p.text <;> simp [htext]

theorem length_texts (parts : List (Part T)) :
    (concat (parts.filterMap Part.text)).length = (partTexts false parts).length + (partTexts true parts).length := by
  induction parts with
  | nil => rfl
  | cons p parts ih =>
    rw [texts_cons, partTexts_cons, partTexts_cons, String.length_append, String.length_append, String.length_append, ih]
    cases p.thought <;> simp <;> omega

theorem partTexts_true_iff (parts : List (Part T)) :
    partTexts true parts = "" ↔ ∀ p ∈ parts, p.thought = true → p.text.getD "" = "" := by
  induction parts with
  | nil => exact ⟨fun _ p hp => absurd hp List.not_mem_nil, fun _ => rfl⟩
  | cons p parts ih =>
    rw [partTexts_cons, String.append_eq_empty_iff, ih, List.forall_mem_cons]
    by_cases h : p.thought = true
    · simp [h]
    · simp [h]

theorem texts_of_no_thoughts {parts : List (Part T)} (h : ∀ p ∈ parts, p.thought = true → p.text.getD "" = "") :
    concat (parts.filterMap Part.text) = partTexts false parts := by
  induction parts with
  | nil => rfl
  | cons p parts ih =>
    obtain ⟨hp, hparts⟩ := List.forall_mem_cons.mp h
    rw [texts_cons, partTexts_cons, ih hparts]
    by_cases hthought : p.thought = true
    · rw [if_neg (by simp [hthought]), hp hthought]
    · rw [if_pos (by simpa using hthought)]

theorem within_candidate (index : ℕ) (c : Candidate T) : Within [saidByCandidate index c] [(candidateOf index c).said] := by
  rw [said_candidateOf]
  have hlength : (partTexts false c.parts).length ≤ (concat (c.parts.filterMap Part.text)).length := by
    rw [length_texts]
    exact Nat.le_add_right _ _
  exact within_singleton rfl hlength (Nat.zero_le _) (List.length_map finishWord).ge

theorem says_candidate {index : ℕ} {c : Candidate T}
    (h : ∀ p ∈ c.parts, p.functionCall = none ∧ (p.thought = true → p.text.getD "" = "")) :
    Says [saidByCandidate index c] [(candidateOf index c).said] := by
  rw [said_candidateOf]
  have hthoughts : ∀ p ∈ c.parts, p.thought = true → p.text.getD "" = "" := fun p hp => (h p hp).2
  have hcontent : concat (c.parts.filterMap Part.text) = (saidByCandidate index c).content := texts_of_no_thoughts hthoughts
  have hreasoning : (saidByCandidate index c).reasoning = "" := (partTexts_true_iff c.parts).mpr hthoughts
  have htools : (saidByCandidate index c).tools = [] := by
    unfold saidByCandidate
    rw [List.map_eq_nil_iff, List.filterMap_eq_nil_iff]
    exact fun p hp => (h p hp).1
  exact says_singleton rfl hcontent hreasoning.symm htools.symm rfl

theorem parts_of_balanced {index : ℕ} {c : Candidate T} (h : Balanced [saidByCandidate index c] [(candidateOf index c).said]) :
    ∀ p ∈ c.parts, p.functionCall = none ∧ (p.thought = true → p.text.getD "" = "") := by
  have hcontent := h.content index
  have htools := h.tools index
  rw [said_candidateOf] at hcontent htools
  rw [contentAt_singleton, contentAt_singleton, if_pos (by rfl), if_pos (by rfl)] at hcontent
  rw [toolsAt_singleton, toolsAt_singleton, if_pos (by rfl), if_pos (by rfl)] at htools
  have hlength := length_texts c.parts
  have hthoughts : (partTexts true c.parts).length = 0 := by
    dsimp only [saidByCandidate] at hcontent
    omega
  have hcalls : c.parts.filterMap Part.functionCall = [] := by
    have hzero : (c.parts.filterMap Part.functionCall).length = 0 := by
      rw [← List.length_map (f := ToolPiece.fragment)]
      exact htools.symm
    exact List.length_eq_zero_iff.mp hzero
  rw [String.length_eq_zero_iff, partTexts_true_iff] at hthoughts
  rw [List.filterMap_eq_nil_iff] at hcalls
  exact fun p hp => ⟨hcalls p hp, hthoughts p hp⟩

/-! ### Events -/

theorem Says.within {u e : List (Said T)} (h : Says u e) : Within u e where
  content i := by rw [h.content]
  tools i := by rw [h.tools]
  finish i := by rw [h.finish, List.length_map]

theorem says_same {s : Said T} (h : s.finish = []) : Says [s] [s] := by
  exact says_singleton rfl rfl rfl rfl (by rw [h, List.map_nil])

theorem says_nothing (i j : ℕ) : Says [({ index := i } : Said T)] [{ index := j }] := by
  refine ⟨fun k => ?_, fun k => ?_, fun k => ?_, fun k => ?_⟩
  · rw [contentAt_singleton, contentAt_singleton]
    split_ifs <;> rfl
  · rw [reasoningAt_singleton, reasoningAt_singleton]
    split_ifs <;> rfl
  · rw [toolsAt_singleton, toolsAt_singleton]
    split_ifs <;> rfl
  · rw [finishAt_singleton, finishAt_singleton]
    split_ifs <;> rfl

theorem says_none (i : ℕ) : Says [({ index := i } : Said T)] [] := by
  refine ⟨fun k => ?_, fun k => ?_, fun k => ?_, fun k => ?_⟩
  · rw [contentAt_singleton]
    split_ifs <;> rfl
  · rw [reasoningAt_singleton]
    split_ifs <;> rfl
  · rw [toolsAt_singleton]
    split_ifs <;> rfl
  · rw [finishAt_singleton]
    split_ifs <;> rfl

theorem said_delta (d : WireDelta) : (NormalizedChoice.mk 0 d.normalized none).said = d.said (T := T) := by
  cases d with
  | text t => exact congrArg (fun text => ({ index := 0, content := text } : Said T)) (truthy_getD (some t))
  | thinking t => exact congrArg (fun text => ({ index := 0, reasoning := text } : Said T)) (truthy_getD (some t))
  | signature t => rfl
  | inputJson t => rfl
  | other type => rfl

theorem said_block {b : WireBlock} (h : ∀ id name, b ≠ .toolUse id name) :
    (NormalizedChoice.mk 0 b.normalized none).said = b.said (T := T) := by
  cases b with
  | text t => exact congrArg (fun text => ({ index := 0, content := text } : Said T)) (truthy_getD (some t))
  | thinking t => exact congrArg (fun text => ({ index := 0, reasoning := text } : Said T)) (truthy_getD (some t))
  | toolUse id name => exact absurd rfl (h id name)
  | other type => rfl

theorem says_event {e : WireEvent} (hstop : e ≠ .messageStop)
    (htool : ∀ index id name, e ≠ .contentBlockStart index (.toolUse id name)) : Says [e.said] (saidBy (T := T) (eventOf e)) := by
  cases e with
  | messageStart => exact says_none 0
  | contentBlockStop index => exact says_none 0
  | ping => exact says_none 0
  | messageStop => exact absurd rfl hstop
  | messageDelta stopReason =>
    show Says [({ index := 0, finish := (truthy stopReason).toList } : Said T)]
      [{ index := 0, finish := (normalizeFinishReason stopReason).toList }]
    exact says_singleton rfl rfl rfl rfl (finish_of_reason stopReason)
  | contentBlockStart index block =>
    have hsaid := said_block (T := T) (b := block) fun id name hb => htool index id name (congrArg _ hb)
    have hevent : eventOf (.contentBlockStart index block) =
        if block.normalized = {} then [] else [⟨0, block.normalized, none⟩] := rfl
    have hfinish : (block.said (T := T)).finish = [] := by cases block <;> rfl
    rw [hevent]
    by_cases hempty : block.normalized = {}
    · rw [hempty] at hsaid
      rw [if_pos hempty]
      show Says [block.said] []
      rw [← hsaid]
      exact says_none 0
    · rw [if_neg hempty]
      show Says [block.said] [(NormalizedChoice.mk 0 block.normalized none).said]
      rw [hsaid]
      exact says_same hfinish
  | contentBlockDelta index delta =>
    have hsaid := said_delta (T := T) delta
    have hfinish : (delta.said (T := T)).finish = [] := by cases delta <;> rfl
    have hevent : eventOf (.contentBlockDelta index delta) =
        if delta.normalized = {} then [⟨index, {}, none⟩] else [⟨0, delta.normalized, none⟩] := rfl
    rw [hevent]
    by_cases hempty : delta.normalized = {}
    · rw [hempty] at hsaid
      rw [if_pos hempty]
      show Says [delta.said] [(NormalizedChoice.mk index {} none).said]
      rw [← hsaid]
      exact says_nothing 0 index
    · rw [if_neg hempty]
      show Says [delta.said] [(NormalizedChoice.mk 0 delta.normalized none).said]
      rw [hsaid]
      exact says_same hfinish

theorem within_event (e : WireEvent) : Within [e.said] (saidBy (T := T) (eventOf e)) := by
  by_cases hstop : e = .messageStop
  · subst hstop
    exact within_singleton rfl le_rfl le_rfl (Nat.zero_le _)
  by_cases htool : ∃ index id name, e = .contentBlockStart index (.toolUse id name)
  · obtain ⟨index, id, name, rfl⟩ := htool
    exact ⟨fun i => by rw [contentAt_singleton]; split_ifs <;> exact le_rfl, fun i => Nat.zero_le _,
      fun i => by rw [finishAt_singleton]; split_ifs <;> exact le_rfl⟩
  exact (says_event hstop fun index id name he => htool ⟨index, id, name, he⟩).within

theorem kept_of_balanced_event {e : WireEvent} (h : Balanced [e.said] (saidBy (T := T) (eventOf e)))
    (hfinish : ∀ i, ∀ r ∈ finishAt i [e.said (T := T)], FinishKept r) : (WireChunk.event (T := T) e).Kept := by
  cases e with
  | messageStart | contentBlockStop | ping | contentBlockDelta => trivial
  | messageStop => exact absurd (show 0 = 1 from h.finish 0) Nat.zero_ne_one
  | messageDelta stopReason =>
    refine (finishKept_iff stopReason).mp fun r hr => hfinish 0 r ?_
    rw [finishAt_singleton]
    exact hr
  | contentBlockStart index block =>
    cases block with
    | toolUse id name => exact absurd (show 0 = 1 from h.tools 0) Nat.zero_ne_one
    | text | thinking | other => trivial

/-! ### Chunks -/

theorem said_choices (cs : List (WireChoice T)) : cs.map WireChoice.said = cs.flatMap fun c => [c.said] :=
  List.map_eq_flatMap

theorem saidBy_choices (cs : List (WireChoice T)) :
    saidBy (T := T) (cs.map choiceOf) = cs.flatMap fun c => [(choiceOf c).said] := by
  unfold saidBy
  rw [List.map_map, List.map_eq_flatMap]
  rfl

theorem said_candidates (cs : List (Candidate T)) :
    cs.mapIdx saidByCandidate = cs.zipIdx.flatMap fun p => [saidByCandidate p.2 p.1] := by
  rw [List.mapIdx_eq_zipIdx_map, List.map_eq_flatMap]

theorem saidBy_candidates (cs : List (Candidate T)) :
    saidBy (T := T) (cs.mapIdx candidateOf) = cs.zipIdx.flatMap fun p => [(candidateOf p.2 p.1).said] := by
  unfold saidBy
  rw [List.mapIdx_eq_zipIdx_map, List.map_map, List.map_eq_flatMap]
  rfl

theorem within_chunk (c : WireChunk T) : Within c.said (saidBy (emittedOf c)) := by
  cases c with
  | choices id created model cs =>
    show Within (cs.map WireChoice.said) (saidBy (cs.map choiceOf))
    rw [said_choices, saidBy_choices]
    exact Within.flatMap fun c _ => within_choice c
  | candidates cs =>
    show Within (cs.mapIdx saidByCandidate) (saidBy (cs.mapIdx candidateOf))
    rw [said_candidates, saidBy_candidates]
    exact Within.flatMap fun p _ => within_candidate p.2 p.1
  | event e => exact within_event e

variable {c : WireChunk T}

theorem says_chunk (h : c.Kept) : Says c.said (saidBy (emittedOf c)) := by
  cases c with
  | choices id created model cs =>
    show Says (cs.map WireChoice.said) (saidBy (cs.map choiceOf))
    rw [said_choices, saidBy_choices]
    exact Says.flatMap fun c hc => says_choice (h c hc).1
  | candidates cs =>
    show Says (cs.mapIdx saidByCandidate) (saidBy (cs.mapIdx candidateOf))
    rw [said_candidates, saidBy_candidates]
    exact Says.flatMap fun p hp => says_candidate (h p.1 (List.fst_mem_of_mem_zipIdx hp)).1
  | event e =>
    refine says_event (fun he => ?_) fun index id name he => ?_
    · subst he
      exact h
    · subst he
      exact h

theorem mem_finishAt {i : ℕ} {s : Said T} {l : List (Said T)} {r : String} (hs : s ∈ l) (hi : s.index = i) (hr : r ∈ s.finish) :
    r ∈ finishAt i l :=
  List.mem_flatMap.mpr ⟨s, List.mem_filter.mpr ⟨hs, by simpa using hi⟩, hr⟩

theorem kept_of_balanced (h : Balanced c.said (saidBy (emittedOf c)))
    (hfinish : ∀ i, ∀ r ∈ finishAt i c.said, FinishKept r) : c.Kept := by
  cases c with
  | choices id created model cs =>
    have hb : Balanced (cs.map WireChoice.said) (saidBy (cs.map choiceOf)) := h
    rw [said_choices, saidBy_choices] at hb
    have hpieces := Balanced.of_flatMap (fun c _ => within_choice c) hb
    intro c hc
    refine ⟨toolCalls_of_balanced (hpieces c hc), (finishKept_iff c.finishReason).mp fun r hr => ?_⟩
    exact hfinish c.index r (mem_finishAt (List.mem_map_of_mem hc) rfl hr)
  | candidates cs =>
    have hb : Balanced (cs.mapIdx saidByCandidate) (saidBy (cs.mapIdx candidateOf)) := h
    rw [said_candidates, saidBy_candidates] at hb
    have hpieces := Balanced.of_flatMap (fun p _ => within_candidate p.2 p.1) hb
    intro c hc
    obtain ⟨n, hn, rfl⟩ := List.getElem_of_mem hc
    have hp : (cs[n], n) ∈ cs.zipIdx := List.mk_mem_zipIdx_iff_getElem?.mpr (List.getElem?_eq_getElem hn)
    refine ⟨parts_of_balanced (hpieces _ hp), (finishKept_iff cs[n].finishReason).mp fun r hr => ?_⟩
    have hsaid : saidByCandidate n cs[n] ∈ cs.mapIdx saidByCandidate := List.mem_mapIdx.mpr ⟨n, hn, rfl⟩
    exact hfinish n r (mem_finishAt hsaid rfl hr)
  | event e => exact kept_of_balanced_event h hfinish

/-- All but `message_stop` keep the reasons they give, in the words for them. -/
theorem finish_chunk (h : c ≠ .event .messageStop) (i : ℕ) :
    finishAt i (saidBy (T := T) (emittedOf c)) = (finishAt i c.said).map finishWord := by
  have hmap (a b : List (Said T)) :
      (finishAt i (a ++ b)).map finishWord = (finishAt i a).map finishWord ++ (finishAt i b).map finishWord := by
    rw [finishAt_append, List.map_append]
  cases c with
  | choices id created model cs =>
    show finishAt i (saidBy (cs.map choiceOf)) = (finishAt i (cs.map WireChoice.said)).map finishWord
    rw [said_choices, saidBy_choices]
    refine flatMap_agree (G := fun said => (finishAt i said).map finishWord) (finishAt_append i) hmap rfl fun c _ => ?_
    rw [said_choiceOf, finishAt_singleton, finishAt_singleton]
    split_ifs <;> rfl
  | candidates cs =>
    show finishAt i (saidBy (cs.mapIdx candidateOf)) = (finishAt i (cs.mapIdx saidByCandidate)).map finishWord
    rw [said_candidates, saidBy_candidates]
    refine flatMap_agree (G := fun said => (finishAt i said).map finishWord) (finishAt_append i) hmap rfl fun p _ => ?_
    rw [said_candidateOf, finishAt_singleton, finishAt_singleton]
    split_ifs <;> rfl
  | event e =>
    by_cases htool : ∃ index id name, e = .contentBlockStart index (.toolUse id name)
    · obtain ⟨index, id, name, rfl⟩ := htool
      show [] = (finishAt i [({ index := 0, tools := [.start id name] } : Said T)]).map finishWord
      rw [finishAt_singleton]
      split_ifs <;> rfl
    · exact (says_event (fun he => h (congrArg _ he)) fun index id name he => htool ⟨index, id, name, he⟩).finish i

theorem finishKept_of_kept (h : c.Kept) {i : ℕ} {r : String} (hr : r ∈ finishAt i c.said) : FinishKept r := by
  obtain ⟨s, hs, hr⟩ := List.mem_flatMap.mp hr
  have hs : s ∈ c.said := List.mem_of_mem_filter hs
  cases c with
  | choices id created model cs =>
    obtain ⟨c, hc, rfl⟩ := List.mem_map.mp hs
    exact (finishKept_iff c.finishReason).mpr (h c hc).2 r hr
  | candidates cs =>
    obtain ⟨n, hn, rfl⟩ := List.mem_mapIdx.mp hs
    exact (finishKept_iff cs[n].finishReason).mpr (h _ (List.getElem_mem hn)).2 r hr
  | event e =>
    obtain rfl := List.mem_singleton.mp hs
    cases e with
    | messageDelta stopReason => exact (finishKept_iff stopReason).mpr h r hr
    | messageStart | contentBlockStop | ping | messageStop => exact absurd hr List.not_mem_nil
    | contentBlockStart index block => cases block <;> exact absurd hr List.not_mem_nil
    | contentBlockDelta index delta => cases delta <;> exact absurd hr List.not_mem_nil

/-! ## Streams -/

/-- `StreamNormalizer(provider, model)`, whose id and time are those of its making. -/
def StreamNormalizer.new (provider model id : String) (created : ℕ) : StreamNormalizer :=
  { provider := provider, model := model, id := id, created := created }

theorem accumulatedContent_tookAll (s : StreamNormalizer) (l : List NormalizedChoice) :
    (s.tookAll l).accumulatedContent = s.accumulatedContent ++ concat (l.map fun c => c.delta.content.getD "") := by
  induction l generalizing s with
  | nil => exact String.append_empty.symm
  | cons c l ih =>
    have hfold : s.tookAll (c :: l) = (s.took c.delta).tookAll l := rfl
    have htook : (s.took c.delta).accumulatedContent = s.accumulatedContent ++ c.delta.content.getD "" := rfl
    rw [hfold, ih, htook, List.map_cons, concat_cons, String.append_assoc]

theorem accumulatedReasoning_tookAll (s : StreamNormalizer) (l : List NormalizedChoice) :
    (s.tookAll l).accumulatedReasoning = s.accumulatedReasoning ++ concat (l.map fun c => c.delta.reasoningContent.getD "") := by
  induction l generalizing s with
  | nil => exact String.append_empty.symm
  | cons c l ih =>
    have hfold : s.tookAll (c :: l) = (s.took c.delta).tookAll l := rfl
    have htook : (s.took c.delta).accumulatedReasoning = s.accumulatedReasoning ++ c.delta.reasoningContent.getD "" := rfl
    rw [hfold, ih, htook, List.map_cons, concat_cons, String.append_assoc]

/-- Nothing is lost: what is emitted, `out`, says to every choice what the chunks did; each is told at most once that it is over, for
the reason that upstream gave; and what has been added up is the text that was emitted. -/
structure Lossless (chunks : List (WireChunk T)) (out : List NormalizedChunk) (s : StreamNormalizer) : Prop where
  content : ∀ i, contentAt i (saidBy (T := T) (emittedChoices out)) = contentAt i (chunks.flatMap WireChunk.said)
  reasoning : ∀ i, reasoningAt i (saidBy (T := T) (emittedChoices out)) = reasoningAt i (chunks.flatMap WireChunk.said)
  tools : ∀ i, toolsAt i (saidBy (emittedChoices out)) = toolsAt i (chunks.flatMap WireChunk.said)
  once : ∀ i, (finishAt i (saidBy (T := T) (emittedChoices out))).length ≤ 1
  finish : ∀ i, List.Forall₂ Corresponds (finishAt i (chunks.flatMap WireChunk.said))
    (finishAt i (saidBy (T := T) (emittedChoices out)))
  accumulatedContent : s.accumulatedContent = concat ((emittedChoices out).map fun c => c.delta.content.getD "")
  accumulatedReasoning : s.accumulatedReasoning = concat ((emittedChoices out).map fun c => c.delta.reasoningContent.getD "")

theorem saidBy_flatMap (chunks : List (WireChunk T)) :
    saidBy (T := T) (chunks.flatMap emittedOf) = chunks.flatMap fun c => saidBy (emittedOf c) := by
  unfold saidBy
  rw [List.map_flatMap]

theorem finishAt_flatMap {chunks : List (WireChunk T)} {i : ℕ} {r : String} :
    r ∈ finishAt i (chunks.flatMap WireChunk.said) ↔ ∃ c ∈ chunks, r ∈ finishAt i c.said := by
  unfold finishAt
  simp only [List.mem_flatMap, List.mem_filter]
  constructor
  · rintro ⟨s, ⟨⟨c, hc, hs⟩, hi⟩, hr⟩
    exact ⟨c, hc, s, ⟨hs, hi⟩, hr⟩
  · rintro ⟨c, hc, s, ⟨hs, hi⟩, hr⟩
    exact ⟨s, ⟨⟨c, hc, hs⟩, hi⟩, hr⟩

theorem finish_flatMap {chunks : List (WireChunk T)} (h : ∀ c ∈ chunks, c ≠ .event .messageStop) (i : ℕ) :
    finishAt i (chunks.flatMap fun c => saidBy (T := T) (emittedOf c)) = (finishAt i (chunks.flatMap WireChunk.said)).map finishWord := by
  have hmap (a b : List (Said T)) :
      (finishAt i (a ++ b)).map finishWord = (finishAt i a).map finishWord ++ (finishAt i b).map finishWord := by
    rw [finishAt_append, List.map_append]
  exact flatMap_agree (G := fun said => (finishAt i said).map finishWord) (finishAt_append i) hmap rfl fun c hc => finish_chunk (h c hc) i

/-- **Which streams lose nothing**: those whose chunks are all kept whole, and whose choices are over at most once upstream. -/
theorem stream_lossless_iff (provider model id : String) (created : ℕ) (chunks : List (WireChunk T)) :
    Lossless chunks
        (StreamNormalizer.normalizeStream (chunks.map WireChunk.encode) (.new provider model id created)).1
        (StreamNormalizer.normalizeStream (chunks.map WireChunk.encode) (.new provider model id created)).2 ↔
      (∀ c ∈ chunks, c.Kept) ∧ ∀ i, (finishAt i (chunks.flatMap WireChunk.said)).length ≤ 1 := by
  obtain ⟨hout, hstate⟩ := normalizeStream_encode (.new provider model id created) chunks
  have hsaid : saidBy (T := T) (chunks.flatMap emittedOf) = chunks.flatMap fun c => saidBy (emittedOf c) := saidBy_flatMap chunks
  constructor
  · intro h
    have hcontent := h.content
    have htools := h.tools
    have hfinish := h.finish
    have honce := h.once
    rw [hout, hsaid] at hcontent htools hfinish honce
    have hbalanced : Balanced (chunks.flatMap WireChunk.said) (chunks.flatMap fun c => saidBy (emittedOf c)) :=
      ⟨fun i => by rw [hcontent], fun i => by rw [htools], fun i => (hfinish i).length_eq⟩
    have hpieces := Balanced.of_flatMap (fun c _ => within_chunk c) hbalanced
    have hstop : ∀ c ∈ chunks, c ≠ .event .messageStop := by
      rintro c hc rfl
      exact absurd (show 0 = 1 from (hpieces _ hc).finish 0) Nat.zero_ne_one
    constructor
    · intro c hc
      refine kept_of_balanced (hpieces c hc) fun i r hr => ?_
      have hall := hfinish i
      rw [finish_flatMap hstop, List.forall₂_map_right_iff, List.forall₂_same] at hall
      exact (corresponds_finishWord r).mp (hall r (finishAt_flatMap.mpr ⟨c, hc, hr⟩))
    · intro i
      rw [(hfinish i).length_eq]
      exact honce i
  · rintro ⟨hkept, honce⟩
    have hsame : Says (chunks.flatMap WireChunk.said) (chunks.flatMap fun c => saidBy (emittedOf c)) :=
      Says.flatMap fun c hc => says_chunk (hkept c hc)
    rw [← hsaid, ← hout] at hsame
    refine ⟨hsame.content, hsame.reasoning, hsame.tools, fun i => ?_, fun i => ?_, ?_, ?_⟩
    · rw [hsame.finish, List.length_map]
      exact honce i
    · rw [hsame.finish, List.forall₂_map_right_iff, List.forall₂_same]
      intro r hr
      obtain ⟨c, hc, hr⟩ := finishAt_flatMap.mp hr
      exact (corresponds_finishWord r).mpr (finishKept_of_kept (hkept c hc) hr)
    · rw [hstate, hout, accumulatedContent_tookAll]
      exact String.empty_append
    · rw [hstate, hout, accumulatedReasoning_tookAll]
      exact String.empty_append

end Kept

/-- A fragment of a tool call is not emitted; and a message cut off at its length is over twice, the second time as if it were whole. -/
theorem tool_call_lost_and_stopped_twice :
    ¬ Lossless (T := String) [.choices "chatcmpl-1" 1700000000 "gpt-4o" [{ index := 0, toolCalls := ["get_weather"] }]]
        (StreamNormalizer.normalizeStream
          [(WireChunk.choices "chatcmpl-1" 1700000000 "gpt-4o" [{ index := 0, toolCalls := ["get_weather"] }]).encode]
          (.new "openrouter" "gpt-4o" "chatcmpl-1" 1700000000)).1
        (StreamNormalizer.normalizeStream
          [(WireChunk.choices "chatcmpl-1" 1700000000 "gpt-4o" [{ index := 0, toolCalls := ["get_weather"] }]).encode]
          (.new "openrouter" "gpt-4o" "chatcmpl-1" 1700000000)).2 ∧
      finishAt 0 (saidBy (T := String) (emittedChoices (StreamNormalizer.normalizeStream
        ([.event (.messageDelta (some "max_tokens")), .event .messageStop].map (WireChunk.encode (T := String)))
        (.new "anthropic" "claude-sonnet-4" "chatcmpl-1" 1700000000)).1)) = ["length", "stop"] := by
  constructor
  · intro h
    have htools := h.tools 0
    revert htools
    decide +kernel
  · decide +kernel

end Gatewayz.Normalizer
