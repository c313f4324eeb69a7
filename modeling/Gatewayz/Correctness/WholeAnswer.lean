import Gatewayz.Chat.Answer
import Gatewayz.Correctness.StreamFailover
import Mathlib.Data.List.Nodup

/-!
# `Correctness.WholeAnswer` — the gateway returns the provider's whole answer

A provider's answer has choices by index, each with content, reasoning, tool calls and a finish reason, and it reports usage.
What the client gets has passed through the handler's schema, which has room for one choice without reasoning, and is numbered
anew. So the answer comes through exactly if it is one choice with index 0 and without reasoning, and if its usage is where the
handler looks for it: in a response not all zero, in a stream on a chunk that has a choice.
-/

namespace Gatewayz

open Exec

/-! ## Choices by index -/

/-- A choice as a client has it in the end; tool calls are the values that came, in order. -/
structure GivenChoice where
  content : String
  reasoning : String
  toolCalls : List String
  finishReason : Option String

def AnswerChoice.given (c : AnswerChoice) : Nat × GivenChoice :=
  (c.index, ⟨c.content.getD "", c.reasoning.getD "", c.toolCalls.toList, c.finishReason⟩)

def OpenAiChoice.given (c : OpenAiChoice) : Nat × GivenChoice :=
  (c.index, ⟨c.content, "", c.toolCalls.toList, some c.finishReason⟩)

def OpenAiDelta.asChoice (d : OpenAiDelta) : DeltaChoice :=
  { index := d.index, role := d.role, content := d.content, toolCalls := d.toolCalls, finishReason := d.finishReason }

/-- The deltas with index `i`. -/
def withIndex (ds : List DeltaChoice) (i : Nat) : List DeltaChoice := ds.filter (·.index = i)

def assembled (ds : List DeltaChoice) : GivenChoice where
  content := concat (ds.map fun d => d.content.getD "")
  reasoning := concat (ds.map fun d => d.reasoning.getD "")
  toolCalls := ds.filterMap DeltaChoice.toolCalls
  finishReason := (ds.filterMap DeltaChoice.finishReason).getLast?

/-- The choice with index `i`, if there is one. -/
def assembledChoice (ds : List DeltaChoice) (i : Nat) : Option GivenChoice :=
  if (withIndex ds i).isEmpty then none else some (assembled (withIndex ds i))

def OpenAiUsage.counts (u : OpenAiUsage) : TokenCounts :=
  ⟨u.promptTokens, u.completionTokens, u.cacheReadInputTokens.getD 0, u.cacheCreationInputTokens.getD 0⟩

def UsageKept (reported : Option ProviderUsage) (shown : Option OpenAiUsage) : Prop :=
  ∀ u, reported = some u → shown.map OpenAiUsage.counts = some (ProviderUsage.counts (some u))

/-! ## The promise -/

inductive ProviderAnswer where
  | whole (a : WholeAnswer)
  | stream (chunks : List AnswerChunk)

inductive ClientGot where
  | response (r : OpenAiResponse)
  | events (sent : List SseEvent)

def SseEvent.openAi? : SseEvent → Option OpenAiChunk
  | .chunk c => some (fromInternalChunk c)
  | _ => none

def sentDeltas (sent : List SseEvent) : List DeltaChoice :=
  (sent.filterMap SseEvent.openAi?).flatMap fun c => c.choices.map OpenAiDelta.asChoice

def sentUsage (sent : List SseEvent) : Option OpenAiUsage :=
  ((sent.filterMap SseEvent.openAi?).filterMap OpenAiChunk.usage).getLast?

def lastReported (chunks : List AnswerChunk) : Option ProviderUsage := (chunks.filterMap AnswerChunk.usage).getLast?

/-- The whole answer has come through: the same choices by index, and the usage. -/
def AnswerKept : ProviderAnswer → ClientGot → Prop
  | .whole a, .response r => a.choices.map AnswerChoice.given = r.choices.map OpenAiChoice.given ∧ UsageKept a.usage (some r.usage)
  | .stream chunks, .events sent =>
    (∀ i, assembledChoice (chunks.flatMap AnswerChunk.choices) i = assembledChoice (sentDeltas sent) i) ∧
    UsageKept (lastReported chunks) (sentUsage sent)
  | _, _ => False

def TokenCounts.counted (t : TokenCounts) : List TokenCounts := if 0 < t.prompt ∨ 0 < t.completion then [t] else []

def AnswerChunk.passedUsage (c : AnswerChunk) : List TokenCounts :=
  if c.choices = [] then [] else (c.usage.map fun u => (ProviderUsage.counts (some u)).counted).getD []

def passedUsages (chunks : List AnswerChunk) : List TokenCounts := chunks.flatMap AnswerChunk.passedUsage

/-- The condition: one choice, numbered 0, without reasoning, and the usage where the handler looks for it. -/
def OneChoicePlain : ProviderAnswer → Prop
  | .whole a =>
    (∃ c, a.choices = [c] ∧ c.index = 0 ∧ c.reasoning.getD "" = "" ∧ ∃ reason, c.finishReason = some reason ∧ reason ≠ "") ∧
    (∀ u, a.usage = some u → 0 < u.promptTokens ∨ 0 < u.completionTokens)
  | .stream chunks =>
    (∀ c ∈ chunks, ∀ d ∈ c.choices, d.index = 0 ∧ d.reasoning.getD "" = "") ∧
    (∀ u, lastReported chunks = some u → (passedUsages chunks).getLast? = some (ProviderUsage.counts (some u)))

/-! ## In one piece: the runs -/

/-- Every provider that answers sends `seen`. -/
def AnswersWith (seen : ProviderResponse) : (s : ChatStmt) → ChatRes s → Prop
  | .callProvider _ _ _, response => response = seen
  | _, _ => True

def answersWith (env : ChatEnv) (seen : ProviderResponse) (_ : Unit) (s : ChatStmt) (o : Outcome ChatErr) (w : ChatWorld) :
    Prop :=
  match (answer (chatExec env) s o w).1 with
  | .ok a => AnswersWith seen s a
  | .error _ => True

abbrev answeredRuns (env : ChatEnv) (seen : ProviderResponse) : Setting ChatErr ChatStmt ChatRes Unit ChatWorld :=
  chatRuns env (fun _ _ _ _ _ => ()) (answersWith env seen)

/-- What the handler makes of a response: the fields of its message, and its usage or an estimate. -/
structure Reflects (seen : ProviderResponse) (r : InternalChatResponse) : Prop where
  message : ∃ m, ChatHandler.messageOf seen = .ok m ∧ r.content = m.content.getD "" ∧ r.finishReason = m.finishReason ∧
    r.toolCalls = m.toolCalls
  usage : ∃ promptChars completionChars, r.usage.counts = (ProviderUsage.counts seen.usage).orEstimated promptChars completionChars

variable (model : String)

section Whole

variable {env : ChatEnv} {seen : ProviderResponse} {w : ChatWorld}

theorem wp_callProvider_seen (provider modelId : String) (maxTokens : Option Nat) :
    (callProvider provider modelId maxTokens).wp (answeredRuns env seen) .alone (fun a _ _ => a.1 = seen)
      (fun _ _ _ => True) () w := by
  unfold callProvider
  refine wp_then _ fun byok _ w => ?_
  rw [wp_exceptException, wp_bind]
  refine wp_alone_stmt (C := answeredRuns env seen) fun o ho => ?_
  change answersWith env seen () _ o w at ho
  unfold answersWith at ho
  revert ho
  dsimp only
  cases (answer (chatExec env) (.callProvider provider modelId maxTokens) o w).1 with
  | ok response => exact fun h => h
  | error e =>
    intro _
    cases e <;> trivial

theorem wp_tryProviders_seen (maxTokens : Option Nat) (lastError : String) (ps : List ProviderConfig) :
    (tryProviders (fun p => callProvider p.name p.modelId maxTokens) lastError ps).wp (answeredRuns env seen) .alone
      (fun result _ _ => ∀ a p, result = .ok (a, p) → a.1 = seen) (fun _ _ _ => True) () w := by
  induction ps generalizing lastError w with
  | nil =>
    intro a p h
    cases h
  | cons p ps ih =>
    rw [tryProviders, wp_exceptException, wp_bind]
    refine wp_mono (fun a _ w ha => ?_) (fun e _ w _ => ?_) (wp_callProvider_seen p.name p.modelId maxTokens)
    · intro a' p' h
      injection h with h
      injection h with h
      rw [← h]
      exact ha
    · cases e with
      | exception e => exact ih e.text
      | cancelled => trivial
      | generatorExit => trivial

theorem wp_executeWithFailover_seen (enabled : List ProviderConfig) (maxTokens : Option Nat) :
    (executeWithFailover model enabled fun p => callProvider p.name p.modelId maxTokens).wp (answeredRuns env seen) .alone
      (fun result _ _ => ∀ a p, result = .ok (a, p) → a.1 = seen) (fun _ _ _ => True) () w := by
  unfold executeWithFailover
  cases enabled.head? with
  | none =>
    intro a p h
    cases h
  | some primary =>
    refine wp_then _ fun available _ w => ?_
    cases available with
    | nil =>
      intro a p h
      cases h
    | cons p ps => exact wp_tryProviders_seen maxTokens "None" (p :: ps)

variable (h : ChatHandler)

theorem wp_upstream_seen (user : ChatUser) (r : InternalChatRequest) (maxTokens : Option Nat) :
    (h.upstream user r maxTokens).wp (answeredRuns env seen) .alone (fun s _ _ => s.response = seen) (fun _ _ _ => True)
      () w := by
  unfold ChatHandler.upstream
  refine wp_then _ fun registered _ w => ?_
  cases registered with
  | some enabled =>
    refine wp_seq (wp_executeWithFailover_seen r.model enabled maxTokens) fun result _ w hresult => ?_
    rcases result with text | ⟨⟨response, byok⟩, p⟩
    · exact wp_then _ fun _ _ w => trivial
    · exact hresult _ _ rfl
  | none =>
    refine wp_then _ fun provider _ w => wp_then _ fun modelId _ w => ?_
    refine wp_seq (wp_callProvider_seen provider modelId maxTokens) fun a _ w ha => ?_
    exact ha

theorem wp_settle_seen (user : ChatUser) (r : InternalChatRequest) {s : Served} (hs : s.response = seen) :
    (h.settle user r s).wp (answeredRuns env seen) .alone (fun resp _ _ => Reflects seen resp) (fun _ _ _ => True) () w := by
  subst hs
  unfold ChatHandler.settle
  cases hm : ChatHandler.messageOf s.response with
  | error e => trivial
  | ok m =>
    refine wp_then _ fun cost _ w => wp_then _ fun _ _ w => wp_then _ fun _ _ w => wp_then _ fun _ _ w => ?_
    exact ⟨⟨m, hm, rfl, rfl, rfl⟩, r.messages.chars, (m.content.getD "").length, rfl⟩

theorem wp_process_seen (r : InternalChatRequest) :
    (h.process r).wp (answeredRuns env seen) .alone (fun resp _ _ => Reflects seen resp) (fun _ _ _ => True) () w := by
  unfold ChatHandler.process
  refine wp_then _ fun user _ w => wp_orSaveFailed_any h (some user) r.model "unknown" noTokens ?_
  refine wp_then _ fun maxTokens _ w => ?_
  exact wp_seq (wp_upstream_seen h user r maxTokens) fun s _ w hs => wp_settle_seen h user r hs

theorem wp_nonStreamingAttempts_seen (d : DispatchParams) (chain : List String) :
    (nonStreamingAttempts d chain).wp (answeredRuns env seen) .alone (fun resp _ _ => Reflects seen resp)
      (fun _ _ _ => True) () w := by
  induction chain generalizing w with
  | nil => trivial
  | cons provider rest ih =>
    rw [nonStreamingAttempts, wp_exceptException]
    have hattempt : (nonStreamingAttempt d provider).wp (answeredRuns env seen) .alone
        (fun resp _ _ => Reflects seen resp) (fun _ _ _ => True) () w := by
      unfold nonStreamingAttempt
      refine wp_then _ fun r _ w => wp_then _ fun h _ w => ?_
      refine wp_seq (wp_process_seen h r) fun resp _ w hr => ?_
      exact wp_then _ fun _ _ w => wp_then _ fun _ _ w => wp_then _ fun _ _ w => hr
    refine wp_mono (fun _ _ _ h => h) (fun e _ w _ => ?_) hattempt
    cases e with
    | exception e =>
      refine wp_then _ fun _ _ w => ?_
      dsimp only
      split
      · exact ih
      · trivial
    | cancelled => trivial
    | generatorExit => trivial

theorem wp_dispatchNonStreaming_seen (d : DispatchParams) (chain : List String) :
    (dispatchNonStreaming d chain).wp (answeredRuns env seen) .alone (fun resp _ _ => Reflects seen resp)
      (fun _ _ _ => True) () w := by
  unfold dispatchNonStreaming
  split
  · trivial
  · exact wp_nonStreamingAttempts_seen d chain

end Whole

theorem counts_openAiUsage (u : InternalUsage) : (openAiUsage u).counts = u.counts := by
  obtain ⟨⟨prompt, completion, cacheRead, cacheWrite⟩⟩ := u
  by_cases h : cacheRead = 0 ∧ cacheWrite = 0
  · obtain ⟨rfl, rfl⟩ := h
    simp [openAiUsage, OpenAiUsage.counts]
  · simp [openAiUsage, OpenAiUsage.counts, h]

theorem orEstimated_eq_iff (t : TokenCounts) (promptChars completionChars : Nat) :
    t.orEstimated promptChars completionChars = t ↔ 0 < t.prompt ∨ 0 < t.completion := by
  obtain ⟨prompt, completion, cacheRead, cacheWrite⟩ := t
  unfold TokenCounts.orEstimated
  split
  next h =>
    obtain ⟨rfl, rfl⟩ : prompt = 0 ∧ completion = 0 := h
    simp only [TokenCounts.mk.injEq, and_true, lt_irrefl, or_self, iff_false, not_and]
    omega
  next h =>
    have h : ¬ (prompt = 0 ∧ completion = 0) := h
    simp only [true_iff]
    omega

theorem textOr_eq_iff (text : Option String) : text = some (textOr text "stop") ↔ ∃ t, text = some t ∧ t ≠ "" := by
  cases text with
  | none => simp
  | some t =>
    by_cases ht : t = ""
    · subst ht
      simp [textOr, Option.filter_some]
    · simp [textOr, Option.filter_some, ht]

/-- A response in one piece comes through whole exactly under the condition. -/
theorem whole_kept_iff {a : WholeAnswer} {r : InternalChatResponse} (h : Reflects a.seen r) :
    AnswerKept (.whole a) (.response (fromInternalResponse r)) ↔ OneChoicePlain (.whole a) := by
  obtain ⟨⟨m, hm, hcontent, hfinish, htools⟩, promptChars, completionChars, husage⟩ := h
  obtain ⟨choices, usage⟩ := a
  cases choices with
  | nil => cases hm
  | cons c rest =>
    have hm : m = ⟨c.content, c.finishReason, c.toolCalls⟩ := by
      injection hm with hm
      exact hm.symm
    subst hm
    have hchoices : (c :: rest).map AnswerChoice.given = (fromInternalResponse r).choices.map OpenAiChoice.given ↔
        ∃ c', c :: rest = [c'] ∧ c'.index = 0 ∧ c'.reasoning.getD "" = "" ∧
          ∃ reason, c'.finishReason = some reason ∧ reason ≠ "" := by
      cases rest with
      | nil =>
        simp [fromInternalResponse, AnswerChoice.given, OpenAiChoice.given, hcontent, hfinish, htools, textOr_eq_iff]
      | cons d rest => simp [fromInternalResponse]
    have hcounts : UsageKept usage (some (fromInternalResponse r).usage) ↔
        ∀ u, usage = some u → 0 < u.promptTokens ∨ 0 < u.completionTokens := by
      unfold UsageKept
      refine forall_congr' fun u => forall_congr' fun hu => ?_
      subst hu
      have hshown : (fromInternalResponse r).usage.counts =
          (ProviderUsage.counts (some u)).orEstimated promptChars completionChars :=
        (counts_openAiUsage r.usage).trans husage
      rw [Option.map_some, hshown, Option.some.injEq, orEstimated_eq_iff]
      rfl
    exact and_congr hchoices hcounts

/-! ## A stream: the choices -/

def DeltaChoice.plain (d : DeltaChoice) : DeltaChoice :=
  { d with index := 0, role := d.role.filter (· ≠ ""), reasoning := none }

def AnswerChunk.heard (c : AnswerChunk) : List DeltaChoice := (c.choices.head?.map DeltaChoice.plain).toList

theorem deltas_passedOn (chunks : List AnswerChunk) (st : ChatHandler.StreamState) :
    (passedOn model st (chunks.map AnswerChunk.seen)).flatMap (fun c => (fromInternalChunk c).choices.map OpenAiDelta.asChoice) =
      chunks.flatMap AnswerChunk.heard := by
  induction chunks generalizing st with
  | nil => rfl
  | cons c chunks ih =>
    obtain ⟨choices, distinct, usage⟩ := c
    cases choices with
    | nil => exact ih st
    | cons d rest =>
      rw [List.map_cons, List.flatMap_cons]
      simp only [passedOn, ChatHandler.normalized, AnswerChunk.seen, List.head?_cons, Option.map_some, Option.isSome_some,
        true_or, if_true, List.flatMap_cons]
      exact congrArg₂ _ rfl (ih _)

theorem sentDeltas_of_bare {sent : List SseEvent} {chunks : List InternalStreamChunk}
    (h : sent.map SseEvent.bare = chunks.map .chunk ++ [.done]) :
    sentDeltas sent = chunks.flatMap (fun c => (fromInternalChunk c).choices.map OpenAiDelta.asChoice) ∧
      sentUsage sent = (chunks.filterMap fun c => (fromInternalChunk c).usage).getLast? := by
  have hbare : ∀ es : List SseEvent, sentDeltas (es.map SseEvent.bare) = sentDeltas es ∧
      sentUsage (es.map SseEvent.bare) = sentUsage es := by
    intro es
    have hevents : (es.map SseEvent.bare).filterMap SseEvent.openAi? =
        (es.filterMap SseEvent.openAi?).map fun c => { c with id := "", created := 0 } := by
      induction es with
      | nil => rfl
      | cons e es ih =>
        cases e with
        | chunk c => exact congrArg (_ :: ·) ih
        | error text => exact ih
        | done => exact ih
    unfold sentDeltas sentUsage
    rw [hevents, List.flatMap_map, List.filterMap_map]
    exact ⟨rfl, rfl⟩
  have hsent : (chunks.map SseEvent.chunk ++ [SseEvent.done]).filterMap SseEvent.openAi? = chunks.map fromInternalChunk := by
    rw [List.filterMap_append, List.filterMap_map]
    have hchunks : chunks.filterMap (SseEvent.openAi? ∘ SseEvent.chunk) = chunks.map fromInternalChunk :=
      congrFun List.filterMap_eq_map chunks
    rw [hchunks]
    exact List.append_nil _
  rw [← (hbare sent).1, ← (hbare sent).2, h]
  unfold sentDeltas sentUsage
  rw [hsent, List.flatMap_map, List.filterMap_map]
  exact ⟨rfl, rfl⟩

variable (ds : List DeltaChoice)

theorem mem_withIndex (i : Nat) (d : DeltaChoice) : d ∈ withIndex ds i ↔ d ∈ ds ∧ d.index = i := by
  simp [withIndex]

theorem mem_assembledChoice (i : Nat) : (assembledChoice ds i).isSome ↔ ∃ d ∈ ds, d.index = i := by
  unfold assembledChoice
  split
  next h =>
    have hnone : ∀ d ∈ ds, d.index ≠ i := by simpa [withIndex, List.filter_eq_nil_iff] using h
    simpa using hnone
  next h =>
    have hsome : ∃ d ∈ ds, d.index = i := by simpa [withIndex, List.filter_eq_nil_iff] using h
    simpa using hsome

theorem assembled_map {f : DeltaChoice → DeltaChoice}
    (hf : ∀ d ∈ ds, (f d).content = d.content ∧ (f d).reasoning.getD "" = d.reasoning.getD "" ∧
      (f d).toolCalls = d.toolCalls ∧ (f d).finishReason = d.finishReason) :
    assembled (ds.map f) = assembled ds := by
  unfold assembled
  congr 1
  · rw [List.map_map]
    exact congrArg concat (List.map_congr_left fun d hd => by simp [(hf d hd).1])
  · rw [List.map_map]
    exact congrArg concat (List.map_congr_left fun d hd => by simp [(hf d hd).2.1])
  · rw [List.filterMap_map]
    exact List.filterMap_congr fun d hd => by simp [(hf d hd).2.2.1]
  · rw [List.filterMap_map]
    exact congrArg _ (List.filterMap_congr fun d hd => by simp [(hf d hd).2.2.2])

theorem assembledChoice_map {f : DeltaChoice → DeltaChoice} (hindex : ∀ d ∈ ds, (f d).index = d.index)
    (hf : ∀ d ∈ ds, (f d).content = d.content ∧ (f d).reasoning.getD "" = d.reasoning.getD "" ∧
      (f d).toolCalls = d.toolCalls ∧ (f d).finishReason = d.finishReason) (i : Nat) :
    assembledChoice (ds.map f) i = assembledChoice ds i := by
  have hwith : withIndex (ds.map f) i = (withIndex ds i).map f := by
    unfold withIndex
    rw [List.filter_map]
    congr 1
    apply List.filter_congr
    intro d hd
    simp [hindex d hd]
  unfold assembledChoice
  rw [hwith, List.isEmpty_map, assembled_map _ fun d hd => hf d ((mem_withIndex ds i d).mp hd).1]

theorem concat_eq_empty (texts : List String) : concat texts = "" ↔ ∀ t ∈ texts, t = "" := by
  induction texts with
  | nil => simp
  | cons t ts ih => simp [String.append_eq_empty_iff, ih]

/-- The choices of a stream come through exactly if all deltas have index 0 and no reasoning. -/
theorem choices_kept_iff (chunks : List AnswerChunk) :
    (∀ i, assembledChoice (chunks.flatMap AnswerChunk.choices) i = assembledChoice (chunks.flatMap AnswerChunk.heard) i) ↔
      ∀ c ∈ chunks, ∀ d ∈ c.choices, d.index = 0 ∧ d.reasoning.getD "" = "" := by
  constructor
  · intro h c hc d hd
    have hmem : d ∈ chunks.flatMap AnswerChunk.choices := List.mem_flatMap.mpr ⟨c, hc, hd⟩
    -- every delta that is passed on has index 0 and no reasoning
    have hheard : ∀ e ∈ chunks.flatMap AnswerChunk.heard, e.index = 0 ∧ e.reasoning = none := by
      intro e he
      obtain ⟨c', -, he⟩ := List.mem_flatMap.mp he
      simp only [AnswerChunk.heard, Option.mem_toList, Option.map_eq_some_iff] at he
      obtain ⟨d', -, rfl⟩ := he
      exact ⟨rfl, rfl⟩
    have hindex : d.index = 0 := by
      have hsome : (assembledChoice (chunks.flatMap AnswerChunk.choices) d.index).isSome :=
        (mem_assembledChoice _ _).mpr ⟨d, hmem, rfl⟩
      rw [h, mem_assembledChoice] at hsome
      obtain ⟨e, he, hei⟩ := hsome
      rw [← hei]
      exact (hheard e he).1
    refine ⟨hindex, ?_⟩
    have hmine : d ∈ withIndex (chunks.flatMap AnswerChunk.choices) 0 := (mem_withIndex _ _ _).mpr ⟨hmem, hindex⟩
    have hzero := h 0
    unfold assembledChoice at hzero
    rw [if_neg (by simpa using List.ne_nil_of_mem hmine)] at hzero
    split at hzero
    next => cases hzero
    next =>
      have hreasoning := congrArg GivenChoice.reasoning (Option.some.inj hzero)
      have hnone : (assembled (withIndex (chunks.flatMap AnswerChunk.heard) 0)).reasoning = "" := by
        refine (concat_eq_empty _).mpr fun t ht => ?_
        obtain ⟨e, he, rfl⟩ := List.mem_map.mp ht
        simp [(hheard e ((mem_withIndex _ _ _).mp he).1).2]
      exact (concat_eq_empty _).mp (hreasoning.trans hnone) _ (List.mem_map.mpr ⟨d, hmine, rfl⟩)
  · intro h i
    have hheard : chunks.flatMap AnswerChunk.heard = (chunks.flatMap AnswerChunk.choices).map DeltaChoice.plain := by
      rw [List.map_flatMap]
      apply List.flatMap_congr
      intro c hc
      obtain ⟨choices, distinct, usage⟩ := c
      -- a second choice would have the index of the first
      cases choices with
      | nil => rfl
      | cons d rest =>
        cases rest with
        | nil => rfl
        | cons d' rest =>
          have hd := (h _ hc d (by simp)).1
          have hd' := (h _ hc d' (by simp)).1
          simp [hd, hd'] at distinct
    rw [hheard]
    have hall : ∀ d ∈ chunks.flatMap AnswerChunk.choices, d.index = 0 ∧ d.reasoning.getD "" = "" := by
      intro d hd
      obtain ⟨c, hc, hd⟩ := List.mem_flatMap.mp hd
      exact h c hc d hd
    exact (assembledChoice_map (f := DeltaChoice.plain) _ (fun d hd => (hall d hd).1.symm)
      (fun d hd => ⟨rfl, (hall d hd).2.symm, rfl, rfl⟩) i).symm

/-! ## A stream: the usage -/

def shownCounts (model : String) (st : ChatHandler.StreamState) (chunks : List AnswerChunk) : List TokenCounts :=
  (passedOn model st (chunks.map AnswerChunk.seen)).filterMap fun c => c.usage.map InternalUsage.counts

theorem shownCounts_dropped {model : String} {st : ChatHandler.StreamState} {c : AnswerChunk} (chunks : List AnswerChunk)
    (hc : c.choices = []) : shownCounts model st (c :: chunks) = shownCounts model st chunks := by
  obtain ⟨choices, distinct, usage⟩ := c
  subst hc
  rfl

theorem shownCounts_passed (st : ChatHandler.StreamState) {c : AnswerChunk}
    (chunks : List AnswerChunk) (hc : c.choices ≠ []) : ∃ st' : ChatHandler.StreamState,
      st'.counts = (if c.usage.isSome then ProviderUsage.counts c.usage else st.counts) ∧
      shownCounts model st (c :: chunks) = st'.counts.counted ++ shownCounts model st' chunks := by
  obtain ⟨choices, distinct, usage⟩ := c
  cases choices with
  | nil => exact absurd rfl hc
  | cons d rest =>
    refine ⟨st.after (some ⟨d.content, d.role, d.toolCalls⟩) usage, rfl, ?_⟩
    simp only [shownCounts, List.map_cons, passedOn, ChatHandler.normalized, AnswerChunk.seen, List.head?_cons,
      Option.map_some, Option.isSome_some, true_or, if_true, TokenCounts.counted]
    split <;> simp

/-- The last counts shown are the last that came on a chunk with a choice; by induction on the chunks, with the counts of the
    state in front of both lists. -/
theorem last_shownCounts (chunks : List AnswerChunk) (st : ChatHandler.StreamState) :
    (st.counts.counted ++ shownCounts model st chunks).getLast? = (st.counts.counted ++ passedUsages chunks).getLast? := by
  induction chunks generalizing st with
  | nil => rfl
  | cons c chunks ih =>
    have hcons : passedUsages (c :: chunks) = c.passedUsage ++ passedUsages chunks := List.flatMap_cons
    rw [hcons, AnswerChunk.passedUsage]
    by_cases hc : c.choices = []
    · rw [shownCounts_dropped chunks hc, if_pos hc, List.nil_append]
      exact ih st
    · obtain ⟨st', hst', hshown⟩ := shownCounts_passed model st chunks hc
      rw [hshown, if_neg hc, List.getLast?_append, ih st']
      cases hu : c.usage with
      | none =>
        have hsame : st'.counts = st.counts := by rw [hst', hu]; rfl
        rw [hsame, Option.map_none, Option.getD_none, List.nil_append, List.getLast?_append]
        cases (passedUsages chunks).getLast? <;> cases st.counts.counted.getLast? <;> rfl
      | some u =>
        have hnew : st'.counts = ProviderUsage.counts (some u) := by rw [hst', hu]; rfl
        rw [hnew, Option.map_some, Option.getD_some, ← List.getLast?_append]

/-- The usage of a stream is shown exactly if its counts are the last on a chunk with a choice. -/
theorem usage_kept_iff (chunks : List AnswerChunk) : UsageKept (lastReported chunks)
        ((passedOn model {} (chunks.map AnswerChunk.seen)).filterMap fun c => (fromInternalChunk c).usage).getLast? ↔
      ∀ u, lastReported chunks = some u → (passedUsages chunks).getLast? = some (ProviderUsage.counts (some u)) := by
  have hlast : (((passedOn model {} (chunks.map AnswerChunk.seen)).filterMap fun c => (fromInternalChunk c).usage).getLast?).map
      OpenAiUsage.counts = (passedUsages chunks).getLast? := by
    have hcounts : ((passedOn model {} (chunks.map AnswerChunk.seen)).filterMap fun c => (fromInternalChunk c).usage).map
        OpenAiUsage.counts = shownCounts model {} chunks := by
      rw [List.map_filterMap, shownCounts]
      congr 1
      funext c
      cases hc : c.usage with
      | none => simp [fromInternalChunk, hc]
      | some u => simp [fromInternalChunk, hc, counts_openAiUsage]
    rw [← List.getLast?_map, hcounts]
    exact last_shownCounts model chunks {}
  unfold UsageKept
  rw [hlast]

/-! ## The law -/

theorem stream_whole_iff {model : String} {chunks : List AnswerChunk} {sent : List SseEvent}
    (h : Shows sent ⟨passedOn model {} (chunks.map AnswerChunk.seen), false⟩) :
    AnswerKept (.stream chunks) (.events sent) ↔ OneChoicePlain (.stream chunks) := by
  have hsent : sent.map SseEvent.bare = (passedOn model {} (chunks.map AnswerChunk.seen)).map .chunk ++ [.done] := h
  obtain ⟨hdeltas, husage⟩ := sentDeltas_of_bare hsent
  simp only [AnswerKept, OneChoicePlain]
  rw [hdeltas, deltas_passedOn, husage, choices_kept_iff, usage_kept_iff]

/-- What a client gets of a provider's answer, in a run of either dispatcher. In one piece: any run that returns a response;
    every provider that answers sends `a`. As a stream: any run in which every step is answered and the client stays; the
    provider that is opened streams `chunks`. -/
inductive Gets (env : ChatEnv) (d : DispatchParams) : ProviderAnswer → ClientGot → Prop where
  | whole (a : WholeAnswer) (chain : List String) (os : List (Outcome ChatErr)) (w : ChatWorld) (r : InternalChatResponse)
      (ha : (dispatchNonStreaming d chain).Admits (answeredRuns env a.seen) os () w)
      (hr : ((dispatchNonStreaming d chain).run (chatExec env) os w).1 = .ok r) :
      Gets env d (.whole a) (.response (fromInternalResponse r))
  | stream (chunks : List AnswerChunk) (P : Providers) (head name : String) (rest : List String) (checked : Bool)
      (os : List (Outcome ChatErr)) (w : ChatWorld) (hopened : P.opened head = some name)
      (hstreams : P.behaves name = .ok ⟨chunks.map AnswerChunk.seen, none⟩)
      (ha : (authStreamWithFailover d (head :: rest) checked).Admits (failoverRuns env P) os [] w) :
      Gets env d (.stream chunks)
        (.events ((authStreamWithFailover d (head :: rest) checked).noted (failoverRuns env P) os [] w))

def hiChunk (usage : Option ProviderUsage) : AnswerChunk where
  choices := [{ index := 0, content := "hi", finishReason := "stop" }]
  distinct := List.nodup_singleton _
  usage := usage

/-- The last chunk of a stream with `include_usage`: no choices, and the usage. -/
def usageOnlyChunk : AnswerChunk where
  choices := []
  distinct := List.nodup_nil
  usage := some thousands

def streaming (chunks : List AnswerChunk) : Providers where
  behaves _ := .ok ⟨chunks.map AnswerChunk.seen, none⟩

end Gatewayz
