import Gatewayz.Chat.Parameters

/-!
# `Correctness.ParametersForwarded` — which parameters of a request reach the provider

The lists of names are followed one after the other. What `prepare_upstream_request` collects is found again in the internal
request (`field_prepared`), and all of it but `reasoning_effort` in the keyword arguments (`mem_handlerKwargs`); the filter
leaves a parameter where it is or reports it (`mem_filtered`, `mem_dropped`).
-/

namespace Gatewayz.Forwarding

open Exec.Dictionary

variable {J : Type}

/-! ## What is claimed -/

def Message.fields (m : Message J) : Message J := { m with extra := [] }

/-- Nothing is lost between the parameters that were collected and the call of a provider: each is passed on as it is, or
reported as dropped, or it is `max_tokens` cut down to what the user can pay for; and the messages are those of the request. -/
structure NothingLost (account : Account J) (req : ProxyRequest J) (originalModel : String) (call : ProviderCall J)
    (droppedParams : List Param) : Prop where
  params : ∀ p v, (p, v) ∈ prepareUpstreamRequest req originalModel → (p, v) ∈ call.params ∨ p ∈ droppedParams ∨
    p = .maxTokens ∧ ∃ r cost k, estimateAndCheckCredits account.config account.prices r account.credits =
      .ok (.capped cost k) ∧ (.maxTokens, .int k) ∈ call.params
  messages : call.messages.map Message.fields = req.messages.map Message.fields

/-- A signed-in request comes to a provider with nothing lost, unless its user cannot pay for it. -/
def ParametersKept (account : Account J) (providerName : String) (req : ProxyRequest J) (originalModel : String) : Prop :=
  match authenticatedForward account providerName req originalModel with
  | .ok (call, droppedParams) => NothingLost account req originalModel call droppedParams
  | .error (.refused _) => True
  | .error .validationError => False

/-- It comes to the provider exactly as an anonymous one would. -/
def ForwardedAlike (account : Account J) (providerName : String) (req : ProxyRequest J) (originalModel : String) : Prop :=
  match authenticatedForward account providerName req originalModel with
  | .ok (call, _) =>
    (∀ p v, (p, v) ∈ call.params ↔ (p, v) ∈ (anonymousForward req originalModel).params) ∧
      call.messages = (anonymousForward req originalModel).messages
  | .error (.refused _) => True
  | .error .validationError => False

/-! ## When it is so -/

/-- The handler writes all five fields of the message. -/
structure Message.Whole (m : Message J) : Prop where
  name : m.name ≠ some ""
  toolCallId : m.toolCallId ≠ some ""
  toolCalls : m.toolCalls ≠ some []

/-- An internal request can be built: no message has a role that it does not know, and `max_tokens` is positive. -/
structure ProxyRequest.Convertible (req : ProxyRequest J) (originalModel : String) : Prop where
  roles : ∀ m ∈ req.messages, m.role.isInternal = true
  maxTokens : ∀ i, req.maxTokens = some i → 1 ≤ i ∨ hasTokenMinimum originalModel = true

/-! ## Collecting -/

theorem nodup_optionalNames : optionalNames.Nodup := by decide

theorem mem_optionalNames (p : Param) : p ∈ optionalNames := by
  cases p <;> decide

section Guards

variable {req : ProxyRequest J} {d : Params J} {p : Param} {v : ParamValue J}

theorem of_mem_guardTools (h : (p, v) ∈ req.guardTools d) : (p, v) ∈ d := by
  unfold ProxyRequest.guardTools at h
  split at h
  · exact (mem_pop.mp (mem_pop.mp h).1).1
  · exact h

theorem mem_guardTools (hchoice : p ≠ .toolChoice) (hparallel : p ≠ .parallelToolCalls) (h : (p, v) ∈ d) :
    (p, v) ∈ req.guardTools d := by
  unfold ProxyRequest.guardTools
  split
  · exact mem_pop.mpr ⟨mem_pop.mpr ⟨h, hchoice⟩, hparallel⟩
  · exact h

theorem of_mem_guardStream (h : (p, v) ∈ req.guardStream d) :
    p ≠ .streamOptions ∧ (p, v) ∈ d ∨ p = .streamOptions ∧ ∃ v', (p, v') ∈ d ∧ v'.dump = v := by
  unfold ProxyRequest.guardStream at h
  split at h
  · by_cases hp : p = .streamOptions
    · subst hp
      exact .inr ⟨rfl, mem_adjust_self.mp h⟩
    · exact .inl ⟨hp, (mem_adjust_of_ne hp).mp h⟩
  · obtain ⟨hmem, hp⟩ := mem_pop.mp h
    exact .inl ⟨hp, hmem⟩

theorem mem_guardStream (hp : p ≠ .streamOptions) (h : (p, v) ∈ d) : (p, v) ∈ req.guardStream d := by
  unfold ProxyRequest.guardStream
  split
  · exact (mem_adjust_of_ne hp).mpr h
  · exact mem_pop.mpr ⟨h, hp⟩

theorem of_mem_guardLogprobs (h : (p, v) ∈ req.guardLogprobs d) : (p, v) ∈ d := by
  unfold ProxyRequest.guardLogprobs at h
  split at h
  · exact h
  · exact (mem_pop.mp h).1

theorem mem_guardLogprobs (hp : p ≠ .topLogprobs) (h : (p, v) ∈ d) : (p, v) ∈ req.guardLogprobs d := by
  unfold ProxyRequest.guardLogprobs
  split
  · exact h
  · exact mem_pop.mpr ⟨h, hp⟩

theorem uniqueKeys_guards (h : UniqueKeys d) : UniqueKeys (req.guardLogprobs (req.guardStream (req.guardTools d))) := by
  have htools : UniqueKeys (req.guardTools d) := by
    unfold ProxyRequest.guardTools
    split
    · exact uniqueKeys_pop (uniqueKeys_pop h _) _
    · exact h
  have hstream : UniqueKeys (req.guardStream (req.guardTools d)) := by
    unfold ProxyRequest.guardStream
    split
    · exact uniqueKeys_adjust htools _ _
    · exact uniqueKeys_pop htools _
  unfold ProxyRequest.guardLogprobs
  split
  · exact hstream
  · exact uniqueKeys_pop hstream _

end Guards

section Prepare

variable (req : ProxyRequest J) (originalModel : String)

theorem uniqueKeys_prepare : UniqueKeys (prepareUpstreamRequest req originalModel) := by
  have h : UniqueKeys (req.guardLogprobs (req.guardStream (req.guardTools (collect optionalNames req.attr)))) :=
    uniqueKeys_guards (uniqueKeys_collect nodup_optionalNames req.attr)
  unfold prepareUpstreamRequest validateAndAdjustMaxTokens
  split
  · exact uniqueKeys_adjust h _ _
  · exact h

theorem of_mem_guards {p : Param} {v : ParamValue J}
    (h : (p, v) ∈ req.guardLogprobs (req.guardStream (req.guardTools (collect optionalNames req.attr)))) :
    p ≠ .streamOptions ∧ req.attr p = some v ∨ p = .streamOptions ∧ ∃ v', req.attr p = some v' ∧ v'.dump = v := by
  refine (of_mem_guardStream (of_mem_guardLogprobs h)).imp (fun ⟨hp, hmem⟩ => ?_) fun ⟨hp, v', hmem, hdump⟩ => ?_
  · exact ⟨hp, (mem_collect.mp (of_mem_guardTools hmem)).2⟩
  · exact ⟨hp, v', (mem_collect.mp (of_mem_guardTools hmem)).2, hdump⟩

/-- An attribute is of the type and within the bounds of the internal request, but for `max_tokens` and `stream_options`. -/
theorem admits_attr {p : Param} {v : ParamValue J} (h : req.attr p = some v) (hmax : p ≠ .maxTokens)
    (hstream : p ≠ .streamOptions) : p.admits v = true := by
  cases p with
  | maxTokens => exact absurd rfl hmax
  | streamOptions => exact absurd rfl hstream
  | stop =>
    obtain ⟨s, -, rfl⟩ := Option.map_eq_some_iff.mp h
    cases s <;> rfl
  | toolChoice =>
    obtain ⟨s, -, rfl⟩ := Option.map_eq_some_iff.mp h
    cases s <;> rfl
  | temperature =>
    obtain ⟨⟨q, hlo, hhi⟩, -, rfl⟩ := Option.map_eq_some_iff.mp h
    simp [Param.admits, hlo, hhi]
  | topP =>
    obtain ⟨⟨q, hlo, hhi⟩, -, rfl⟩ := Option.map_eq_some_iff.mp h
    simp [Param.admits, hlo, hhi]
  | frequencyPenalty =>
    obtain ⟨⟨q, hlo, hhi⟩, -, rfl⟩ := Option.map_eq_some_iff.mp h
    simp [Param.admits, hlo, hhi]
  | presencePenalty =>
    obtain ⟨⟨q, hlo, hhi⟩, -, rfl⟩ := Option.map_eq_some_iff.mp h
    simp [Param.admits, hlo, hhi]
  | n =>
    obtain ⟨⟨i, hi⟩, -, rfl⟩ := Option.map_eq_some_iff.mp h
    simp [Param.admits, hi]
  | topLogprobs =>
    obtain ⟨⟨i, hlo, hhi⟩, -, rfl⟩ := Option.map_eq_some_iff.mp h
    simp [Param.admits, hlo, hhi]
  | _ =>
    obtain ⟨x, -, rfl⟩ := Option.map_eq_some_iff.mp h
    rfl

/-- What is handed on is of the type and within the bounds of the internal request, `max_tokens` apart. -/
theorem admits_prepared (hmax : ∀ i, req.maxTokens = some i → 1 ≤ i ∨ hasTokenMinimum originalModel = true)
    {p : Param} {v : ParamValue J} (h : (p, v) ∈ prepareUpstreamRequest req originalModel) : p.admits v = true := by
  have hguards : ∀ {v : ParamValue J},
      (p, v) ∈ req.guardLogprobs (req.guardStream (req.guardTools (collect optionalNames req.attr))) → p ≠ .maxTokens →
      p.admits v = true := by
    intro v hv hp
    rcases of_mem_guards req hv with ⟨hstream, hattr⟩ | ⟨rfl, v', hattr, rfl⟩
    · exact admits_attr req hattr hp hstream
    · obtain ⟨o, -, rfl⟩ := Option.map_eq_some_iff.mp hattr
      rfl
  have htokens : ∀ {v : ParamValue J},
      (Param.maxTokens, v) ∈ req.guardLogprobs (req.guardStream (req.guardTools (collect optionalNames req.attr))) →
      ∃ i, req.maxTokens = some i ∧ v = .int i := by
    intro v hv
    rcases of_mem_guards req hv with ⟨-, hattr⟩ | ⟨hp, -⟩
    · obtain ⟨i, hi, rfl⟩ := Option.map_eq_some_iff.mp hattr
      exact ⟨i, hi, rfl⟩
    · cases hp
  unfold prepareUpstreamRequest validateAndAdjustMaxTokens at h
  split at h
  · by_cases hp : p = .maxTokens
    · subst hp
      obtain ⟨v', hv', rfl⟩ := mem_adjust_self.mp h
      obtain ⟨i, -, rfl⟩ := htokens hv'
      -- the minimum is positive
      simp only [ParamValue.atLeast16, Param.admits, decide_eq_true_eq]
      split <;> omega
    · exact hguards ((mem_adjust_of_ne hp).mp h) hp
  · next hminimum =>
    by_cases hp : p = .maxTokens
    · subst hp
      obtain ⟨i, hi, rfl⟩ := htokens h
      have hpos := (hmax i hi).resolve_right hminimum
      simpa [Param.admits] using hpos
    · exact hguards h hp

theorem mem_guards {p : Param} {v : ParamValue J} (h : req.attr p = some v)
    (hother : p ∉ [Param.toolChoice, .parallelToolCalls, .streamOptions, .topLogprobs]) :
    (p, v) ∈ req.guardLogprobs (req.guardStream (req.guardTools (collect optionalNames req.attr))) := by
  simp only [List.mem_cons, List.not_mem_nil, or_false, not_or] at hother
  obtain ⟨hchoice, hparallel, hstream, hlogprobs⟩ := hother
  have hcollected := mem_collect.mpr ⟨mem_optionalNames p, h⟩
  exact mem_guardLogprobs hlogprobs (mem_guardStream hstream (mem_guardTools hchoice hparallel hcollected))

/-- `reasoning_effort` is handed on whenever it is set. -/
theorem mem_prepare_effort {e : Effort} (h : req.reasoningEffort = some e) :
    (.reasoningEffort, .text e.text) ∈ prepareUpstreamRequest req originalModel := by
  have hattr : req.attr .reasoningEffort = some (.text e.text) := by
    rw [ProxyRequest.attr, h]
    rfl
  have hguarded := mem_guards req hattr (by decide)
  unfold prepareUpstreamRequest validateAndAdjustMaxTokens
  split
  · exact (mem_adjust_of_ne (by decide)).mpr hguarded
  · exact hguarded

theorem mem_prepare_maxTokens {i : Int} (h : req.maxTokens = some i) (hminimum : hasTokenMinimum originalModel = false) :
    (.maxTokens, .int i) ∈ prepareUpstreamRequest req originalModel := by
  have hattr : req.attr .maxTokens = some (.int i) := by
    rw [ProxyRequest.attr, h]
    rfl
  unfold prepareUpstreamRequest validateAndAdjustMaxTokens
  rw [hminimum]
  exact mem_guards req hattr (by decide)

theorem not_mem_prepare_effort (h : req.reasoningEffort = none) (v : ParamValue J) :
    (.reasoningEffort, v) ∉ prepareUpstreamRequest req originalModel := by
  have hguards : (.reasoningEffort, v) ∉
      req.guardLogprobs (req.guardStream (req.guardTools (collect optionalNames req.attr))) := by
    intro hmem
    rcases of_mem_guards req hmem with ⟨-, hattr⟩ | ⟨hp, -⟩
    · rw [ProxyRequest.attr, h] at hattr
      cases hattr
    · cases hp
  unfold prepareUpstreamRequest validateAndAdjustMaxTokens
  split
  · exact fun hmem => hguards ((mem_adjust_of_ne (by decide)).mp hmem)
  · exact hguards

end Prepare

/-! ## The internal request -/

/-- A field of the internal request. -/
def InternalChatRequest.field (request : InternalChatRequest J) : Param → Option (ParamValue J)
  | .maxTokens => request.maxTokens
  | .temperature => request.temperature
  | .topP => request.topP
  | .frequencyPenalty => request.frequencyPenalty
  | .presencePenalty => request.presencePenalty
  | .stop => request.stop
  | .n => request.n
  | .seed => request.seed
  | .user => request.user
  | .tools => request.tools
  | .toolChoice => request.toolChoice
  | .parallelToolCalls => request.parallelToolCalls
  | .responseFormat => request.responseFormat
  | .logprobs => request.logprobs
  | .topLogprobs => request.topLogprobs
  | .logitBias => request.logitBias
  | .streamOptions => request.streamOptions
  | .reasoningEffort => request.reasoningEffort

section Convert

variable {messages : List (Message J)} {model : String} {stream : Bool} {external : Params J}
  {request : InternalChatRequest J}

def rewritten (m : Message J) : Message J where
  role := m.role
  content := m.content
  name := m.name.filter (· ≠ "")
  toolCallId := m.toolCallId.filter (· ≠ "")
  toolCalls := m.toolCalls.filter fun calls => !calls.isEmpty

theorem toInternalMessages {internalMessages : List (InternalMessage J)}
    (h : messages.mapM toInternalMessage = some internalMessages) :
    internalMessages.map InternalMessage.toDict = messages.map rewritten := by
  induction messages generalizing internalMessages with
  | nil =>
    cases h
    rfl
  | cons m messages ih =>
    rw [List.mapM_cons, Option.bind_eq_bind, Option.bind_eq_some_iff] at h
    obtain ⟨first, hfirst, h⟩ := h
    obtain ⟨rest, hrest, h⟩ := Option.bind_eq_some_iff.mp h
    cases h
    rw [List.map_cons, List.map_cons, ih hrest]
    unfold toInternalMessage at hfirst
    split at hfirst
    · cases hfirst
      rfl
    · cases hfirst

theorem toInternalMessages_isSome :
    (messages.mapM toInternalMessage).isSome = true ↔ ∀ m ∈ messages, m.role.isInternal = true := by
  induction messages with
  | nil => exact ⟨fun _ m hm => absurd hm List.not_mem_nil, fun _ => rfl⟩
  | cons m messages ih =>
    have hhead : (toInternalMessage m).isSome = m.role.isInternal := by
      unfold toInternalMessage
      split
      · next hrole => rw [hrole]; rfl
      · next hrole => simpa using hrole
    rw [List.forall_mem_cons, ← ih, ← hhead, List.mapM_cons]
    cases toInternalMessage m with
    | none => simp
    | some first => cases messages.mapM toInternalMessage <;> simp

theorem toInternalRequest_some (h : toInternalRequest messages model stream external = some request) :
    request.messages.map InternalMessage.toDict = messages.map rewritten ∧ request.model = model ∧
      ∀ p, request.field p = external.lookup p := by
  unfold toInternalRequest at h
  cases hmessages : messages.mapM toInternalMessage with
  | none =>
    rw [hmessages] at h
    cases h
  | some internalMessages =>
    rw [hmessages] at h
    dsimp only at h
    split at h
    · cases h
      refine ⟨toInternalMessages hmessages, rfl, fun p => ?_⟩
      cases p <;> rfl
    · cases h

theorem toInternalRequest_isSome : (toInternalRequest messages model stream external).isSome = true ↔
      (∀ m ∈ messages, m.role.isInternal = true) ∧ ∀ e ∈ external, e.1.admits e.2 = true := by
  rw [← toInternalMessages_isSome, ← List.all_eq_true]
  unfold toInternalRequest
  cases messages.mapM toInternalMessage with
  | none => simp
  | some internalMessages =>
    dsimp only
    cases external.all fun e => e.1.admits e.2 <;> simp

end Convert

/-! ## Keyword arguments -/

section Kwargs

variable {request : InternalChatRequest J} {effective : Option Nat} {p : Param} {v : ParamValue J}

theorem mem_handlerKwargs : (p, v) ∈ handlerKwargs request effective ↔
      p = .maxTokens ∧ effective.map (fun k => .int k) = some v ∨
        p ≠ .maxTokens ∧ p ≠ .reasoningEffort ∧ request.field p = some v := by
  rw [handlerKwargs, mem_compact]
  cases p with
  | maxTokens => cases effective <;> simp [eq_comm]
  | _ => simp [InternalChatRequest.field, eq_comm]

end Kwargs

/-! ## The filter -/

section Filter

variable {providerName : String} {kwargs : Params J} {p : Param} {v : ParamValue J}

def Supported (providerName : String) (p : Param) : Prop := (supportedParamsFor (some providerName)).contains p = true

theorem mem_filtered :
    (p, v) ∈ (filterParamsForProvider (some providerName) kwargs).1 ↔ (p, v) ∈ kwargs ∧ Supported providerName p :=
  List.mem_filter

theorem mem_dropped :
    p ∈ (filterParamsForProvider (some providerName) kwargs).2 ↔ (∃ v, (p, v) ∈ kwargs) ∧ ¬ Supported providerName p := by
  rw [filterParamsForProvider, List.mem_mergeSort, List.mem_map]
  constructor
  · rintro ⟨⟨q, v⟩, he, rfl⟩
    obtain ⟨hmem, hnot⟩ := List.mem_filter.mp he
    refine ⟨⟨v, hmem⟩, ?_⟩
    rw [Supported]
    simpa using hnot
  · rintro ⟨⟨v, hmem⟩, hnot⟩
    refine ⟨(p, v), List.mem_filter.mpr ⟨hmem, ?_⟩, rfl⟩
    rw [Supported] at hnot
    simpa using hnot

theorem callProvider_eq (messages : List (Message J)) : callProvider providerName messages kwargs [] =
      (⟨messages, (filterParamsForProvider (some providerName) kwargs).1⟩,
        (filterParamsForProvider (some providerName) kwargs).2) := by
  unfold callProvider
  rcases filterParamsForProvider (some providerName) kwargs with ⟨filtered, dropped⟩
  by_cases hnone : dropped = []
  · rw [hnone]
    rfl
  · exact congrArg (Prod.mk _) (if_neg hnone)

end Filter

/-! ## The whole way -/

section Whole

variable (account : Account J) (providerName : String) (req : ProxyRequest J) (originalModel : String)

/-- `max_tokens` as it is handed on. -/
def ProxyRequest.requestedTokens (req : ProxyRequest J) (originalModel : String) : Option Nat :=
  ((prepareUpstreamRequest req originalModel).lookup .maxTokens).bind ParamValue.tokens?

def ProxyRequest.checked : Except PyErr (Option Nat) :=
  account.check originalModel (req.messages.map rewritten) (req.requestedTokens originalModel)

theorem convertible_iff : req.Convertible originalModel ↔ (toInternalRequest req.messages originalModel req.streamed
      (prepareUpstreamRequest req originalModel)).isSome = true := by
  rw [toInternalRequest_isSome]
  constructor
  · intro h
    exact ⟨h.roles, fun e he => admits_prepared req originalModel h.maxTokens he⟩
  · rintro ⟨hroles, hadmits⟩
    refine ⟨hroles, fun i hi => ?_⟩
    cases hminimum : hasTokenMinimum originalModel with
    | true => exact .inr rfl
    | false =>
      have hadmitted := hadmits _ (mem_prepare_maxTokens req originalModel hi hminimum)
      exact .inl (by simpa [Param.admits] using hadmitted)

theorem forward_invalid (h : ¬ req.Convertible originalModel) :
    authenticatedForward account providerName req originalModel = .error .validationError := by
  rw [convertible_iff, Option.not_isSome_iff_eq_none] at h
  rw [authenticatedForward, h]

theorem forward_eq (h : req.Convertible originalModel) : ∃ kwargs : Option Nat → Params J,
      (∀ effective p v, (p, v) ∈ kwargs effective ↔
        p = .maxTokens ∧ effective.map (fun k => .int k) = some v ∨
          p ≠ .maxTokens ∧ p ≠ .reasoningEffort ∧ (p, v) ∈ prepareUpstreamRequest req originalModel) ∧
      authenticatedForward account providerName req originalModel =
        match req.checked account originalModel with
        | .ok effective =>
          .ok (⟨req.messages.map rewritten, (filterParamsForProvider (some providerName) (kwargs effective)).1⟩,
            (filterParamsForProvider (some providerName) (kwargs effective)).2)
        | .error e => .error (.refused e) := by
  obtain ⟨request, hrequest⟩ := Option.isSome_iff_exists.mp ((convertible_iff req originalModel).mp h)
  obtain ⟨hmessages, hmodel, hfield⟩ := toInternalRequest_some hrequest
  refine ⟨handlerKwargs request, fun effective p v => ?_, ?_⟩
  · rw [mem_handlerKwargs, hfield, lookup_iff (uniqueKeys_prepare req originalModel)]
  · rw [authenticatedForward, hrequest]
    dsimp only
    have hmax : request.maxTokens = (prepareUpstreamRequest req originalModel).lookup .maxTokens := hfield .maxTokens
    rw [handle, hmessages, hmodel, hmax, ← ProxyRequest.requestedTokens, ← ProxyRequest.checked]
    cases req.checked account originalModel with
    | error e => rfl
    | ok effective =>
      change Except.ok (callProvider providerName _ _ []) = _
      rw [callProvider_eq]

/-- `max_tokens` is handed on as the number that the credit check sees. -/
theorem mem_prepare_maxTokens_iff (h : req.Convertible originalModel) (v : ParamValue J) :
    (.maxTokens, v) ∈ prepareUpstreamRequest req originalModel ↔
      (req.requestedTokens originalModel).map (fun k => .int k) = some v := by
  have hlookup : ∀ v, (prepareUpstreamRequest req originalModel).lookup .maxTokens = some v ↔
      (.maxTokens, v) ∈ prepareUpstreamRequest req originalModel := fun v =>
    lookup_iff (uniqueKeys_prepare req originalModel)
  rw [← hlookup v, ProxyRequest.requestedTokens]
  cases hfound : (prepareUpstreamRequest req originalModel).lookup .maxTokens with
  | none => simp
  | some v' =>
    have hadmits := admits_prepared req originalModel h.maxTokens ((hlookup v').mp hfound)
    cases v' with
    | int i =>
      have hpos : 1 ≤ i := by simpa [Param.admits] using hadmits
      have hcast : ((i.toNat : Nat) : Int) = i := Int.toNat_of_nonneg (by omega)
      simp [ParamValue.tokens?, hcast]
    | _ => cases hadmits

theorem precheck_maxTokens (modelId : String) (messages : List (Message J)) (maxTokens : Option Nat) :
    (account.precheck modelId messages maxTokens).maxTokens = maxTokens :=
  rfl

theorem checked_ok {effective : Option Nat} (h : req.checked account originalModel = .ok effective) :
    effective = req.requestedTokens originalModel ∨ ∃ r cost k, estimateAndCheckCredits account.config account.prices r
      account.credits = .ok (.capped cost k) ∧ effective = some k := by
  rw [ProxyRequest.checked, Account.check, checkCreditSufficiency] at h
  generalize hr : account.precheck originalModel (req.messages.map rewritten) (req.requestedTokens originalModel) = r at h
  have hmax : r.maxTokens = req.requestedTokens originalModel := by
    rw [← hr, precheck_maxTokens]
  by_cases hfree : isFreeId r.modelId = true
  · rw [if_pos hfree, hmax] at h
    exact .inl (Except.ok.inj h).symm
  · rw [if_neg hfree] at h
    cases hresult : estimateAndCheckCredits account.config account.prices r account.credits with
    | error e =>
      rw [hresult] at h
      cases h
    | ok result =>
      rw [hresult] at h
      cases result with
      | sufficient cost =>
        refine .inl ?_
        rw [← hmax]
        exact (Except.ok.inj h).symm
      | capped cost k => exact .inr ⟨r, cost, k, hresult, (Except.ok.inj h).symm⟩
      | insufficient cost => cases h

end Whole

/-! ## Messages -/

theorem fields_rewritten_iff (m : Message J) : (rewritten m).fields = m.fields ↔ m.Whole := by
  have htext : ∀ t : Option String, t.filter (· ≠ "") = t ↔ t ≠ some "" := by
    intro t
    cases t with
    | none => simp
    | some s => by_cases hs : s = "" <;> simp [hs]
  have hcalls : ∀ t : Option (List J), (t.filter fun calls => !calls.isEmpty) = t ↔ t ≠ some [] := by
    intro t
    cases t with
    | none => simp
    | some js => cases js <;> simp
  unfold Message.fields rewritten
  rw [Message.mk.injEq]
  constructor
  · rintro ⟨-, -, hname, htoolCalls, htoolCallId, -⟩
    exact ⟨(htext _).mp hname, (htext _).mp htoolCallId, (hcalls _).mp htoolCalls⟩
  · rintro ⟨hname, htoolCallId, htoolCalls⟩
    exact ⟨rfl, rfl, (htext _).mpr hname, (hcalls _).mpr htoolCalls, (htext _).mpr htoolCallId, rfl⟩

theorem rewritten_eq_iff (m : Message J) : rewritten m = m ↔ m.Whole ∧ m.extra = [] := by
  rw [← fields_rewritten_iff]
  constructor
  · intro h
    refine ⟨by rw [h], ?_⟩
    rw [← h]
    rfl
  · rintro ⟨hfields, hextra⟩
    have hsame : m.fields = m := by
      unfold Message.fields
      rw [← hextra]
    rw [hsame] at hfields
    exact hfields

/-! ## The condition -/

section Condition

variable (account : Account J) (providerName : String) (req : ProxyRequest J) (originalModel : String)

def ProxyRequest.Refused : Prop := ∃ e, req.checked account originalModel = .error e

structure ProxyRequest.Writable (req : ProxyRequest J) : Prop where
  effort : req.reasoningEffort = none
  messages : ∀ m ∈ req.messages, m.Whole

/-- The provider accepts all of it, the user can pay for all of it, and no message has a field of its own. -/
structure ProxyRequest.Unchanged : Prop where
  supported : ∀ e ∈ prepareUpstreamRequest req originalModel, Supported providerName e.1
  uncapped : req.checked account originalModel = .ok (req.requestedTokens originalModel)
  extra : ∀ m ∈ req.messages, m.extra = []

/-- Every provider accepts `max_tokens`. -/
theorem supported_maxTokens : Supported providerName .maxTokens := by
  have hnever : ∀ slug unsupported, providerUnsupportedParams.lookup slug = some unsupported →
      Param.maxTokens ∉ unsupported := by
    intro slug unsupported h
    have hunique : UniqueKeys providerUnsupportedParams := by
      unfold UniqueKeys
      decide
    have hmem := (lookup_iff hunique).mp h
    have hall : ∀ e ∈ providerUnsupportedParams, Param.maxTokens ∉ e.2 := by decide
    exact hall _ hmem
  unfold Supported supportedParamsFor
  dsimp only
  generalize lower (String.ofList (strip ((some providerName).getD "").toList)) = slug
  rw [if_neg (by simp [minimalParamProviders]), List.contains_iff_mem, List.mem_filter]
  refine ⟨by decide, ?_⟩
  cases hlookup : providerUnsupportedParams.lookup slug with
  | none => rfl
  | some unsupported => simpa using hnever slug unsupported hlookup

/-- `reasoning_effort` comes to no provider. -/
theorem effort_not_forwarded (h : req.Convertible originalModel) {call : ProviderCall J} {dropped : List Param}
    (hforward : authenticatedForward account providerName req originalModel = .ok (call, dropped)) :
    (∀ v, (.reasoningEffort, v) ∉ call.params) ∧ .reasoningEffort ∉ dropped := by
  obtain ⟨kwargs, hkwargs, hform⟩ := forward_eq account providerName req originalModel h
  rw [hform] at hforward
  have hnone : ∀ effective v, (.reasoningEffort, v) ∉ kwargs effective := by
    intro effective v hmem
    rcases (hkwargs effective _ v).mp hmem with ⟨hp, -⟩ | ⟨-, hp, -⟩
    · cases hp
    · exact hp rfl
  cases hchecked : req.checked account originalModel with
  | error e =>
    rw [hchecked] at hforward
    cases hforward
  | ok effective =>
    rw [hchecked] at hforward
    cases hforward
    refine ⟨fun v hmem => hnone effective v (mem_filtered.mp hmem).1, fun hmem => ?_⟩
    obtain ⟨⟨v, hv⟩, -⟩ := mem_dropped.mp hmem
    exact hnone effective v hv

/-- Exactly when nothing is lost: the request can be converted, and it is refused, or asks for no reasoning effort and has
no empty name, id or list of calls in a message. -/
theorem parametersKept_iff : ParametersKept account providerName req originalModel ↔
    req.Convertible originalModel ∧ (req.Refused account originalModel ∨ req.Writable) := by
  by_cases hconvertible : req.Convertible originalModel
  case neg =>
    rw [ParametersKept, forward_invalid account providerName req originalModel hconvertible]
    exact ⟨False.elim, fun h => hconvertible h.1⟩
  obtain ⟨kwargs, hkwargs, hform⟩ := forward_eq account providerName req originalModel hconvertible
  have hmessages : (req.messages.map rewritten).map Message.fields = req.messages.map Message.fields ↔
      ∀ m ∈ req.messages, m.Whole := by
    rw [List.map_map, List.map_inj_left]
    exact forall₂_congr fun m _ => fields_rewritten_iff m
  cases hchecked : req.checked account originalModel with
  | error e =>
    rw [hchecked] at hform
    rw [ParametersKept, hform]
    exact ⟨fun _ => ⟨hconvertible, .inl ⟨e, hchecked⟩⟩, fun _ => trivial⟩
  | ok effective =>
    rw [hchecked] at hform
    rw [ParametersKept, hform]
    constructor
    · intro hkept
      refine ⟨hconvertible, .inr ⟨?_, hmessages.mp hkept.messages⟩⟩
      obtain ⟨hcall, hdropped⟩ := effort_not_forwarded account providerName req originalModel hconvertible hform
      cases heffort : req.reasoningEffort with
      | none => rfl
      | some e =>
        rcases hkept.params _ _ (mem_prepare_effort req originalModel heffort) with h | h | ⟨h, -⟩
        · exact absurd h (hcall _)
        · exact absurd h hdropped
        · cases h
    · rintro ⟨-, ⟨e, he⟩ | hwritable⟩
      · rw [hchecked] at he
        cases he
      refine ⟨fun p v hmem => ?_, hmessages.mpr hwritable.messages⟩
      -- an argument of the handler is passed on, or dropped and reported
      have hsplit : ∀ v', (p, v') ∈ kwargs effective →
          (p, v') ∈ (filterParamsForProvider (some providerName) (kwargs effective)).1 ∨
            p ∈ (filterParamsForProvider (some providerName) (kwargs effective)).2 := by
        intro v' hv'
        by_cases hsupported : Supported providerName p
        · exact .inl (mem_filtered.mpr ⟨hv', hsupported⟩)
        · exact .inr (mem_dropped.mpr ⟨⟨v', hv'⟩, hsupported⟩)
      by_cases hp : p = .maxTokens
      · subst hp
        have hrequested := (mem_prepare_maxTokens_iff req originalModel hconvertible v).mp hmem
        rcases checked_ok account req originalModel hchecked with hwhole | ⟨r, cost, k, hcapped, rfl⟩
        · rw [← hwhole] at hrequested
          exact (hsplit v ((hkwargs _ _ _).mpr (.inl ⟨rfl, hrequested⟩))).imp_right .inl
        · refine .inr (.inr ⟨rfl, r, cost, k, hcapped, mem_filtered.mpr ⟨?_, supported_maxTokens providerName⟩⟩)
          exact (hkwargs _ _ _).mpr (.inl ⟨rfl, rfl⟩)
      · have hne : p ≠ .reasoningEffort := by
          rintro rfl
          exact not_mem_prepare_effort req originalModel hwritable.effort v hmem
        exact (hsplit v ((hkwargs _ _ _).mpr (.inr ⟨hp, hne, hmem⟩))).imp_right .inl

/-- Exactly when a signed-in request is forwarded as an anonymous one would be. -/
theorem alike_iff : ForwardedAlike account providerName req originalModel ↔
    req.Convertible originalModel ∧ (req.Refused account originalModel ∨
      req.Writable ∧ req.Unchanged account providerName originalModel) := by
  by_cases hconvertible : req.Convertible originalModel
  case neg =>
    rw [ForwardedAlike, forward_invalid account providerName req originalModel hconvertible]
    exact ⟨False.elim, fun h => hconvertible h.1⟩
  obtain ⟨kwargs, hkwargs, hform⟩ := forward_eq account providerName req originalModel hconvertible
  have hmessages : req.messages.map rewritten = req.messages ↔ ∀ m ∈ req.messages, m.Whole ∧ m.extra = [] := by
    have hid : req.messages.map rewritten = req.messages ↔ req.messages.map rewritten = req.messages.map id := by
      rw [List.map_id]
    rw [hid, List.map_inj_left]
    exact forall₂_congr fun m _ => rewritten_eq_iff m
  have hrequested := mem_prepare_maxTokens_iff req originalModel hconvertible
  cases hchecked : req.checked account originalModel with
  | error e =>
    rw [hchecked] at hform
    rw [ForwardedAlike, hform]
    exact ⟨fun _ => ⟨hconvertible, .inl ⟨e, hchecked⟩⟩, fun _ => trivial⟩
  | ok effective =>
    rw [hchecked] at hform
    rw [ForwardedAlike, hform]
    dsimp only [anonymousForward]
    constructor
    · rintro ⟨hparams, hsame⟩
      have hall := hmessages.mp hsame
      obtain ⟨hcall, -⟩ := effort_not_forwarded account providerName req originalModel hconvertible hform
      have htokens : ∀ v : ParamValue J, effective.map (fun k : Nat => .int k) = some v ↔
          (req.requestedTokens originalModel).map (fun k : Nat => .int k) = some v := by
        intro v
        rw [← hrequested v, ← hparams, mem_filtered, hkwargs]
        simp [supported_maxTokens providerName]
      refine ⟨hconvertible, .inr ⟨⟨?_, fun m hm => (hall m hm).1⟩, ⟨fun e he => ?_, ?_, fun m hm => (hall m hm).2⟩⟩⟩
      · cases heffort : req.reasoningEffort with
        | none => rfl
        | some e => exact absurd ((hparams _ _).mpr (mem_prepare_effort req originalModel heffort)) (hcall _)
      · exact (mem_filtered.mp ((hparams e.1 e.2).mpr he)).2
      · -- the two numbers have the same value as a parameter
        have hsome : ∀ k, effective = some k ↔ req.requestedTokens originalModel = some k := by
          intro k
          have h := htokens (.int k)
          simpa [Option.map_eq_some_iff] using h
        rw [hchecked, Option.ext hsome]
    · rintro ⟨-, ⟨e, he⟩ | ⟨hwritable, hunchanged⟩⟩
      · rw [hchecked] at he
        cases he
      have hsame := hunchanged.uncapped
      rw [hchecked] at hsame
      have hwhole := Except.ok.inj hsame
      rw [← hwhole] at hrequested
      refine ⟨fun p v => ?_, hmessages.mpr fun m hm => ⟨hwritable.messages m hm, hunchanged.extra m hm⟩⟩
      rw [mem_filtered, hkwargs]
      constructor
      · rintro ⟨⟨rfl, hv⟩ | ⟨-, -, hmem⟩, -⟩
        · exact (hrequested v).mpr hv
        · exact hmem
      · intro hmem
        refine ⟨?_, hunchanged.supported (p, v) hmem⟩
        by_cases hp : p = .maxTokens
        · subst hp
          exact .inl ⟨rfl, (hrequested v).mp hmem⟩
        · refine .inr ⟨hp, ?_, hmem⟩
          rintro rfl
          exact not_mem_prepare_effort req originalModel hwritable.effort v hmem

/-- **The parameters of a request**, in either mode and to any provider: exactly when none is lost on the way, and exactly when
a signed-in request is forwarded as an anonymous one. -/
theorem parameters_forwarded_iff :
    (ParametersKept account providerName req originalModel ↔
        req.Convertible originalModel ∧ (req.Refused account originalModel ∨ req.Writable)) ∧
      (ForwardedAlike account providerName req originalModel ↔
        req.Convertible originalModel ∧ (req.Refused account originalModel ∨
          req.Writable ∧ req.Unchanged account providerName originalModel)) :=
  ⟨parametersKept_iff account providerName req originalModel, alike_iff account providerName req originalModel⟩

end Condition

/-! ## A request that asks for reasoning -/

def freeAccount : Account Unit where
  config := {}
  prices := fun _ => .error (.valueError "")
  credits := 0
  inputTokens := fun _ => 0

def reasoningRequest : ProxyRequest Unit where
  model := "openai/o3-mini:free"
  messages := [{ role := .user, content := some (.text "Why?") }]
  reasoningEffort := some .high

/-- **The effort is lost**: it is neither passed on nor reported. -/
theorem reasoning_effort_lost : ¬ ParametersKept freeAccount "openai" reasoningRequest reasoningRequest.model := by
  have hconvertible : reasoningRequest.Convertible reasoningRequest.model :=
    ⟨by decide, fun i hi => .inl (by cases hi; decide)⟩
  have hchecked : reasoningRequest.checked freeAccount reasoningRequest.model =
      .ok (reasoningRequest.requestedTokens reasoningRequest.model) := by
    rw [ProxyRequest.checked, Account.check, checkCreditSufficiency]
    exact if_pos (by decide)
  obtain ⟨kwargs, -, hform⟩ := forward_eq freeAccount "openai" reasoningRequest reasoningRequest.model hconvertible
  rw [hchecked] at hform
  obtain ⟨hcall, hdropped⟩ :=
    effort_not_forwarded freeAccount "openai" reasoningRequest reasoningRequest.model hconvertible hform
  rw [ParametersKept, hform]
  intro hkept
  rcases hkept.params _ _ (mem_prepare_effort (e := .high) reasoningRequest reasoningRequest.model rfl) with h | h | ⟨h, -⟩
  · exact hcall _ h
  · exact hdropped h
  · cases h

end Gatewayz.Forwarding
