import Gatewayz.Chat.Rules

/-!
# `Chat.Parts` — the steps that each function of the chat code is made of

`p.Stays P F` says that `p` takes steps of the kind `P`, and raises exceptions of the kind `F` as long as its steps do. The
kinds are those of the source: the steps of an attempt up to its charge, those of a whole attempt, those of the gates and of
the rate limiter.
-/

namespace Gatewayz

open Exec

variable {α : Type}

/-! ## What the handler is made of -/

/-- The steps of an attempt up to its charge. -/
def ChatStmt.beforeCharge : ChatStmt → Bool
  | .task .toInternalRequest => true
  | .newRequestId => true
  | .getUser _ => true
  | .checkCreditSufficiency _ _ => true
  | .enabledProviders _ => true
  | .isAvailable _ _ => true
  | .detectProvider _ => true
  | .transformModelId _ _ => true
  | .bindByok _ => true
  | .callProvider _ _ _ => true
  | .openStream _ _ _ => true
  | .lossProofCostSplit _ _ _ _ => true
  | .saveRequest _ => true
  | _ => false

/-- The steps of an attempt, the loop's own included. -/
def ChatStmt.ofAttempt (s : ChatStmt) : Bool :=
  s.beforeCharge ||
    match s with
    | .deductCredits _ _ _ => true
    | .recordUsage _ => true
    | .task .buildResponse => true
    | .task .fromInternalResponse => true
    | .task .traceInference => true
    | .task .inferenceMetrics => true
    | .task .errorMetric => true
    | .task .awaitChunk => true
    | .task .closeStream => true
    | .isDisconnected => true
    | .pastDeadline => true
    | .now => true
    | .yieldChunk _ => true
    | .yieldSse _ => true
    | .send _ => true
    | _ => false

/-- The steps that begin an attempt, or send it off to a provider. -/
def ChatStmt.sends : ChatStmt → Bool
  | .task .toInternalRequest => true
  | .callProvider _ _ _ => true
  | .openStream _ _ _ => true
  | _ => false

/-- The steps of the streaming loop. -/
def ChatStmt.ofStream : ChatStmt → Bool
  | .task .awaitChunk => true
  | .isDisconnected => true
  | .pastDeadline => true
  | .now => true
  | .yieldChunk _ => true
  | _ => false

theorem ChatStmt.ofAttempt_of_ofStream (s : ChatStmt) (hs : s.ofStream) : s.ofAttempt ∧ s.sends = false := by
  unfold ofStream at hs
  split at hs <;> first | exact ⟨rfl, rfl⟩ | cases hs

variable {model : String}

section Parts

variable {P : ChatStmt → Prop} {F : ChatErr → Prop}

theorem stays_bindByok {provider : String} (hP : P (.bindByok provider)) : (bindByok provider).Stays P F :=
  stays_exceptException (stays_call hP) fun _ => trivial

theorem stays_availableOnly (hP : ∀ p, P (.isAvailable model p)) (ps : List ProviderConfig) :
    (availableOnly model ps).Stays P F := by
  induction ps with
  | nil => trivial
  | cons p ps ih => exact stays_bind (stays_call (hP p.name)) fun available => stays_bind ih fun rest => trivial

variable {r : InternalChatRequest}

theorem stays_detectedProvider (hP : P (.detectProvider r.model)) : (ChatHandler.detectedProvider r).Stays P F := by
  unfold ChatHandler.detectedProvider
  split
  · trivial
  · exact stays_bind (stays_call hP) fun _ => trivial

theorem stays_callProvider {provider modelId : String} {maxTokens : Option Nat} [HasExceptions F]
    (hbind : P (.bindByok provider)) (hcall : P (.callProvider provider modelId maxTokens)) :
    (callProvider provider modelId maxTokens).Stays P F := by
  refine stays_bind (stays_bindByok hbind) fun byok => stays_exceptException ?_ fun e => stays_raise _
  exact stays_bind (stays_call hcall) fun response => trivial

theorem stays_callProviderStream {provider modelId : String} {maxTokens : Option Nat} [HasExceptions F]
    (hbind : P (.bindByok provider)) (hopen : P (.openStream provider modelId maxTokens)) :
    (callProviderStream provider modelId maxTokens).Stays P F := by
  refine stays_bind (stays_bindByok hbind) fun byok => stays_exceptException ?_ fun e => ?_
  · refine stays_bind (stays_call hopen) fun opened => ?_
    cases opened with
    | ok stream => trivial
    | error e => exact stays_raise e
  · split
    · exact stays_raise _
    · exact stays_raise _

theorem stays_selectForStream {user : ChatUser} [HasExceptions F]
    (hcheck : ∀ q credits, P (.checkCreditSufficiency q credits))
    (hproviders : P (.enabledProviders r.model)) (hdetect : P (.detectProvider r.model)) :
    (ChatHandler.selectForStream user r).Stays P F := by
  refine stays_bind (stays_call (hcheck _ _)) fun maxTokens => stays_bind (stays_call hproviders) fun registered => ?_
  cases registered with
  | some enabled =>
    dsimp only
    split
    · trivial
    · exact stays_raise _
  | none => exact stays_bind (stays_detectedProvider hdetect) fun provider => trivial

theorem stays_save {row : RequestRow} (hP : P (.saveRequest row)) : (ChatHandler.save row).Stays P F :=
  stays_bind (stays_call hP) fun _ => trivial

variable {h : ChatHandler}

theorem stays_initializeUserContext [HasExceptions F] (hP : P (.getUser h.apiKey)) :
    h.initializeUserContext.Stays P F := by
  refine stays_exceptException (stays_bind (stays_call hP) fun user => ?_) fun e => ?_
  · cases user with
    | none => exact stays_raise _
    | some user => trivial
  · split <;> exact stays_raise _

theorem stays_newHandler {d : DispatchParams} (hP : P .newRequestId) : (newHandler d).Stays P F :=
  stays_bind (stays_call hP) fun _ => trivial

theorem stays_bill {provider modelId : String} {byok : Bool} {t : TokenCounts}
    (hP : P (.lossProofCostSplit r.model modelId t provider)) : (h.bill r provider modelId byok t).Stays P F :=
  stays_bind (stays_call hP) fun _ => trivial

theorem stays_orSaveFailed [HasExceptions F] {user : Option ChatUser} {model provider : String}
    {t : TokenCounts} {part : ChatProg α} (hP : ∀ row, P (.saveRequest row)) (hpart : part.Stays P F) :
    (h.orSaveFailed user model provider t part).Stays P F :=
  stays_exceptException hpart fun _ => stays_bind (stays_save (hP _)) fun _ => stays_raise _

end Parts

section Attempts

variable {P : ChatStmt → Prop} {F : ChatErr → Prop} (hP : ∀ s : ChatStmt, s.beforeCharge → P s)
include hP

omit hP in
theorem stays_tryProviders {execute : ProviderConfig → ChatProg α} (hexecute : ∀ p, (execute p).Stays P F)
    (lastError : String) (ps : List ProviderConfig) : (tryProviders execute lastError ps).Stays P F := by
  induction ps generalizing lastError with
  | nil => trivial
  | cons p ps ih => exact stays_exceptException (stays_bind (hexecute p) fun _ => trivial) fun e => ih e.text

theorem stays_executeWithFailover {execute : ProviderConfig → ChatProg α} (hexecute : ∀ p, (execute p).Stays P F)
    (model : String) (enabled : List ProviderConfig) : (executeWithFailover model enabled execute).Stays P F := by
  unfold executeWithFailover
  split
  · trivial
  · refine stays_bind (stays_availableOnly (fun _ => hP _ rfl) _) fun available => ?_
    cases available with
    | nil => trivial
    | cons p ps => exact stays_tryProviders hexecute _ _

theorem stays_upstream [HasExceptions F] (h : ChatHandler) (user : ChatUser) (r : InternalChatRequest) (maxTokens : Option Nat) :
    (h.upstream user r maxTokens).Stays P F := by
  refine stays_bind (stays_call (hP _ rfl)) fun registered => ?_
  cases registered with
  | some enabled =>
    refine stays_bind (stays_executeWithFailover hP (fun p => stays_callProvider (hP _ rfl) (hP _ rfl))
      r.model enabled) fun result => ?_
    rcases result with text | ⟨⟨response, byok⟩, p⟩
    · exact stays_bind (stays_save (hP _ rfl)) fun _ => stays_raise _
    · trivial
  | none =>
    refine stays_bind (stays_detectedProvider (hP _ rfl)) fun provider => ?_
    refine stays_bind (stays_call (hP _ rfl)) fun modelId => ?_
    exact stays_bind (stays_callProvider (hP _ rfl) (hP _ rfl)) fun answer => trivial

variable (d : DispatchParams)

theorem stays_toInternalRequest (stream : Bool) (provider : String) : (toInternalRequest d stream provider).Stays P F :=
  stays_bind (stays_call (hP _ rfl)) fun _ => trivial

end Attempts

section AfterAnswer

variable {P : ChatStmt → Prop} {F : ChatErr → Prop} (hP : ∀ s : ChatStmt, s.ofAttempt → s.sends = false → P s)
include hP

theorem stays_chargeUser (h : ChatHandler) (user : ChatUser) (cost : ℚ) (model : String) (t : TokenCounts) :
    (h.chargeUser user cost model t).Stays P F :=
  stays_bind (stays_call (hP _ rfl rfl)) fun _ => stays_bind (stays_call (hP _ rfl rfl)) fun _ => trivial

theorem stays_settle [HasExceptions F] (h : ChatHandler) (user : ChatUser) (r : InternalChatRequest) (s : Served) :
    (h.settle user r s).Stays P F := by
  unfold ChatHandler.settle
  split
  · exact stays_raise _
  · refine stays_bind (stays_bill (hP _ rfl rfl)) fun cost => ?_
    refine stays_bind (stays_chargeUser hP h user _ _ _) fun _ => ?_
    refine stays_bind (stays_save (hP _ rfl rfl)) fun _ => ?_
    exact stays_bind (stays_call (hP _ rfl rfl)) fun _ => trivial

end AfterAnswer

section WholeAttempts

variable {P : ChatStmt → Prop} {F : ChatErr → Prop} [HasExceptions F] (hP : ∀ s : ChatStmt, s.ofAttempt → P s)
include hP

omit [HasExceptions F] in
theorem beforeCharge_of (s : ChatStmt) (hs : s.beforeCharge) : P s :=
  hP s (Bool.or_eq_true_iff.mpr (.inl hs))

theorem stays_process (h : ChatHandler) (r : InternalChatRequest) : (h.process r).Stays P F := by
  have hsave : ∀ row, P (.saveRequest row) := fun _ => hP _ rfl
  refine stays_bind (stays_orSaveFailed hsave (stays_initializeUserContext (hP _ rfl))) fun user => ?_
  refine stays_orSaveFailed hsave (stays_bind (stays_call (hP _ rfl)) fun maxTokens => ?_)
  refine stays_bind (stays_upstream (beforeCharge_of hP) h user r maxTokens) fun served => ?_
  exact stays_settle (fun s hs _ => hP s hs) h user r served

theorem stays_nonStreamingAttempt (d : DispatchParams) (provider : String) :
    (nonStreamingAttempt d provider).Stays P F := by
  refine stays_bind (stays_toInternalRequest (beforeCharge_of hP) d false provider) fun r => ?_
  refine stays_bind (stays_newHandler (hP _ rfl)) fun h => ?_
  refine stays_bind (stays_process hP h r) fun response => ?_
  refine stays_bind (stays_call (hP _ rfl)) fun _ => ?_
  refine stays_bind (stays_call (hP _ rfl)) fun _ => ?_
  exact stays_bind (stays_call (hP _ rfl)) fun _ => trivial

theorem stays_nonStreamingAttempts (d : DispatchParams) (chain : List String) :
    (nonStreamingAttempts d chain).Stays P F := by
  induction chain with
  | nil => exact stays_raise _
  | cons provider rest ih =>
    refine stays_exceptException (stays_nonStreamingAttempt hP d provider) fun e => ?_
    refine stays_bind (stays_call (hP _ rfl)) fun _ => ?_
    dsimp only
    split
    · exact ih
    · exact stays_raise _

theorem stays_dispatchNonStreaming (d : DispatchParams) (chain : List String) :
    (dispatchNonStreaming d chain).Stays P F := by
  unfold dispatchNonStreaming
  split
  · exact stays_raise _
  · exact stays_nonStreamingAttempts hP d chain

end WholeAttempts

section StreamingLoop

variable {P : ChatStmt → Prop} (hP : ∀ s : ChatStmt, s.ofStream → P s)
include hP

theorem stays_streamChunk (h : ChatHandler) (model : String) (st : ChatHandler.StreamState) (c : ProviderChunk) :
    (h.streamChunk model st c).Stays P fun _ => True := by
  refine stays_bind (stays_call (hP _ rfl)) fun _ => stays_bind (stays_call (hP _ rfl)) fun disconnected => ?_
  split
  · trivial
  · refine stays_bind (stays_call (hP _ rfl)) fun late => ?_
    split
    · trivial
    · refine stays_bind (stays_call (hP _ rfl)) fun created => ?_
      split
      · trivial
      · exact stays_bind (stays_call (hP _ rfl)) fun _ => trivial

theorem stays_streamChunks (h : ChatHandler) (model : String) (failure : Option Exc) (st : ChatHandler.StreamState)
    (cs : List ProviderChunk) : (h.streamChunks model failure st cs).Stays P fun _ => True := by
  induction cs generalizing st with
  | nil => cases failure <;> trivial
  | cons c cs ih =>
    refine stays_bind (stays_attempt (stays_streamChunk hP h model st c)) fun turn => ?_
    rcases turn with e | st'
    · trivial
    · cases st' with
      | none => trivial
      | some st' => exact ih st'

end StreamingLoop

section Stream

variable {P : ChatStmt → Prop} (hP : ∀ s : ChatStmt, s.ofAttempt → s.sends = false → P s)
variable {provider modelId : String} {maxTokens : Option Nat}
include hP

theorem stays_consumeStream (hopen : P (.openStream provider modelId maxTokens)) (h : ChatHandler) (r : InternalChatRequest) :
    (h.consumeStream r provider modelId maxTokens).Stays P fun _ => True := by
  refine stays_andFinally ?_ (stays_quietly (stays_call (hP _ rfl rfl)))
  refine stays_bind (stays_callProviderStream (hP _ rfl rfl) hopen) fun opened => ?_
  have hloop : ∀ s : ChatStmt, s.ofStream → P s := fun s hs =>
    hP s (s.ofAttempt_of_ofStream hs).1 (s.ofAttempt_of_ofStream hs).2
  exact stays_bind (stays_streamChunks hloop h r.model _ _ _) fun _ => trivial

theorem stays_settleStream (h : ChatHandler) (user : ChatUser) (r : InternalChatRequest) (provider modelId : String)
    (byok : Bool) (st : ChatHandler.StreamState) :
    (h.settleStream user r provider modelId byok st).Stays P fun _ => True := by
  refine stays_bind (stays_bill (hP _ rfl rfl)) fun cost => ?_
  exact stays_bind (stays_chargeUser hP h user _ _ _) fun _ => stays_save (hP _ rfl rfl)

theorem stays_streamFrom (hopen : P (.openStream provider modelId maxTokens)) (h : ChatHandler) (user : ChatUser)
    (r : InternalChatRequest) : (h.streamFrom user r provider modelId maxTokens).Stays P fun _ => True := by
  have hsave : ∀ row, P (.saveRequest row) := fun _ => hP _ rfl rfl
  refine stays_bind (stays_orSaveFailed hsave (stays_consumeStream hP hopen h r)) ?_
  rintro ⟨byok, st, ended⟩
  refine stays_orSaveFailed hsave ?_
  cases ended with
  | ok a => exact stays_settleStream hP h user r provider modelId byok st
  | error e => trivial

end Stream

section Streams

variable {P : ChatStmt → Prop} (hP : ∀ s : ChatStmt, s.ofAttempt → P s)
include hP

theorem stays_processStream (h : ChatHandler) (r : InternalChatRequest) :
    (h.processStream r).Stays P fun _ => True := by
  have hsave : ∀ row, P (.saveRequest row) := fun _ => hP _ rfl
  refine stays_bind (stays_orSaveFailed hsave (stays_initializeUserContext (hP _ rfl))) fun user => ?_
  refine stays_bind (stays_orSaveFailed hsave (stays_selectForStream (fun _ _ => hP _ rfl) (hP _ rfl) (hP _ rfl))) ?_
  rintro ⟨maxTokens, provider, registered⟩
  refine stays_bind ?_ fun modelId => stays_streamFrom (fun s hs _ => hP s hs) (hP _ rfl) h user r
  cases registered with
  | some modelId => trivial
  | none => exact stays_orSaveFailed hsave (stays_call (hP _ rfl))

theorem stays_fromInternalStream {stream : ChatProg Unit} (hstream : stream.Stays P fun _ => True) :
    (fromInternalStream stream).Stays P fun _ => True := by
  have hconsumed : (stream.within sseConsumer ()).Stays P fun _ => True := by
    refine stays_within (fun _ _ hs _ => hs) (fun t s t' body hs => ?_) hstream ()
    unfold sseConsumer at hs
    split at hs
    · cases hs
      exact stays_call (hP _ rfl)
    · cases hs
  refine stays_exceptException (stays_bind hconsumed ?_) fun e => ?_
  · rintro ⟨_, ended⟩
    cases ended with
    | ok a => exact stays_call (hP _ rfl)
    | error e => trivial
  · exact stays_bind (stays_call (hP _ rfl)) fun _ => stays_call (hP _ rfl)

theorem stays_streamingAttempt (d : DispatchParams) (provider : String) :
    (streamingAttempt d provider).Stays P fun _ => True := by
  refine stays_bind (stays_toInternalRequest (beforeCharge_of hP) d true provider) fun r => ?_
  refine stays_bind (stays_newHandler (hP _ rfl)) fun h => ?_
  exact stays_fromInternalStream hP (stays_processStream hP h r)

theorem stays_authStreamAttempts (d : DispatchParams) (chain : List String) (lastExc : Option Exc) :
    (authStreamAttempts d chain lastExc).Stays P fun _ => True := by
  induction chain generalizing lastExc with
  | nil => cases lastExc <;> trivial
  | cons provider rest ih =>
    have hconsumed : ((streamingAttempt d provider).within clientConsumer false).Stays P fun _ => True := by
      refine stays_within (fun _ _ hs _ => hs) (fun t s t' body hs => ?_) (stays_streamingAttempt hP d provider) false
      unfold clientConsumer at hs
      split at hs
      · cases hs
        exact stays_call (hP _ rfl)
      · cases hs
    refine stays_bind hconsumed ?_
    rintro ⟨contentStarted, ended⟩
    rcases ended with (e | - | -) | a
    · dsimp only
      repeat' split
      all_goals first | exact ih _ | trivial
    · trivial
    · trivial
    · trivial

end Streams

/-! ## What the route is made of -/

/-- The steps of the checks before the dispatch, but for the rate limiter's. -/
def ChatStmt.ofGates : ChatStmt → Bool
  | .getUser _ => true
  | .getApiKeyId _ => true
  | .validateTrialAccess _ => true
  | .task .subscriptionStatusGate => true
  | .task .rateLimitAlert => true
  | .task .resolveModelRouting => true
  | .isFreeModel _ => true
  | .enforcePlanLimits _ _ _ => true
  | .estimateAndCheckCredits _ _ => true
  | .getModelPricing _ => true
  | .injectConversationHistory _ _ => true
  | .prepareUpstreamRequest _ => true
  | .webSearch _ => true
  | _ => false

/-- The rate limiter's, but for the slot. -/
def ChatStmt.ofLimiter : ChatStmt → Bool
  | .cachedRateLimit _ _ => true
  | .isAdminKey _ => true
  | .concurrencyAvailable _ => true
  | .burstAvailable _ _ => true
  | .windowRefusal _ _ _ => true
  | _ => false

section Gates

variable {P : ChatStmt → Prop} {F : ChatErr → Prop} (hP : ∀ s : ChatStmt, s.ofGates → P s)
include hP

theorem stays_requirePlanLimits [HasExceptions F] (user : ChatUser) (tokens : Nat) : (requirePlanLimits user tokens).Stays P F := by
  refine stays_bind (stays_call (hP _ rfl)) fun plan => ?_
  split
  · trivial
  · exact stays_raise _

theorem stays_validateTrial [HasExceptions F] (trial : TrialStatus) (model : String) :
    (validateTrialWithFreeModelBypass trial model).Stays P F := by
  refine stays_bind (stays_call (hP _ rfl)) fun free => ?_
  repeat' split
  all_goals first | trivial | exact stays_raise _

variable (req : ChatRequest)

theorem stays_requireCredits [HasExceptions F] (user : ChatUser) (model : String) :
    (requireCredits req user model).Stays P F := by
  refine stays_bind (stays_call (hP _ rfl)) fun free => ?_
  split
  · trivial
  · split
    · exact stays_raise _
    · refine stays_bind (stays_call (hP _ rfl)) fun result => ?_
      cases result with
      | insufficient cost => exact stays_raise _
      | sufficient cost => trivial
      | capped cost tokens => trivial

theorem stays_requirePricing [HasExceptions F] (model : String) : (requirePricing model).Stays P F := by
  refine stays_exceptException (stays_bind (stays_call (hP _ rfl)) fun _ => trivial) fun e => ?_
  split <;> exact stays_raise _

theorem stays_requireFunds [HasExceptions F] (a : Admission) (model : String) :
    (requireFunds req a model).Stays P F := by
  unfold requireFunds
  split
  · trivial
  · exact stays_bind (stays_requireCredits hP req a.user model) fun _ => stays_requirePricing hP model

theorem stays_prepare [HasExceptions F] (a : Admission) (model : String) : (prepare req a model).Stays P F := by
  refine stays_bind (stays_requireFunds hP req a model) fun _ => ?_
  refine stays_bind (stays_requirePlanLimits hP _ _) fun _ => ?_
  refine stays_bind (stays_exceptException (stays_call (hP _ rfl)) fun _ => trivial) fun ⟨messages, sessionId⟩ => ?_
  refine stays_bind (stays_requirePlanLimits hP _ _) fun _ => ?_
  refine stays_bind (stays_call (hP _ rfl)) fun _ => ?_
  refine stays_bind (stays_call (hP _ rfl)) fun plan => ?_
  exact stays_bind (stays_exceptException (stays_call (hP _ rfl)) fun _ => trivial) fun _ => trivial

end Gates

section Limiter

variable {P : ChatStmt → Prop} {F : ChatErr → Prop} (hP : ∀ s : ChatStmt, s.ofLimiter → P s)
variable {apiKey : String} {acquire : Bool} (hslot : acquire = true → P (.incrementConcurrentRequests apiKey))
include hP hslot

variable (tokensUsed : Nat)

theorem stays_slidingWindowCheck (countRequest : Bool) :
    (slidingWindowCheck apiKey tokensUsed acquire countRequest).Stays P F := by
  refine stays_exceptException (stays_bind (stays_call (hP _ rfl)) fun free => ?_) fun e => trivial
  split
  · trivial
  · refine stays_bind (stays_call (hP _ rfl)) fun burst => ?_
    split
    · trivial
    · refine stays_bind (stays_call (hP _ rfl)) fun refusal => ?_
      cases refusal with
      | some reason => trivial
      | none =>
        refine stays_bind ?_ fun _ => trivial
        cases acquire with
        | false => trivial
        | true => exact stays_call (hslot rfl)

theorem stays_uncachedRateLimit (countRequest : Bool) :
    (uncachedRateLimit apiKey tokensUsed acquire countRequest).Stays P F := by
  refine stays_bind (stays_exceptException (stays_call (hP _ rfl)) fun _ => trivial) fun admin => ?_
  split
  · trivial
  · exact stays_slidingWindowCheck hP hslot tokensUsed countRequest

theorem stays_checkRateLimit (countRequest : Bool) :
    (checkRateLimit apiKey tokensUsed acquire countRequest).Stays P F := by
  unfold checkRateLimit
  split
  · refine stays_bind (stays_call (hP _ rfl)) fun cached => ?_
    cases cached with
    | some result => trivial
    | none => exact stays_uncachedRateLimit hP hslot tokensUsed countRequest
  · exact stays_uncachedRateLimit hP hslot tokensUsed countRequest

theorem stays_requireRateLimit [HasExceptions F] (halert : P (.task .rateLimitAlert)) (tokensUsed : Nat)
    (countRequest : Bool) : (requireRateLimit apiKey tokensUsed acquire countRequest).Stays P F := by
  refine stays_bind (stays_checkRateLimit hP hslot tokensUsed countRequest) fun limit => ?_
  split
  · trivial
  · exact stays_bind (stays_call halert) fun _ => stays_raise _

end Limiter

section Admission

variable {P : ChatStmt → Prop} {F : ChatErr → Prop}

theorem stays_admission [HasExceptions F] (hP : ∀ s : ChatStmt, s.ofGates → P s) (hL : ∀ s : ChatStmt, s.ofLimiter → P s)
    (config : ChatConfig) (apiKey model : String) (hslot : P (.incrementConcurrentRequests apiKey)) :
    (admission config apiKey model).Stays P F := by
  refine stays_bind (stays_call (hP _ rfl)) fun found => ?_
  refine stays_bind (stays_call (hP _ rfl)) fun apiKeyId => ?_
  refine stays_bind (stays_call (hP _ rfl)) fun trial => ?_
  cases found with
  | none => exact stays_raise _
  | some user =>
    refine stays_bind (stays_call (hP _ rfl)) fun _ => ?_
    refine stays_bind (stays_validateTrial hP trial model) fun trial => ?_
    refine stays_bind (stays_requirePlanLimits hP user 0) fun _ => ?_
    refine stays_bind (stays_requirePlanLimits hP user 0) fun _ => ?_
    split
    · trivial
    · exact stays_bind (stays_requireRateLimit hL (fun _ => hslot) (hP _ rfl) 0 true) fun _ => trivial

end Admission

/-- The steps of `handle_credits_and_usage`. -/
def ChatStmt.ofUsage : ChatStmt → Bool
  | .calculateCostAsync _ _ _ => true
  | .task .logTrialTransaction => true
  | .task .updateRateLimitUsage => true
  | .recordShadowSettlement _ => true
  | _ => false

/-- The steps of the third part, but for the rate limiter's. -/
def ChatStmt.ofFinish (s : ChatStmt) : Bool :=
  s.ofUsage ||
    match s with
    | .task .rateLimitAlert => true
    | .task .incrementApiKeyUsage => true
    | .task .inferenceMetricsAndHealth => true
    | .task .logActivity => true
    | .task .persistConversationTurn => true
    | .getModelPricing _ => true
    | .saveRequest _ => true
    | _ => false

section Finish

variable {P : ChatStmt → Prop} {F : ChatErr → Prop}

theorem stays_handleCreditsAndUsage (hP : ∀ s : ChatStmt, s.ofUsage → P s) (config : ChatConfig) (user : ChatUser) (model : String)
    (trial : TrialStatus) (usage : InternalUsage) (requestId : String) :
    (handleCreditsAndUsage config user model trial usage requestId).Stays P F := by
  refine stays_bind (stays_call (hP _ rfl)) fun cost => ?_
  split
  · exact stays_bind (stays_quietly (stays_call (hP _ rfl))) fun _ => trivial
  · refine stays_bind (stays_quietly (stays_call (hP _ rfl))) fun _ => ?_
    refine stays_bind (stays_onlyIf (stays_quietly ?_)) fun _ => trivial
    exact stays_bind (stays_call (hP _ rfl)) fun _ => trivial

theorem stays_analyticsCosts [HasExceptions F] (hP : P (.getModelPricing model)) (usage : InternalUsage) :
    (analyticsCosts model usage).Stays P F := by
  refine stays_exceptException (stays_bind (stays_call hP) fun _ => trivial) fun e => ?_
  split
  · trivial
  · exact stays_raise _

theorem stays_finish [HasExceptions F] (hP : ∀ s : ChatStmt, s.ofFinish → P s) (hL : ∀ s : ChatStmt, s.ofLimiter → P s)
    (config : ChatConfig) (apiKey : String) (a : Admission) (requestId : String) (processed : InternalChatResponse)
    (sessionId : Option Int) : (finish config apiKey a requestId processed sessionId).Stays P F := by
  have hno : false = true → P (.incrementConcurrentRequests apiKey) := nofun
  have husage : ∀ s : ChatStmt, s.ofUsage → P s := fun s hs => hP s (Bool.or_eq_true_iff.mpr (.inl hs))
  refine stays_bind (stays_onlyIf (stays_requireRateLimit hL hno (hP _ rfl) _ _)) fun _ => ?_
  refine stays_bind (stays_handleCreditsAndUsage husage config a.user _ _ _ _) fun cost => ?_
  refine stays_bind (stays_quietly (stays_call (hP _ rfl))) fun _ => ?_
  refine stays_bind (stays_quietly (stays_call (hP _ rfl))) fun _ => ?_
  refine stays_bind (stays_quietly (stays_call (hP _ rfl))) fun _ => ?_
  refine stays_bind (stays_onlyIf (stays_quietly (stays_call (hP _ rfl)))) fun _ => ?_
  exact stays_bind (stays_analyticsCosts (hP _ rfl) _) fun costs => stays_bind (stays_call (hP _ rfl)) fun _ => trivial

end Finish

end Gatewayz
