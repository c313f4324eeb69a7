import Gatewayz.Chat.Anonymous
import Gatewayz.Chat.Providers
import Gatewayz.Exec.GrowingList

/-!
# `Chat.AnonymousFailover` — the anonymous loops of `routes/chat_dispatch.py`, over a chain that grows

An anonymous request is tried with one provider of its chain after the other. After a 402 at the end of the chain both dispatchers build
the chain again, for payment failover, and append what is new in it to the list they iterate over.

The two loops are one (`AnonymousDispatch.loop`). They differ in what an attempt is, and in the variable `provider` that the extension
reads: it is a parameter of `dispatch_non_streaming`, while `dispatch_streaming` assigns it once a stream is open.
-/

namespace Gatewayz

open Exec

/-! ## The rules, with payment failover -/

namespace Routing

variable (s : Routing)

/-- `enforce_model_failover_rules`, all of it. OpenRouter's circuit breaker, if it can be read, is open or not. -/
def enforceFailoverRules (openrouterOpen : Option Bool) (modelId : String) (chain : List String) (allowPaymentFailover : Bool) :
    List String :=
  if modelId = "" then chain
  else
    let normalized := lower (applyModelAlias s.aliases modelId)
    let locked := (suffixOf normalized).any openrouterSuffixLocks.contains
    if locked ∧ chain.contains "openrouter" then ["openrouter"]
    else
      match nativeProviderPrefixes.find? fun native => startsWith native.1 normalized with
      | some (_, native, others) =>
        let filtered := chain.filter fun p => (native :: others).contains p
        if filtered = [] then chain else nativeFirst native filtered
      | none =>
        if allowPaymentFailover then
          if locked ∧ chain.contains "openrouter" then ["openrouter"]
          else if startsWith "openrouter/" normalized ∧ chain.contains "openrouter" then ["openrouter"]
          else chain
        else if startsWith "openrouter/" normalized then
          if chain.contains "openrouter" then ["openrouter"] else chain
        else if locked ∧ chain.contains "openrouter" then
          if suffixOf normalized = some "free" ∧ openrouterOpen = some true then chain else ["openrouter"]
        else chain

/-- The flag makes no difference, nor does the circuit breaker: the first check has answered for the models that they are about. -/
theorem enforceFailoverRules_eq (openrouterOpen : Option Bool) (modelId : String) (chain : List String) (allowPaymentFailover : Bool) :
    s.enforceFailoverRules openrouterOpen modelId chain allowPaymentFailover = s.enforceModelFailoverRules modelId chain := by
  unfold enforceFailoverRules enforceModelFailoverRules
  by_cases hmodel : modelId = ""
  · rw [if_pos hmodel, if_pos hmodel]
  rw [if_neg hmodel, if_neg hmodel]
  dsimp only
  split
  · rfl
  · cases nativeProviderPrefixes.find? fun native => startsWith native.1 (lower (applyModelAlias s.aliases modelId)) with
    | some native => rfl
    | none =>
      cases allowPaymentFailover with
      | true => rfl
      | false =>
        simp only [Bool.false_eq_true, if_false]
        by_cases hopenrouter : startsWith "openrouter/" (lower (applyModelAlias s.aliases modelId)) = true
        · simp [hopenrouter]
        · simp [hopenrouter]

end Routing

/-! ## Attempts -/

inductive ProviderAttempt (ρ : Type) where
  | answered (answer : ρ)
  /-- An exception; was the variable `provider` assigned before it? -/
  | failed (e : Exc) (assigned : Bool)

/-- What opening a stream for a provider, and making a response of it, comes to. -/
structure StreamCalls (σ : Type) where
  /-- The provider's own function in `PROVIDER_ROUTING`. -/
  stream : String → String → Except Exc σ
  openrouterAsync : String → String → Except Exc σ
  openrouter : String → String → Except Exc σ
  headers : String → String → Except Exc Unit

/-- A response that streams: the stream, whether it is an asynchronous one, and where it is from. -/
structure StreamResponse (σ : Type) where
  stream : σ
  isAsyncStream : Bool
  provider : String
  model : String

/-- The stream of a provider: OpenRouter's, if the provider has no function of its own. -/
def StreamCalls.openStream {σ : Type} (calls : StreamCalls σ) (routed : List String) (provider model : String) :
    Except Exc (σ × Bool) :=
  if routed.contains provider then (calls.stream provider model).map fun stream => (stream, false)
  else
    match calls.openrouterAsync provider model with
    | .ok stream => .ok (stream, true)
    | .error _ => (calls.openrouter provider model).map fun stream => (stream, false)

/-- The `try` of `dispatch_streaming`. -/
def StreamCalls.attempt {σ : Type} (calls : StreamCalls σ) (routed : List String) (provider model : String) :
    ProviderAttempt (StreamResponse σ) :=
  match calls.openStream routed provider model with
  | .error e => .failed e false
  | .ok (stream, isAsyncStream) =>
    match calls.headers provider model with
    | .error e => .failed e true
    | .ok () => .answered ⟨stream, isAsyncStream, provider, model⟩

/-- What a request to a provider, in one piece, comes to. A provider without functions of its own has OpenRouter's. -/
structure RequestCalls (τ υ : Type) where
  request : (provider client model : String) → Except Exc τ
  process : (provider client : String) → τ → Except Exc υ
  /-- The cost and the attributes of the trace. -/
  trace : (provider model : String) → υ → Except Exc Unit

/-- The `try` of `dispatch_non_streaming`, which assigns `provider` last. -/
def RequestCalls.attempt {τ υ : Type} (calls : RequestCalls τ υ) (routed : List String) (provider model : String) :
    ProviderAttempt (υ × String × String) :=
  let client := if routed.contains provider then provider else "openrouter"
  let processed : Except Exc υ := do
    let raw ← calls.request provider client model
    let processed ← calls.process provider client raw
    calls.trace provider model processed
    pure processed
  match processed with
  | .error e => .failed e false
  | .ok processed => .answered (processed, provider, model)

/-! ## The loops -/

/-- What both loops read. Circuit breakers open and close while a loop is under way: they are as they are after an attempt. -/
structure AnonymousDispatch where
  registry : Routing
  modelAvailable : Nat → String → String → Option Bool
  openrouterOpen : Nat → Option Bool
  originalModel : String
  transformModelId : String → String → String

structure FailoverLocals where
  provider : Option String
  lastHttpExc : Option Exc := none

namespace AnonymousDispatch

variable (d : AnonymousDispatch)

/-- The providers that the extended chain has, after the given attempt. -/
def extendedChain (idx : Nat) (provider : String) : List String :=
  { d.registry with modelAvailable := d.modelAvailable idx }.filterByCircuitBreaker d.originalModel
    (d.registry.enforceFailoverRules (d.openrouterOpen idx) d.originalModel (d.registry.buildProviderFailoverChain provider) true)

def newProviders (idx : Nat) (provider : String) (chain : List String) : List String :=
  (d.extendedChain idx provider).filter fun p => !(chain.contains p)

/-- `map_provider_error`, for the provider's name of the model. -/
def httpExc (provider : String) (e : Exc) : Exc := mapProviderError provider (d.transformModelId d.originalModel provider) e

/-- `HTTPException(status_code=502, detail="Upstream error")` -/
def upstreamError : Exc := .httpException 502 "Upstream error"

/-- The body of the loop. `_maybe_record_402` never raises, and nobody here reads what it records. -/
def body {ρ : Type} (attempt : String → String → ProviderAttempt ρ) (idx : Nat) (chain : List String) (attemptProvider : String)
    (locals : FailoverLocals) : Iteration String FailoverLocals (Except Exc ρ) :=
  match attempt attemptProvider (d.transformModelId d.originalModel attemptProvider) with
  | .answered answer => .leave (.ok answer)
  | .failed e assigned =>
    let provider := if assigned then some attemptProvider else locals.provider
    let httpExc := d.httpExc attemptProvider e
    if idx + 1 < chain.length ∧ shouldFailover httpExc then .next [] ⟨provider, some httpExc⟩
    else if Anon.isPaymentRequired httpExc ∧ idx + 1 = chain.length then
      match provider with
      | none => .leave (.error Anon.unboundProvider)
      | some provider =>
        let newProviders := d.newProviders idx provider chain
        if newProviders = [] then .leave (.error httpExc) else .next newProviders ⟨some provider, some httpExc⟩
    else .leave (.error httpExc)

def loop {ρ : Type} (attempt : String → String → ProviderAttempt ρ) : GrowingLoop String FailoverLocals (Except Exc ρ) where
  body := d.body attempt
  finish := fun locals => .error (locals.lastHttpExc.getD upstreamError)

/-- `dispatch_streaming`, for an anonymous client: the providers tried, and the response or what is raised. -/
def dispatchStreaming {σ : Type} (calls : StreamCalls σ) (fuel : Nat) (chain : List String) :
    Option (List String × Except Exc (StreamResponse σ)) :=
  (d.loop (calls.attempt d.registry.providerRouting)).run fuel chain 0 { provider := none }

/-- `dispatch_non_streaming`, for an anonymous client. -/
def dispatchNonStreaming {τ υ : Type} (calls : RequestCalls τ υ) (provider : String) (fuel : Nat) (chain : List String) :
    Option (List String × Except Exc (υ × String × String)) :=
  (d.loop (calls.attempt d.registry.providerRouting)).run fuel chain 0 { provider := some provider }

end AnonymousDispatch

end Gatewayz
