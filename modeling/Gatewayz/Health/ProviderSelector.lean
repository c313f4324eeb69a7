import Gatewayz.Exec.Machine
import Mathlib.Data.Rat.Floor

/-!
# `Health.ProviderSelector` — failover, and who is disabled

A model of the multi-provider registry has several providers. `execute_with_failover` tries them one after the other. Who fails too
often is disabled, twice: in the `ProviderHealthTracker`, for some time, and in the registry, by the flag `enabled` of its
configuration.
-/

namespace Gatewayz.Selector

open Exec

/-! ## The registry -/

structure ProviderConfig where
  name : String
  modelId : String
  priority : ℕ := 1
  costPer1kInput : Option ℚ := none
  enabled : Bool := true
  features : List String := []
  deriving DecidableEq

/-- The providers of the models, each model's in the order of their priority. -/
abbrev Registry := String → Option (List ProviderConfig)

/-- `get_enabled_providers` -/
def enabledProviders (providers : List ProviderConfig) : List ProviderConfig := providers.filter ProviderConfig.enabled

/-- The first provider of a name is disabled: `get_provider_by_name`, and its flag. -/
def disableFirst (name : String) : List ProviderConfig → List ProviderConfig
  | [] => []
  | p :: ps => if p.name = name then { p with enabled := false } :: ps else p :: disableFirst name ps

namespace Registry

variable (registry : Registry)

def selectProvider (modelId : String) (preferredProvider : Option String) (requiredFeatures : List String) (maxCost : Option ℚ) :
    Option ProviderConfig :=
  match registry modelId with
  | none => none
  | some providers =>
    let candidates := (enabledProviders providers).filter fun p => requiredFeatures.all fun f => p.features.contains f
    let candidates := candidates.filter fun p => maxCost.all fun most => p.costPer1kInput.all fun cost => cost ≤ most
    match preferredProvider.filter (· ≠ "") with
    | some preferred => (candidates.find? fun p => p.name = preferred).or candidates.head?
    | none => candidates.head?

/-- `get_fallback_providers` -/
def fallbackProviders (modelId : String) (excludeProvider : String) : List ProviderConfig :=
  let providers := enabledProviders ((registry modelId).getD [])
  if excludeProvider = "" then providers else providers.filter fun p => p.name ≠ excludeProvider

def disableProvider (modelId providerName : String) : Registry :=
  Function.update registry modelId ((registry modelId).map (disableFirst providerName))

end Registry

/-! ## The tracker -/

structure ProviderHealthTracker where
  failureThreshold : ℕ := 5
  timeoutSeconds : ℕ := 300
  failures : String → String → ℕ := fun _ _ => 0
  disabledUntil : String → String → Option ℚ := fun _ _ => none

def assign {V : Type} (f : String → String → V) (modelId providerName : String) (v : V) : String → String → V :=
  Function.update f modelId (Function.update (f modelId) providerName v)

namespace ProviderHealthTracker

variable (tracker : ProviderHealthTracker) (modelId providerName : String) (now : ℚ)

def recordSuccess : ProviderHealthTracker :=
  { tracker with
    failures := assign tracker.failures modelId providerName 0, disabledUntil := assign tracker.disabledUntil modelId providerName none }

/-- `record_failure`, and whether the provider should be disabled. -/
def recordFailure : Bool × ProviderHealthTracker :=
  let failureCount := tracker.failures modelId providerName + 1
  let tracker := { tracker with failures := assign tracker.failures modelId providerName failureCount }
  if tracker.failureThreshold ≤ failureCount then
    (true, { tracker with disabledUntil := assign tracker.disabledUntil modelId providerName (some (now + tracker.timeoutSeconds)) })
  else (false, tracker)

def isAvailable : Bool × ProviderHealthTracker :=
  match tracker.disabledUntil modelId providerName with
  | none => (true, tracker)
  | some disabledUntil => if disabledUntil ≤ now then (true, tracker.recordSuccess modelId providerName) else (false, tracker)

/-- Who is available, one after the other. -/
def available : List ProviderConfig → ProviderHealthTracker → List ProviderConfig × ProviderHealthTracker
  | [], tracker => ([], tracker)
  | p :: ps, tracker =>
    let (isAvailable, tracker) := tracker.isAvailable modelId p.name now
    let (rest, tracker) := available ps tracker
    (if isAvailable then p :: rest else rest, tracker)

end ProviderHealthTracker

/-! ## The selector -/

structure ProviderSelector where
  registry : Registry
  healthTracker : ProviderHealthTracker := {}

/-- A call of `execute_with_failover`: when it begins, what each attempt brings, and when. -/
structure FailoverCall (R : Type) where
  modelId : String
  preferredProvider : Option String := none
  requiredFeatures : List String := []
  maxRetries : ℤ := 3
  start : ℚ
  executeFn : ℕ → String → String → Except String R
  finished : ℕ → ℚ

/-- An entry of `attempts`. -/
structure Attempt where
  provider : String
  modelId : String
  priority : ℕ
  attemptNumber : ℕ
  success : Bool
  durationMs : Option ℕ := none
  error : Option String := none

structure FailoverResult (R : Type) where
  success : Bool
  response : Option R := none
  provider : Option String := none
  providerModelId : Option String := none
  error : Option String := none
  attempts : List Attempt := []

/-- `xs[:k]` -/
def slice {α : Type} (xs : List α) (k : ℤ) : List α := if 0 ≤ k then xs.take k.toNat else xs.take (xs.length - (-k).toNat)

namespace ProviderSelector

variable {R : Type}

/-- A failure is recorded; the provider may be disabled. -/
def recordFailure (s : ProviderSelector) (modelId providerName : String) (now : ℚ) : ProviderSelector :=
  let (shouldDisable, tracker) := s.healthTracker.recordFailure modelId providerName now
  { s with
    healthTracker := tracker, registry := if shouldDisable then s.registry.disableProvider modelId providerName else s.registry }

/-- The providers are tried in order. -/
def tryProviders (call : FailoverCall R) :
    ℕ → List ProviderConfig → ProviderSelector → List Attempt → String → FailoverResult R × ProviderSelector
  | _, [], s, attempts, lastError =>
    ({ success := false, error := some ("All providers failed. Last error: " ++ lastError), attempts := attempts }, s)
  | i, provider :: rest, s, attempts, _ =>
    match call.executeFn i provider.name provider.modelId with
    | .ok response =>
      ({ success := true, response := some response, provider := some provider.name, providerModelId := some provider.modelId,
         attempts := attempts ++
          [{ provider := provider.name, modelId := provider.modelId, priority := provider.priority, attemptNumber := i + 1,
             success := true, durationMs := some 0 }] },
        { s with healthTracker := s.healthTracker.recordSuccess call.modelId provider.name })
    | .error error =>
      tryProviders call (i + 1) rest (s.recordFailure call.modelId provider.name (call.finished i))
        (attempts ++
          [{ provider := provider.name, modelId := provider.modelId, priority := provider.priority, attemptNumber := i + 1,
             success := false, error := some error }])
        error

def executeWithFailover (s : ProviderSelector) (call : FailoverCall R) : FailoverResult R × ProviderSelector :=
  match s.registry call.modelId with
  | none => ({ success := false, error := some ("Model " ++ call.modelId ++ " not found in multi-provider registry") }, s)
  | some _ =>
    match s.registry.selectProvider call.modelId call.preferredProvider call.requiredFeatures none with
    | none => ({ success := false, error := some ("No suitable provider found for " ++ call.modelId) }, s)
    | some primary =>
      let fallbacks := s.registry.fallbackProviders call.modelId primary.name
      let (providersToTry, tracker) :=
        ProviderHealthTracker.available call.modelId call.start (primary :: slice fallbacks (call.maxRetries - 1)) s.healthTracker
      let s := { s with healthTracker := tracker }
      if providersToTry = [] then
        ({ success := false,
           error := some ("All providers for " ++ call.modelId ++ " are currently unavailable (circuit breakers open)") }, s)
      else tryProviders call 0 providersToTry s [] "None"

end ProviderSelector

/-- Calls, one after the other, from a selector on. -/
def failoverMachine (R : Type) (start : ProviderSelector) : Machine ProviderSelector (FailoverCall R) (FailoverResult R) where
  init := start
  step := fun s call => some ((s.executeWithFailover call).2, (s.executeWithFailover call).1)

end Gatewayz.Selector
