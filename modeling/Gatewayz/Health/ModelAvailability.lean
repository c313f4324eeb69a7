import Gatewayz.Exec.Dictionary
import Mathlib.Data.Rat.Floor

/-!
# `Health.ModelAvailability` — which models are available

`services/model_availability.py`. The health monitor has a result for each model, time after time; `_update_model_availability`
records it in the circuit breaker of the model, and **copies** the state of the breaker into the record that `is_model_available`
reads. Reports to the error tracker are left out.
-/

namespace Gatewayz.Availability

open Exec

/-! ## The breaker -/

inductive CircuitBreakerState where
  | closed
  | opened
  | halfOpen
  deriving DecidableEq

/-- `AvailabilityConfig`, as far as it is read here. -/
structure AvailabilityConfig where
  failureThreshold : ℕ := 5
  recoveryTimeout : ℕ := 300
  successThreshold : ℕ := 3

structure CircuitBreaker where
  failureThreshold : ℕ := 5
  recoveryTimeout : ℕ := 300
  successThreshold : ℕ := 3
  slowResponseThreshold : ℚ := 30
  slowResponseLimit : ℕ := 3
  failureCount : ℕ := 0
  successCount : ℕ := 0
  slowResponseCount : ℕ := 0
  lastFailureTime : Option ℚ := none
  state : CircuitBreakerState := .closed

namespace CircuitBreaker

variable (b : CircuitBreaker)

/-- `can_execute`. Only here an open circuit becomes half open. -/
def canExecute (now : ℚ) : Bool × CircuitBreaker :=
  match b.state with
  | .closed | .halfOpen => (true, b)
  | .opened =>
    if (b.lastFailureTime.filter (· ≠ 0)).any fun last => b.recoveryTimeout < now - last then
      (true, { b with state := .halfOpen, successCount := 0 })
    else (false, b)

def isSlow (responseTime : Option ℚ) : Bool := (responseTime.filter (· ≠ 0)).any fun t => b.slowResponseThreshold < t

/-- How many responses in a row were slow, with this one. -/
def slowResponses (responseTime : Option ℚ) : ℕ := if b.isSlow responseTime then b.slowResponseCount + 1 else 0

def recordSuccess (responseTime : Option ℚ) (now : ℚ) : CircuitBreaker :=
  if b.state = .halfOpen then
    let b := { b with successCount := b.successCount + 1 }
    if b.successThreshold ≤ b.successCount then { b with state := .closed, failureCount := 0, slowResponseCount := 0 } else b
  else
    let count := b.slowResponses responseTime
    if b.isSlow responseTime && b.slowResponseLimit ≤ count then
      { b with slowResponseCount := count, state := .opened, lastFailureTime := some now }
    else if b.state = .closed then { b with slowResponseCount := count, failureCount := b.failureCount - 1 }
    else { b with slowResponseCount := count }

def recordFailure (now : ℚ) : CircuitBreaker :=
  let b := { b with failureCount := b.failureCount + 1, slowResponseCount := 0, lastFailureTime := some now }
  if b.failureThreshold ≤ b.failureCount then { b with state := .opened }
  else if b.state = .halfOpen then { b with state := .opened }
  else b

end CircuitBreaker

/-! ## The service -/

inductive HealthStatus where
  | healthy
  | degraded
  | unhealthy
  | unknown
  | maintenance
  deriving DecidableEq

inductive AvailabilityStatus where
  | available
  | unavailable
  | degraded
  | maintenance
  | unknown
  deriving DecidableEq

/-- `ModelHealthMetrics`, as far as it is read here. -/
structure ModelHealth where
  modelId : String
  provider : String
  gateway : String
  status : HealthStatus
  responseTimeMs : Option ℚ := none
  successRate : ℚ := 0
  errorCount : ℕ := 0
  errorMessage : Option String := none

structure ModelAvailability where
  modelId : String
  provider : String
  gateway : String
  status : AvailabilityStatus
  lastChecked : ℚ
  successRate : ℚ
  responseTimeMs : Option ℚ
  errorCount : ℕ
  circuitBreakerState : CircuitBreakerState
  fallbackModels : List String
  maintenanceUntil : Option ℚ := none
  errorMessage : Option String := none

structure ModelAvailabilityService where
  config : AvailabilityConfig := {}
  fallbackMappings : String → List String := fun _ => []
  availabilityCache : List (String × ModelAvailability) := []
  circuitBreakers : List (String × CircuitBreaker) := []

/-- The status of a result. -/
def HealthStatus.availability : HealthStatus → AvailabilityStatus
  | healthy => .available
  | degraded => .degraded
  | unhealthy => .unavailable
  | unknown | maintenance => .unknown

def modelKey (gateway modelId : String) : String := gateway ++ ":" ++ modelId

def ModelHealth.responseTimeSeconds (r : ModelHealth) : Option ℚ := (r.responseTimeMs.filter (· ≠ 0)).map (· / 1000)

def CircuitBreaker.record (b : CircuitBreaker) (r : ModelHealth) (now : ℚ) : CircuitBreaker :=
  if r.status.availability = .available then b.recordSuccess r.responseTimeSeconds now else b.recordFailure now

namespace ModelAvailabilityService

variable (s : ModelAvailabilityService)

/-- The breaker of a model that has none yet. -/
def newBreaker : CircuitBreaker where
  failureThreshold := s.config.failureThreshold
  recoveryTimeout := s.config.recoveryTimeout
  successThreshold := s.config.successThreshold

def updateModelAvailability (r : ModelHealth) (now : ℚ) : ModelAvailabilityService :=
  let key := modelKey r.gateway r.modelId
  let breaker := ((s.circuitBreakers.lookup key).getD s.newBreaker).record r now
  let availability : ModelAvailability :=
    { modelId := r.modelId, provider := r.provider, gateway := r.gateway, status := r.status.availability, lastChecked := now,
      successRate := r.successRate, responseTimeMs := r.responseTimeMs, errorCount := r.errorCount,
      circuitBreakerState := breaker.state, fallbackModels := s.fallbackMappings r.modelId, errorMessage := r.errorMessage }
  { s with
    circuitBreakers := Dictionary.put s.circuitBreakers key breaker,
    availabilityCache := Dictionary.put s.availabilityCache key availability }

def getModelAvailability (modelId : String) (gateway : Option String) : Option ModelAvailability :=
  match gateway.filter (· ≠ "") with
  | some gateway => s.availabilityCache.lookup (modelKey gateway modelId)
  | none => (s.availabilityCache.find? fun e => e.2.modelId = modelId).map Prod.snd

def isModelAvailable (modelId : String) (gateway : Option String) (now : ℚ) : Bool :=
  match s.getModelAvailability modelId gateway with
  | none => true
  | some availability =>
    if availability.circuitBreakerState = .opened then false
    else if availability.maintenanceUntil.any fun t => now < t then false
    else availability.status = .available

/-- `set_maintenance_mode`. A model without a record has no maintenance. -/
def setMaintenanceMode (modelId gateway : String) (untilTime : ℚ) : ModelAvailabilityService :=
  { s with
    availabilityCache := Dictionary.adjust s.availabilityCache (modelKey gateway modelId) fun availability =>
      { availability with maintenanceUntil := some untilTime, status := .maintenance } }

/-- `clear_maintenance_mode`. The status is left to the next result. -/
def clearMaintenanceMode (modelId gateway : String) : ModelAvailabilityService :=
  { s with
    availabilityCache := Dictionary.adjust s.availabilityCache (modelKey gateway modelId) fun availability =>
      { availability with maintenanceUntil := none } }

def feed (results : List (ModelHealth × ℚ)) : ModelAvailabilityService :=
  results.foldl (fun s r => s.updateModelAvailability r.1 r.2) s

end ModelAvailabilityService

end Gatewayz.Availability
