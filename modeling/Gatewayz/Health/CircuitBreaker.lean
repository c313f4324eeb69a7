import Gatewayz.Exec.Machine
import Mathlib.Data.Rat.Floor

/-!
# `Health.CircuitBreaker` — the circuit breaker of a provider

`services/circuit_breaker.py`. Every worker process has a breaker of its own for a provider, in memory; what is to be shared of it,
the `Circuit`, is in Redis. `_check_should_attempt` loads it, and then decides. `_record_success` and `_record_failure` **do not load**:
they change the copy in memory, and save that.

A worker holds the lock of its breaker while it has something to save. What another worker does meanwhile is another event
(`workersMachine`).
-/

namespace Gatewayz.Breaker

open Exec

/-! ## The breaker -/

inductive CircuitState where
  | closed
  | opened
  | halfOpen
  deriving DecidableEq

structure CircuitBreakerConfig where
  failureThreshold : ℕ := 5
  successThreshold : ℕ := 2
  timeoutSeconds : ℕ := 60
  failureWindowSeconds : ℕ := 60
  failureRateThreshold : ℚ := 1 / 2
  minRequestsForRate : ℕ := 10
  halfOpenMaxFailures : ℕ := 2

structure Circuit where
  state : CircuitState := .closed
  failureCount : ℕ := 0
  successCount : ℕ := 0
  openedAt : ℚ := 0
  consecutiveOpens : ℕ := 0
  deriving DecidableEq

structure CircuitBreaker extends Circuit where
  lastFailureTime : ℚ := 0
  recentRequests : List (ℚ × Bool) := []

namespace CircuitBreaker

variable (config : CircuitBreakerConfig) (b : CircuitBreaker) (now : ℚ)

/-- `_load_state_from_redis`: what is not there is left as it is. -/
def load (stored : Option Circuit) : CircuitBreaker :=
  match stored with
  | some circuit => { b with toCircuit := circuit }
  | none => b

def calculateFailureRate : (ℚ × ℕ) × CircuitBreaker :=
  let recent := b.recentRequests.filter fun r => now - config.failureWindowSeconds < r.1
  let failures := (recent.filter fun r => !r.2).length
  (if recent.length < config.minRequestsForRate then (0, recent.length) else ((failures : ℚ) / recent.length, recent.length),
    { b with recentRequests := recent })

/-- The counters of a new state. -/
def entered (new : CircuitState) : CircuitBreaker :=
  match new with
  | .closed => { b with state := .closed, failureCount := 0, successCount := 0, consecutiveOpens := 0 }
  | .opened => { b with state := .opened, openedAt := now, successCount := 0, consecutiveOpens := b.consecutiveOpens + 1 }
  | .halfOpen => { b with state := .halfOpen, failureCount := 0, successCount := 0 }

/-- `_transition_to`, and what is saved. -/
def transitionTo (new : CircuitState) : CircuitBreaker × List Circuit :=
  if b.state = new then (b, []) else (b.entered now new, [(b.entered now new).toCircuit])

/-- `_check_should_attempt`, when the circuit is loaded. -/
def checkShouldAttempt : Bool × CircuitBreaker × List Circuit :=
  match b.state with
  | .closed | .halfOpen => (true, b, [])
  | .opened => if config.timeoutSeconds ≤ now - b.openedAt then (true, b.transitionTo now .halfOpen) else (false, b, [])

def saved (done : CircuitBreaker × List Circuit) : CircuitBreaker × List Circuit := (done.1, done.2 ++ [done.1.toCircuit])

def recordSuccess : CircuitBreaker × List Circuit :=
  let b :=
    { b with
      recentRequests := b.recentRequests ++ [(now, true)], failureCount := 0, successCount := b.successCount + 1, lastFailureTime := 0 }
  saved (if b.state = .halfOpen ∧ config.successThreshold ≤ b.successCount then b.transitionTo now .closed else (b, []))

def recordFailure : CircuitBreaker × List Circuit :=
  let b :=
    { b with
      recentRequests := b.recentRequests ++ [(now, false)], failureCount := b.failureCount + 1, successCount := 0,
      lastFailureTime := now }
  saved
    (match b.state with
    | .halfOpen => if config.halfOpenMaxFailures ≤ b.failureCount then b.transitionTo now .opened else (b, [])
    | .closed =>
      if config.failureThreshold ≤ b.failureCount then b.transitionTo now .opened
      else
        let ((failureRate, totalRequests), b) := b.calculateFailureRate config now
        if config.minRequestsForRate ≤ totalRequests ∧ config.failureRateThreshold ≤ failureRate then b.transitionTo now .opened
        else (b, [])
    | .opened => (b, []))

/-- `reset`. A breaker that is closed already saves nothing. -/
def reset : CircuitBreaker × List Circuit :=
  let done := b.transitionTo now .closed
  ({ done.1 with failureCount := 0, successCount := 0, recentRequests := [] }, done.2)

end CircuitBreaker

/-! ## One process -/

/-- What happens to a breaker. A call that is done may have been admitted at any time before. -/
inductive BreakerEvent where
  | check
  | success
  | failure
  | reset

/-- What an event makes of a breaker, and whether a call is admitted. Nothing is loaded where there is no Redis. -/
def CircuitBreaker.react (config : CircuitBreakerConfig) (b : CircuitBreaker) (e : BreakerEvent) (now : ℚ) : CircuitBreaker × Bool :=
  match e with
  | .check => (((b.load none).checkShouldAttempt config now).2.1, ((b.load none).checkShouldAttempt config now).1)
  | .success => ((b.recordSuccess config now).1, false)
  | .failure => ((b.recordFailure config now).1, false)
  | .reset => ((b.reset now).1, false)

/-- The breaker of a single process, and the states it has been in after each event, the latest first. -/
structure Process where
  breaker : CircuitBreaker := {}
  history : List CircuitState := [.closed]

/-- One process without Redis: any events, at any times. -/
def processMachine (config : CircuitBreakerConfig) : Machine Process (BreakerEvent × ℚ) Bool where
  init := {}
  step := fun s e =>
    let (breaker, admitted) := s.breaker.react config e.1 e.2
    some ({ breaker := breaker, history := breaker.state :: s.history }, admitted)

/-! ## Workers -/

def ttl : ℚ := 3600

/-- The workers, what each has still to save, Redis, and the time. `opens` collects the `opened_at` of all open circuits that were
    saved. -/
structure Workers (W : Type) where
  breakers : W → CircuitBreaker := fun _ => {}
  pending : W → List Circuit := fun _ => []
  redis : Option (Circuit × ℚ) := none
  now : ℚ := 0
  opens : List ℚ := []

inductive WorkerEvent (W : Type) where
  | check (worker : W) (now : ℚ)
  | success (worker : W) (now : ℚ)
  | failure (worker : W) (now : ℚ)
  | save (worker : W) (now : ℚ)

namespace Workers

variable {W : Type} [DecidableEq W] (config : CircuitBreakerConfig) (s : Workers W)

def stored (now : ℚ) : Option Circuit := (s.redis.filter fun r => now < r.2).map Prod.fst

/-- A worker's breaker is changed, and something is to be saved. -/
def act (worker : W) (now : ℚ) (done : CircuitBreaker × List Circuit) : Workers W :=
  { s with
    breakers := Function.update s.breakers worker done.1, pending := Function.update s.pending worker done.2, now := now }

/-- A circuit is saved. -/
def put (worker : W) (now : ℚ) (circuit : Circuit) (rest : List Circuit) : Workers W :=
  { s with
    pending := Function.update s.pending worker rest, redis := some (circuit, now + ttl), now := now,
    opens := if circuit.state = .opened then circuit.openedAt :: s.opens else s.opens }

/-- One event, and whether a call is admitted. A worker that has something to save does nothing else. -/
def step (e : WorkerEvent W) : Option (Workers W × Bool) :=
  match e with
  | .check worker now =>
    if s.now ≤ now ∧ s.pending worker = [] then
      let (admitted, done) := ((s.breakers worker).load (s.stored now)).checkShouldAttempt config now
      some (s.act worker now done, admitted)
    else none
  | .success worker now =>
    if s.now ≤ now ∧ s.pending worker = [] then some (s.act worker now ((s.breakers worker).recordSuccess config now), false)
    else none
  | .failure worker now =>
    if s.now ≤ now ∧ s.pending worker = [] then some (s.act worker now ((s.breakers worker).recordFailure config now), false)
    else none
  | .save worker now =>
    match s.pending worker with
    | [] => none
    | circuit :: rest => if s.now ≤ now then some (s.put worker now circuit rest, false) else none

/-- A worker that has nothing to save resets its breaker, and saves what there is to be saved of that. -/
def resetBy (worker : W) (now : ℚ) : Workers W :=
  let done := (s.breakers worker).reset now
  done.2.foldl (fun s circuit => s.put worker now circuit []) (s.act worker now done)

end Workers

/-- Any number of workers, in any order. -/
def workersMachine (W : Type) [DecidableEq W] (config : CircuitBreakerConfig) :
    Machine (Workers W) (WorkerEvent W) Bool where
  init := {}
  step := fun s e => s.step config e

end Gatewayz.Breaker
