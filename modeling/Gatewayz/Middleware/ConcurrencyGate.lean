import Gatewayz.Exec.Machine
import Gatewayz.Exec.Semaphore
import Mathlib.Data.Rat.Init

/-!
# `Middleware.ConcurrencyGate` — the server's admission gate

`ConcurrencyMiddleware.__call__` of `middleware/concurrency_middleware.py`, as the event loop sees it: between two `await`s it
runs undisturbed, so the gate is a machine whose events are what the loop resumes it with.

* a request *tries* for a slot without waiting (`wait_for(…, timeout=0)`), which it gets or which times out;
* it is refused if the queue is full, and waits otherwise: `acquire()` takes a free slot at once, or leaves a future behind that a
  release grants and that the timer or a cancellation ends;
* it *runs* until the application has returned or raised.
-/

namespace Gatewayz.Admission

open Exec

/-! ## Requests -/

structure Scope where
  type : String := "http"
  path : String := ""

def concurrencyExemptPaths : List String := ["/health", "/metrics", "/ready"]

def Scope.exempt (scope : Scope) : Bool :=
  scope.type ≠ "http" || concurrencyExemptPaths.contains scope.path ||
    concurrencyExemptPaths.any fun p => p.toList.isPrefixOf scope.path.toList

inductive Refusal where
  | queueFull
  | queueTimeout
  deriving DecidableEq

/-- The message `_send_503` is given. -/
def Refusal.message : Refusal → String
  | .queueFull => "Server at capacity, please retry"
  | .queueTimeout => "Server busy, please retry"

/-! ## The gate -/

/-- The arguments of `__init__`. -/
structure GateConfig where
  limit : Nat := 20
  queueSize : Nat := 50
  queueTimeout : ℚ := 10

/-- What a waiting task is resumed with, if not with its slot. -/
inductive Interrupt where
  | timeout
  | cancelled
  deriving DecidableEq

structure Ticket where
  request : Nat
  raised : Option Interrupt := none
  deriving DecidableEq

/-- The gate: the semaphore, whose waiters are the requests in the queue, the counters of the middleware, and the requests on
    their way. -/
structure Gate where
  semaphore : Semaphore Ticket
  waiting : Int := 0
  activeCount : Int := 0
  /-- In `wait_for(self.semaphore.acquire(), timeout=0)`. -/
  trying : List Nat := []
  /-- In `self.app(scope, receive, send)`. -/
  running : List Nat := []
  deriving DecidableEq

/-- What the event loop may do next, for one request. -/
inductive GateEvent where
  | arrive (request : Nat) (scope : Scope)
  | acquireNow (request : Nat)
  /-- Also with a slot free: the loop may cancel an acquisition before its first step. -/
  | timeoutNow (request : Nat)
  /-- The timer of a waiting request goes off. -/
  | expire (request : Nat)
  | cancel (request : Nat)
  | resume (request : Nat)
  | finish (request : Nat)

def ofRequest (i : Nat) (w : Waiter Ticket) : Bool := w.who.request = i

/-- Its future is done: granted, or cancelled with something to raise. -/
def done (w : Waiter Ticket) : Bool := Semaphore.granted w || w.who.raised.isSome

namespace Gate

def ticket? (g : Gate) (i : Nat) : Option (Waiter Ticket) := g.semaphore.waiters.find? (ofRequest i)

def queued (g : Gate) : List Nat := g.semaphore.waiters.map fun w => w.who.request

def inFlight (g : Gate) : List Nat := g.trying ++ g.queued ++ g.running

def enter (g : Gate) (i : Nat) : Gate :=
  { g with semaphore := g.semaphore.take, activeCount := g.activeCount + 1, running := g.running ++ [i] }

/-- The `finally` around the application. -/
def exit (g : Gate) (i : Nat) : Gate :=
  { g with semaphore := g.semaphore.release, activeCount := g.activeCount - 1, running := g.running.erase i }

/-- The second `wait_for`. With a timeout of zero the acquisition is cancelled before it begins, which the semaphore cannot tell
    from a waiter that has been cancelled; a free slot is taken without giving way to anybody else. -/
def wait (config : GateConfig) (g : Gate) (i : Nat) : Gate :=
  if config.queueTimeout ≤ 0 then
    { g with semaphore := g.semaphore.enqueue ⟨⟨i, some .timeout⟩, .cancelled⟩ }
  else if g.semaphore.locked then
    { g with semaphore := g.semaphore.enqueue ⟨⟨i, none⟩, .pending⟩ }
  else { g.enter i with waiting := g.waiting - 1 }

/-- The check of the queue, atomic under the lock, and what follows it. -/
def queue (config : GateConfig) (g : Gate) (i : Nat) : Gate × Option Refusal :=
  if g.waiting ≥ config.queueSize then (g, some .queueFull)
  else (wait config { g with waiting := g.waiting + 1 } i, none)

/-- The timer ends the wait, unless a cancellation has. A future that is granted already stays so. -/
def timedOut (w : Waiter Ticket) : Waiter Ticket where
  who := { w.who with raised := w.who.raised <|> some .timeout }
  future := if w.future = .pending then .cancelled else w.future

/-- A cancellation is not taken for a timeout, even if both have come. -/
def interrupted (w : Waiter Ticket) : Waiter Ticket where
  who := { w.who with raised := some .cancelled }
  future := if w.future = .pending then .cancelled else w.future

/-- A waiting task goes on: with its slot, or with `TimeoutError`, which is caught, or with `CancelledError`, which is not. -/
def goOn (g : Gate) (i : Nat) (w : Waiter Ticket) : Gate × Option Refusal :=
  match w.who.raised with
  | none =>
    ({ g with
        semaphore := g.semaphore.acquired (ofRequest i)
        waiting := g.waiting - 1
        activeCount := g.activeCount + 1
        running := g.running ++ [i] }, none)
  | some .timeout =>
    ({ g with semaphore := g.semaphore.withdraw w (ofRequest i), waiting := g.waiting - 1 }, some .queueTimeout)
  | some .cancelled => ({ g with semaphore := g.semaphore.withdraw w (ofRequest i) }, none)

/-- One event. -/
def step (config : GateConfig) (g : Gate) : GateEvent → Option (Gate × Option Refusal)
  | .arrive i scope =>
    if i ∈ g.inFlight then none
    else if scope.exempt then some (g, none)
    else some ({ g with trying := g.trying ++ [i] }, none)
  | .acquireNow i =>
    if i ∈ g.trying ∧ g.semaphore.locked = false then some ({ g with trying := g.trying.erase i }.enter i, none)
    else none
  | .timeoutNow i =>
    if i ∈ g.trying then some ({ g with trying := g.trying.erase i }.queue config i) else none
  | .expire i =>
    (g.ticket? i).map fun _ => ({ g with semaphore := g.semaphore.change (ofRequest i) timedOut }, none)
  | .cancel i =>
    if i ∈ g.trying then some ({ g with trying := g.trying.erase i }, none)
    else if i ∈ g.running then some (g.exit i, none)
    else
      (g.ticket? i).map fun _ => ({ g with semaphore := g.semaphore.change (ofRequest i) interrupted }, none)
  | .resume i =>
    (g.ticket? i).bind fun w => if done w then some (g.goOn i w) else none
  | .finish i => if i ∈ g.running then some (g.exit i, none) else none

end Gate

/-- `ConcurrencyMiddleware`, before its first request. -/
def concurrencyMiddleware (config : GateConfig) : Machine Gate GateEvent (Option Refusal) where
  init := { semaphore := { value := config.limit } }
  step := Gate.step config

end Gatewayz.Admission
