import Gatewayz.Middleware.ConcurrencyGate

/-!
# `Correctness.GateExact` — what the admission gate counts is what there is

Slots are never lost: the semaphore's value, the slots on their way to a waiter and the requests that run make up the limit, in
every run (`Slotted`). The counter of the queue is taken back when a waiting request gets its slot and when its timer goes off,
but not when its task is cancelled while it waits, and it is not taken back until the task has gone on. So the gate is exact in
the runs whose steps are `Steady`: nobody is cancelled in the queue, and a request finds the queue full only while no slot is
free or on its way. In all runs the counter is the queue and what was lost of it (`queue_leaks`).
-/

namespace Gatewayz.Admission

open Exec

/-! ## Slots -/

/-- Slots are accounted for, and so are the requests that run. -/
structure Slotted (config : GateConfig) (g : Gate) : Prop where
  slots : g.semaphore.slots + g.running.length = config.limit
  active : g.activeCount = g.running.length

/-- The queue is accounted for: its counter is its length, which has a bound, and nobody in it has been cancelled. -/
structure Counted (config : GateConfig) (g : Gate) : Prop where
  waiting : g.waiting = g.semaphore.waiters.length
  bounded : g.waiting ≤ config.queueSize
  stays : ∀ w ∈ g.semaphore.waiters, w.who.raised ≠ some .cancelled

section Steps

variable {config : GateConfig} {g : Gate} {i : Nat} {w : Waiter Ticket}

theorem granted_change {f : Waiter Ticket → Waiter Ticket} (hf : ∀ w, (f w).future =
    if w.future = .pending then .cancelled else w.future) (w : Waiter Ticket) :
    Semaphore.granted (f w) = Semaphore.granted w := by
  rw [Semaphore.granted, Semaphore.granted, hf]
  cases w.future <;> rfl

theorem slotted_enter (h : Slotted config g) (hfree : g.semaphore.locked = false) : Slotted config (g.enter i) := by
  have hslots := h.slots
  have htake := Semaphore.slots_take hfree
  constructor
  · simp only [Gate.enter, List.length_append, List.length_singleton]
    omega
  · simp only [Gate.enter, h.active, List.length_append, List.length_singleton]
    omega

theorem slotted_exit (h : Slotted config g) (hi : i ∈ g.running) : Slotted config (g.exit i) := by
  have hslots := h.slots
  have hactive := h.active
  have hlength : (g.running.erase i).length + 1 = g.running.length := by
    have hpos : 0 < g.running.length := List.length_pos_of_mem hi
    rw [List.length_erase_of_mem hi]
    omega
  constructor
  · show g.semaphore.release.slots + (g.running.erase i).length = config.limit
    rw [Semaphore.slots_release]
    omega
  · show g.activeCount - 1 = ((g.running.erase i).length : Int)
    omega

theorem slotted_wait (h : Slotted config g) : Slotted config (g.wait config i) := by
  unfold Gate.wait
  split
  · constructor
    · show (g.semaphore.enqueue _).slots + g.running.length = config.limit
      rw [Semaphore.slots_enqueue]
      exact h.slots
    · exact h.active
  · split
    · constructor
      · show (g.semaphore.enqueue _).slots + g.running.length = config.limit
        rw [Semaphore.slots_enqueue]
        exact h.slots
      · exact h.active
    · next hfree =>
      have henter : Slotted config (g.enter i) := slotted_enter h (Bool.eq_false_iff.mpr hfree)
      exact ⟨henter.slots, henter.active⟩

theorem slotted_queue (h : Slotted config g) : Slotted config (g.queue config i).1 := by
  unfold Gate.queue
  split
  · exact h
  · exact slotted_wait ⟨h.slots, h.active⟩

theorem slotted_change {f : Waiter Ticket → Waiter Ticket} {p : Waiter Ticket → Bool}
    (hf : ∀ w, Semaphore.granted (f w) = Semaphore.granted w) (h : Slotted config g) :
    Slotted config { g with semaphore := g.semaphore.change p f } := by
  constructor
  · show (g.semaphore.change p f).slots + g.running.length = config.limit
    rw [Semaphore.slots_change hf]
    exact h.slots
  · exact h.active

theorem slotted_goOn (h : Slotted config g) (hw : g.ticket? i = some w) (hdone : done w = true) :
    Slotted config (g.goOn i w).1 := by
  have hslots := h.slots
  have hactive := h.active
  unfold Gate.goOn
  cases hraised : w.who.raised with
  | none =>
    have hgranted : Semaphore.granted w = true := by
      rw [done, hraised] at hdone
      simpa using hdone
    have hacquired := Semaphore.slots_acquired hw hgranted
    constructor
    · simp only [List.length_append, List.length_singleton]
      omega
    · simp only [List.length_append, List.length_singleton]
      omega
  | some interrupt =>
    have hwithdraw := Semaphore.slots_withdraw hw
    cases interrupt with
    | timeout =>
      refine ⟨?_, hactive⟩
      show (g.semaphore.withdraw w (ofRequest i)).slots + g.running.length = config.limit
      rw [hwithdraw]
      exact hslots
    | cancelled =>
      refine ⟨?_, hactive⟩
      show (g.semaphore.withdraw w (ofRequest i)).slots + g.running.length = config.limit
      rw [hwithdraw]
      exact hslots

/-! ## The queue -/

theorem counted_enter (h : Counted config g) : Counted config (g.enter i) := ⟨h.waiting, h.bounded, h.stays⟩

theorem counted_exit (h : Counted config g) : Counted config (g.exit i) := by
  refine ⟨?_, h.bounded, fun w hw => ?_⟩
  · show g.waiting = (g.semaphore.release.waiters.length : Int)
    rw [Semaphore.length_release]
    exact h.waiting
  · obtain ⟨v, hv, hwho⟩ := Semaphore.mem_release hw
    rw [hwho]
    exact h.stays v hv

theorem counted_enqueue (hwaiting : g.waiting = g.semaphore.waiters.length + 1) (hbounded : g.waiting ≤ config.queueSize)
    (hstays : ∀ w ∈ g.semaphore.waiters, w.who.raised ≠ some .cancelled) (hw : w.who.raised ≠ some .cancelled) :
    Counted config { g with semaphore := g.semaphore.enqueue w } := by
  refine ⟨?_, hbounded, fun v hv => ?_⟩
  · show g.waiting = ((g.semaphore.enqueue w).waiters.length : Int)
    rw [Semaphore.length_enqueue, hwaiting]
    rfl
  · rcases List.mem_append.mp hv with hv | hv
    · exact hstays v hv
    · rw [List.mem_singleton.mp hv]
      exact hw

theorem counted_queue (h : Counted config g) : Counted config (g.queue config i).1 := by
  have hwaiting := h.waiting
  unfold Gate.queue
  split
  · exact h
  · next hroom =>
    have hbounded : g.waiting + 1 ≤ config.queueSize := by omega
    have hcounted : g.waiting + 1 = g.semaphore.waiters.length + 1 := by omega
    unfold Gate.wait
    split
    · exact counted_enqueue (g := { g with waiting := g.waiting + 1 }) hcounted hbounded h.stays nofun
    · split
      · exact counted_enqueue (g := { g with waiting := g.waiting + 1 }) hcounted hbounded h.stays nofun
      · -- it did not have to wait after all
        refine ⟨?_, ?_, h.stays⟩
        · show g.waiting + 1 - 1 = (g.semaphore.waiters.length : Int)
          omega
        · show g.waiting + 1 - 1 ≤ (config.queueSize : Int)
          omega

theorem counted_expire {p : Waiter Ticket → Bool} (h : Counted config g) :
    Counted config { g with semaphore := g.semaphore.change p Gate.timedOut } := by
  refine ⟨?_, h.bounded, fun w hw => ?_⟩
  · show g.waiting = ((g.semaphore.change p Gate.timedOut).waiters.length : Int)
    rw [Semaphore.length_change]
    exact h.waiting
  · rcases Semaphore.mem_change hw with hw | ⟨v, hv, rfl⟩
    · exact h.stays w hw
    · show (v.who.raised <|> some Interrupt.timeout) ≠ some .cancelled
      cases hraised : v.who.raised with
      | none => decide
      | some interrupt =>
        rw [← hraised]
        exact hraised ▸ h.stays v hv

theorem counted_goOn (h : Counted config g) (hw : g.ticket? i = some w) : Counted config (g.goOn i w).1 := by
  have hwaiting := h.waiting
  have hbounded := h.bounded
  have hstays : w.who.raised ≠ some .cancelled := h.stays w (List.mem_of_find?_eq_some hw)
  unfold Gate.goOn
  cases hraised : w.who.raised with
  | none =>
    have hlength := Semaphore.length_acquired hw
    refine ⟨?_, ?_, fun v hv => ?_⟩
    · show g.waiting - 1 = ((g.semaphore.acquired (ofRequest i)).waiters.length : Int)
      omega
    · show g.waiting - 1 ≤ (config.queueSize : Int)
      omega
    · obtain ⟨u, hu, hwho⟩ := Semaphore.mem_acquired hv
      rw [hwho]
      exact h.stays u hu
  | some interrupt =>
    cases interrupt with
    | timeout =>
      have hlength := Semaphore.length_withdraw hw
      refine ⟨?_, ?_, fun v hv => ?_⟩
      · show g.waiting - 1 = ((g.semaphore.withdraw w (ofRequest i)).waiters.length : Int)
        omega
      · show g.waiting - 1 ≤ (config.queueSize : Int)
        omega
      · obtain ⟨u, hu, hwho⟩ := Semaphore.mem_withdraw hv
        rw [hwho]
        exact h.stays u hu
    | cancelled => exact absurd hraised hstays

end Steps

/-! ## Runs -/

/-- Steps that do not disturb the count: no request is cancelled while it waits, and a request comes to a full queue only when
    no slot is free and no waiter has been granted one without having gone on. -/
def Steady (config : GateConfig) (g : Gate) : GateEvent → Prop
  | .cancel i => i ∉ g.queued
  | .timeoutNow _ =>
    g.waiting ≥ config.queueSize → g.semaphore.value = 0 ∧ ∀ w ∈ g.semaphore.waiters, w.future ≠ .granted
  | _ => True

section Runs

variable {config : GateConfig} {g g' : Gate} {e : GateEvent} {reply : Option Refusal}

/-- What a step does, each case with what it needs. -/
theorem step_cases {P : Gate × Option Refusal → Prop} (hstep : g.step config e = some (g', reply))
    (tries : ∀ trying, P ({ g with trying }, none))
    (enters : ∀ trying i, g.semaphore.locked = false → P (Gate.enter { g with trying } i, none))
    (queues : ∀ trying i, e = .timeoutNow i → P (Gate.queue config { g with trying } i))
    (expires : ∀ i, P ({ g with semaphore := g.semaphore.change (ofRequest i) Gate.timedOut }, none))
    (interrupts : ∀ i w, e = .cancel i → g.ticket? i = some w →
      P ({ g with semaphore := g.semaphore.change (ofRequest i) Gate.interrupted }, none))
    (exits : ∀ i ∈ g.running, P (g.exit i, none))
    (goesOn : ∀ i w, g.ticket? i = some w → done w = true → P (g.goOn i w)) : P (g', reply) := by
  cases e with
  | arrive i scope =>
    simp only [Gate.step] at hstep
    split at hstep
    · cases hstep
    · split at hstep
      · cases hstep
        exact tries g.trying
      · cases hstep
        exact tries _
  | acquireNow i =>
    simp only [Gate.step] at hstep
    split at hstep
    · next hi =>
      cases hstep
      exact enters _ i hi.2
    · cases hstep
  | timeoutNow i =>
    simp only [Gate.step] at hstep
    split at hstep
    · exact Option.some.inj hstep ▸ queues _ i rfl
    · cases hstep
  | expire i =>
    obtain ⟨w, -, heq⟩ := Option.map_eq_some_iff.mp hstep
    exact heq ▸ expires i
  | cancel i =>
    simp only [Gate.step] at hstep
    split at hstep
    · cases hstep
      exact tries _
    · split at hstep
      · next hi =>
        cases hstep
        exact exits i hi
      · obtain ⟨w, hw, heq⟩ := Option.map_eq_some_iff.mp hstep
        exact heq ▸ interrupts i w rfl hw
  | resume i =>
    obtain ⟨w, hw, heq⟩ := Option.bind_eq_some_iff.mp hstep
    split at heq
    · next hdone => exact Option.some.inj heq ▸ goesOn i w hw hdone
    · cases heq
  | finish i =>
    simp only [Gate.step] at hstep
    split at hstep
    · next hi =>
      cases hstep
      exact exits i hi
    · cases hstep

theorem slotted_step (h : Slotted config g) (hstep : g.step config e = some (g', reply)) : Slotted config g' := by
  have hchange {p f} (hf : ∀ w, (f w).future = if w.future = .pending then .cancelled else w.future) :
      Slotted config { g with semaphore := g.semaphore.change p f } := slotted_change (granted_change hf) h
  exact step_cases (P := fun r => Slotted config r.1) hstep (fun _ => ⟨h.slots, h.active⟩)
    (fun trying _ hfree => slotted_enter (g := { g with trying }) ⟨h.slots, h.active⟩ hfree)
    (fun trying _ _ => slotted_queue (g := { g with trying }) ⟨h.slots, h.active⟩)
    (fun _ => hchange fun _ => rfl) (fun _ _ _ _ => hchange fun _ => rfl)
    (fun _ hi => slotted_exit h hi) (fun _ _ hw hdone => slotted_goOn h hw hdone)

/-- Step: the count is right if nobody is cancelled in the queue. -/
theorem counted_step (h : Counted config g) (hok : Steady config g e) (hstep : g.step config e = some (g', reply)) :
    Counted config g' := by
  refine step_cases (P := fun r => Counted config r.1) hstep (fun _ => ⟨h.waiting, h.bounded, h.stays⟩)
    (fun trying _ _ => counted_enter (g := { g with trying }) ⟨h.waiting, h.bounded, h.stays⟩)
    (fun trying _ _ => counted_queue (g := { g with trying }) ⟨h.waiting, h.bounded, h.stays⟩)
    (fun _ => counted_expire h) ?_ (fun _ _ => counted_exit h) (fun _ _ hw _ => counted_goOn h hw)
  -- a waiting request: ruled out
  rintro i w rfl hw
  have hrequest : w.who.request = i := of_decide_eq_true (List.find?_some (p := ofRequest i) hw)
  exact absurd (List.mem_map.mpr ⟨w, List.mem_of_find?_eq_some hw, hrequest⟩) hok

theorem slotted_run {ok : Gate → GateEvent → Prop} (h : (concurrencyMiddleware config).Reach ok g) : Slotted config g :=
  Machine.reach_invariant (I := Slotted config) ⟨Nat.add_zero _, rfl⟩ (fun _ _ _ _ hI _ hstep => slotted_step hI hstep) h

theorem counted_run (h : (concurrencyMiddleware config).Reach (Steady config) g) : Counted config g :=
  Machine.reach_invariant (I := Counted config) ⟨rfl, Int.natCast_nonneg _, fun _ hw => absurd hw List.not_mem_nil⟩
    (fun _ _ _ _ hI hok hstep => counted_step hI hok hstep) h

theorem queueFull_only (hstep : g.step config e = some (g', some .queueFull)) :
    (∃ i, e = .timeoutNow i) ∧ g.waiting ≥ config.queueSize := by
  refine step_cases (P := fun r => r.2 = some .queueFull → (∃ i, e = .timeoutNow i) ∧ g.waiting ≥ config.queueSize) hstep
    nofun nofun (fun trying i he => ?_) nofun nofun nofun (fun i w _ _ => ?_) rfl
  · unfold Gate.queue
    split
    · next hfull => exact fun _ => ⟨⟨i, he⟩, hfull⟩
    · exact nofun
  · unfold Gate.goOn
    split <;> exact nofun

/-- The gate is exact: no more run than may, the counter of the queue is its length, which has a bound, and with nothing on its
    way the gate is as it was at first. -/
structure Exact (config : GateConfig) (g : Gate) : Prop where
  limit : g.running.length ≤ config.limit
  waiting : g.waiting = g.queued.length
  queue : g.waiting ≤ config.queueSize
  idle : g.inFlight = [] → g = (concurrencyMiddleware config).init

def AtCapacity (config : GateConfig) (g : Gate) : Prop :=
  g.running.length = config.limit ∧ g.queued.length = config.queueSize

theorem exact_of_counts (hslots : Slotted config g) (hcount : Counted config g) : Exact config g := by
  have hsum := hslots.slots
  have hactive := hslots.active
  have hwaiting := hcount.waiting
  refine ⟨by omega, ?_, hcount.bounded, fun hidle => ?_⟩
  · rw [hwaiting, Gate.queued, List.length_map]
  · obtain ⟨⟨value, waiters⟩, waiting, activeCount, trying, running⟩ := g
    simp only [Gate.inFlight, List.append_eq_nil_iff] at hidle
    obtain ⟨⟨htrying, hqueued⟩, hrunning⟩ := hidle
    obtain rfl : waiters = [] := List.map_eq_nil_iff.mp hqueued
    obtain rfl : running = [] := hrunning
    obtain rfl : trying = [] := htrying
    obtain rfl : waiting = 0 := hwaiting
    obtain rfl : activeCount = 0 := hactive
    obtain rfl : value = config.limit := hsum
    rfl

theorem slots_eq_zero (hvalue : g.semaphore.value = 0) (hnone : ∀ w ∈ g.semaphore.waiters, w.future ≠ .granted) :
    g.semaphore.slots = 0 := by
  have hcount : g.semaphore.waiters.countP Semaphore.granted = 0 := by
    rw [List.countP_eq_zero]
    intro w hw
    simpa [Semaphore.granted] using hnone w hw
  rw [Semaphore.slots, hvalue, hcount]

/-- **The gate is exact in every run of steady steps**, and whoever is refused for a full queue finds all slots and all places of the
    queue taken. -/
theorem gate_exact (config : GateConfig) {g : Gate} (h : (concurrencyMiddleware config).Reach (Steady config) g) :
    Exact config g ∧
      ∀ e g', Steady config g e → (concurrencyMiddleware config).step g e = some (g', some .queueFull) →
        AtCapacity config g := by
  have hslots := slotted_run h
  have hcount := counted_run h
  have hexact := exact_of_counts hslots hcount
  refine ⟨hexact, fun e g' hok hstep => ?_⟩
  obtain ⟨⟨i, rfl⟩, hfull⟩ := queueFull_only hstep
  obtain ⟨hvalue, hnone⟩ := hok hfull
  have hzero := slots_eq_zero hvalue hnone
  have hsum := hslots.slots
  have hwaiting := hexact.waiting
  have hqueue := hexact.queue
  constructor
  · omega
  · omega

end Runs

/-! ## One slot, one place -/

instance decidableSteady (config : GateConfig) (g : Gate) (e : GateEvent) : Decidable (Steady config g e) := by
  unfold Steady
  split <;> infer_instance

def narrowGate : GateConfig := { limit := 1, queueSize := 1 }

def crowded : List GateEvent :=
  [.arrive 0 {}, .timeoutNow 0, .arrive 1 { path := "/v1/chat/completions" }, .timeoutNow 1, .arrive 2 {}]

def crowdedGate : Gate where
  semaphore := { value := 0, waiters := [⟨⟨1, none⟩, .pending⟩] }
  waiting := 1
  activeCount := 1
  trying := [2]
  running := [0]

theorem crowded_reach : (concurrencyMiddleware narrowGate).Reach (Steady narrowGate) crowdedGate :=
  Machine.reach_of_run .init crowded [none, none, none, none, none] (by decide +kernel) (by decide +kernel)

theorem gate_exact_crowded :
    Exact narrowGate crowdedGate ∧
      ∀ e g', Steady narrowGate crowdedGate e →
        (concurrencyMiddleware narrowGate).step crowdedGate e = some (g', some .queueFull) →
        AtCapacity narrowGate crowdedGate :=
  gate_exact narrowGate crowded_reach

def goneAway : List GateEvent :=
  [.arrive 0 {}, .acquireNow 0, .arrive 1 {}, .timeoutNow 1, .cancel 1, .resume 1, .finish 0]

def leakedGate : Gate := { semaphore := { value := 1 }, waiting := 1 }

/-- The place in the queue is lost: with one request running, the next is told that the queue is full, which nobody waits in. -/
theorem cancelled_in_queue :
    (concurrencyMiddleware narrowGate).Reach (fun _ _ => True) leakedGate ∧ leakedGate.inFlight = [] ∧
      ¬ Exact narrowGate leakedGate ∧
      ∃ g, (concurrencyMiddleware narrowGate).run leakedGate [.arrive 2 {}, .acquireNow 2, .arrive 3 {}, .timeoutNow 3] =
        some (g, [none, none, none, some .queueFull]) ∧ g.queued = [] ∧ ¬ AtCapacity narrowGate g := by
  refine ⟨?_, rfl, fun hexact => ?_, { leakedGate.enter 2 with trying := [] }, by decide +kernel, rfl, fun h => ?_⟩
  · exact Machine.reach_of_run .init goneAway [none, none, none, none, none, none, none] (by decide +kernel) (by decide +kernel)
  · exact absurd hexact.waiting (by decide)
  · exact absurd h.2 (by decide)

/-! ## What the queue loses -/

/-- The gate, and how many requests have left its queue by a cancellation. -/
structure Leaking where
  gate : Gate
  lost : Nat := 0
  deriving DecidableEq

/-- A cancelled request goes on. -/
def loses (g : Gate) : GateEvent → Bool
  | .resume i => (g.ticket? i).any fun w => w.who.raised = some .cancelled
  | _ => false

def leakingGate (config : GateConfig) : Machine Leaking GateEvent (Option Refusal) where
  init := { gate := (concurrencyMiddleware config).init }
  step := fun s e => (s.gate.step config e).map fun (g, reply) => (⟨g, s.lost + if loses s.gate e then 1 else 0⟩, reply)

/-- The counter is the queue and what was lost of it. -/
structure Leaks (config : GateConfig) (g : Gate) (lost : Nat) : Prop where
  waiting : g.waiting = g.semaphore.waiters.length + lost
  bounded : g.waiting ≤ config.queueSize

section Leak

variable {config : GateConfig} {g g' : Gate} {i lost : Nat} {w : Waiter Ticket} {e : GateEvent} {reply : Option Refusal}

theorem Leaks.queue (h : Leaks config g lost) : Leaks config (g.queue config i).1 lost := by
  have hwaiting := h.waiting
  unfold Gate.queue
  split
  · exact h
  · next hroom =>
    have hbounded : g.waiting + 1 ≤ config.queueSize := by omega
    have henqueue : ∀ v, Leaks config { g with waiting := g.waiting + 1, semaphore := g.semaphore.enqueue v } lost := by
      intro v
      refine ⟨?_, hbounded⟩
      show g.waiting + 1 = ((g.semaphore.enqueue v).waiters.length : Int) + lost
      rw [Semaphore.length_enqueue, hwaiting]
      omega
    unfold Gate.wait
    split
    · exact henqueue _
    · split
      · exact henqueue _
      · refine ⟨?_, ?_⟩
        · show g.waiting + 1 - 1 = (g.semaphore.waiters.length : Int) + lost
          omega
        · show g.waiting + 1 - 1 ≤ (config.queueSize : Int)
          omega

theorem Leaks.change {p : Waiter Ticket → Bool} {f : Waiter Ticket → Waiter Ticket} (h : Leaks config g lost) :
    Leaks config { g with semaphore := g.semaphore.change p f } lost := by
  refine ⟨?_, h.bounded⟩
  show g.waiting = ((g.semaphore.change p f).waiters.length : Int) + lost
  rw [Semaphore.length_change]
  exact h.waiting

theorem Leaks.exit (h : Leaks config g lost) : Leaks config (g.exit i) lost := by
  refine ⟨?_, h.bounded⟩
  show g.waiting = (g.semaphore.release.waiters.length : Int) + lost
  rw [Semaphore.length_release]
  exact h.waiting

/-- A cancelled request leaves its place in the counter. -/
theorem Leaks.goOn (h : Leaks config g lost) (hw : g.ticket? i = some w) :
    Leaks config (g.goOn i w).1 (lost + if w.who.raised = some .cancelled then 1 else 0) := by
  have hwaiting := h.waiting
  have hbounded := h.bounded
  have hlength := Semaphore.length_withdraw hw
  unfold Gate.goOn
  cases hraised : w.who.raised with
  | none =>
    have hacquired := Semaphore.length_acquired hw
    refine ⟨?_, ?_⟩
    · show g.waiting - 1 = ((g.semaphore.acquired (ofRequest i)).waiters.length : Int) + lost
      omega
    · show g.waiting - 1 ≤ (config.queueSize : Int)
      omega
  | some interrupt =>
    cases interrupt with
    | timeout =>
      refine ⟨?_, ?_⟩
      · show g.waiting - 1 = ((g.semaphore.withdraw w (ofRequest i)).waiters.length : Int) + lost
        omega
      · show g.waiting - 1 ≤ (config.queueSize : Int)
        omega
    | cancelled =>
      refine ⟨?_, hbounded⟩
      show g.waiting = ((g.semaphore.withdraw w (ofRequest i)).waiters.length : Int) + (lost + 1 : Nat)
      omega

/-- Step. -/
theorem leaks_step (h : Leaks config g lost) (hstep : g.step config e = some (g', reply)) :
    Leaks config g' (lost + if loses g e then 1 else 0) := by
  cases e with
  | arrive i scope =>
    simp only [Gate.step] at hstep
    split at hstep
    · cases hstep
    · split at hstep <;> cases hstep <;> exact ⟨h.waiting, h.bounded⟩
  | acquireNow i =>
    simp only [Gate.step] at hstep
    split at hstep <;> cases hstep
    exact ⟨h.waiting, h.bounded⟩
  | timeoutNow i =>
    simp only [Gate.step] at hstep
    split at hstep
    · have hqueue := Leaks.queue (g := { g with trying := g.trying.erase i }) (i := i) ⟨h.waiting, h.bounded⟩
      rw [Option.some.inj hstep] at hqueue
      exact hqueue
    · cases hstep
  | expire i =>
    obtain ⟨w, -, heq⟩ := Option.map_eq_some_iff.mp hstep
    cases heq
    exact h.change
  | cancel i =>
    simp only [Gate.step] at hstep
    split at hstep
    · cases hstep
      exact ⟨h.waiting, h.bounded⟩
    · split at hstep
      · cases hstep
        exact h.exit
      · obtain ⟨w, -, heq⟩ := Option.map_eq_some_iff.mp hstep
        cases heq
        exact h.change
  | resume i =>
    obtain ⟨w, hw, heq⟩ := Option.bind_eq_some_iff.mp hstep
    split at heq
    · have hgoOn := h.goOn hw
      rw [Option.some.inj heq] at hgoOn
      simpa only [loses, hw, Option.any_some, decide_eq_true_eq] using hgoOn
    · cases heq
  | finish i =>
    simp only [Gate.step] at hstep
    split at hstep <;> cases hstep
    exact h.exit

/-- Run. -/
theorem leaks_run {s : Leaking} (h : (leakingGate config).Reach (fun _ _ => True) s) :
    Slotted config s.gate ∧ Leaks config s.gate s.lost := by
  refine Machine.reach_invariant (I := fun s => Slotted config s.gate ∧ Leaks config s.gate s.lost)
    ⟨⟨Nat.add_zero _, rfl⟩, ⟨rfl, Int.natCast_nonneg _⟩⟩ (fun s e s' reply hI _ hstep => ?_) h
  obtain ⟨⟨g', _⟩, hgate, heq⟩ := Option.map_eq_some_iff.mp hstep
  cases heq
  exact ⟨slotted_step hI.1 hgate, leaks_step hI.2 hgate⟩

/-- Whoever gets no slot at once is refused if the queue and what was lost of it fill its places. -/
theorem timeoutNow_reply {s : Leaking} (h : Leaks config s.gate s.lost) (hi : i ∈ s.gate.trying) :
    ∃ s' reply, (leakingGate config).step s (.timeoutNow i) = some (s', reply) ∧
      (reply = some .queueFull ↔ config.queueSize ≤ s.gate.queued.length + s.lost) := by
  have hwaiting := h.waiting
  have hlength : s.gate.queued.length = s.gate.semaphore.waiters.length := List.length_map _
  have hstep : (leakingGate config).step s (.timeoutNow i) =
      some (⟨(Gate.queue config { s.gate with trying := s.gate.trying.erase i } i).1, s.lost + 0⟩,
        (Gate.queue config { s.gate with trying := s.gate.trying.erase i } i).2) := by
    simp [leakingGate, Gate.step, hi, loses]
  refine ⟨_, _, hstep, ?_⟩
  unfold Gate.queue
  split
  · next hfull => exact ⟨fun _ => by simp only at hfull; omega, fun _ => rfl⟩
  · next hroom => exact ⟨nofun, fun hfull => absurd hfull (by simp only at hroom; omega)⟩

theorem reach_of_continued {s s' : Leaking} (h : (leakingGate config).Reach (fun _ _ => True) s) (es : List GateEvent)
    {replies : List (Option Refusal)} (hrun : (leakingGate config).run s es = some (s', replies)) :
    (leakingGate config).Reach (fun _ _ => True) s' ∧ s.lost ≤ s'.lost := by
  induction es generalizing s replies with
  | nil =>
    rw [Machine.run] at hrun
    cases hrun
    exact ⟨h, Nat.le_refl _⟩
  | cons e es ih =>
    obtain ⟨⟨t, reply⟩, hstep, hrest⟩ := Option.bind_eq_some_iff.mp hrun
    obtain ⟨⟨u, rest⟩, hu, heq⟩ := Option.map_eq_some_iff.mp hrest
    cases heq
    obtain ⟨⟨g, _⟩, -, heq⟩ := Option.map_eq_some_iff.mp hstep
    obtain ⟨hreach, hle⟩ := ih (.next h trivial hstep) hu
    cases heq
    exact ⟨hreach, Nat.le_trans (Nat.le_add_right _ _) hle⟩

/-- **What is lost of the queue is lost for good**: in every run and whatever follows it, no more run than may, the counter of the queue is
    its length and the number of those that ever left it by a cancellation, and whoever gets no slot at once is refused just when these
    two fill its places. -/
theorem queue_leaks (config : GateConfig) {s s' : Leaking} (h : (leakingGate config).Reach (fun _ _ => True) s) (es : List GateEvent)
    {replies : List (Option Refusal)} (hrun : (leakingGate config).run s es = some (s', replies)) :
    s'.gate.running.length ≤ config.limit ∧ s'.gate.waiting = s'.gate.queued.length + s'.lost ∧ s'.gate.waiting ≤ config.queueSize ∧
      s.lost ≤ s'.lost ∧ ∀ i ∈ s'.gate.trying, ∃ t reply, (leakingGate config).step s' (.timeoutNow i) = some (t, reply) ∧
        (reply = some .queueFull ↔ config.queueSize ≤ s'.gate.queued.length + s'.lost) := by
  obtain ⟨hreach, hle⟩ := reach_of_continued h es hrun
  obtain ⟨hslots, hleaks⟩ := leaks_run hreach
  have hsum := hslots.slots
  have hwaiting := hleaks.waiting
  have hlength : s'.gate.queued.length = s'.gate.semaphore.waiters.length := List.length_map _
  exact ⟨by omega, by omega, hleaks.bounded, hle, fun i hi => timeoutNow_reply hleaks hi⟩

end Leak

theorem leaked_reach : (leakingGate narrowGate).Reach (fun _ _ => True) ⟨leakedGate, 1⟩ :=
  Machine.reach_of_run .init goneAway [none, none, none, none, none, none, none] (by decide +kernel) (by decide +kernel)

/-- With one place in the queue and that one lost, the next request is refused though nobody waits. -/
theorem queue_leaks_narrow :
    let gate : Gate := { leakedGate.enter 2 with trying := [3] }
    gate.queued = [] ∧ ∃ t, (leakingGate narrowGate).step ⟨gate, 1⟩ (.timeoutNow 3) = some (t, some .queueFull) := by
  have hrun : (leakingGate narrowGate).run ⟨leakedGate, 1⟩ [.arrive 2 {}, .acquireNow 2, .arrive 3 {}] =
      some (⟨{ leakedGate.enter 2 with trying := [3] }, 1⟩, [none, none, none]) := by decide +kernel
  obtain ⟨-, -, -, -, hreply⟩ := queue_leaks narrowGate leaked_reach _ hrun
  obtain ⟨t, reply, hstep, hfull⟩ := hreply 3 (List.mem_singleton.mpr rfl)
  rw [hfull.mpr (by decide)] at hstep
  exact ⟨rfl, t, hstep⟩

end Gatewayz.Admission
