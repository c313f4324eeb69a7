import Gatewayz.Exec.Machine
import Gatewayz.Exec.Wp
import Mathlib.Data.Fintype.Defs

/-!
# `Exec.Calls` — calls on one store, one after the other

Any number of calls work on one store, each with a program of its own. A call begins with its first statement and is in progress
until its program has ended. One event is a statement of one call, with what the link does with it, or something else that
happens to the store (`pass`).

Where no call takes a turn while another one is in progress (`InTurn`), it is enough to judge each program alone: what it finds
is what the calls before it have left (`inTurn_invariant`).
-/

namespace Exec

variable {ξ S : Type} {R : S → Type} {α σ ι ε : Type}

structure CallsState (ι ξ S : Type) (R : S → Type) (α σ : Type) where
  begun : ι → Bool := fun _ => false
  prog : ι → Prog ξ S R α
  store : σ

/-- One event: a statement of a call, or what else happens. -/
inductive CallEvent (ι ξ ε : Type) where
  | turn (who : ι) (link : Outcome ξ)
  | pass (e : ε)

namespace CallsState

/-- The call has issued a statement and will issue another one. -/
def InProgress (s : CallsState ι ξ S R α σ) (i : ι) : Prop := s.begun i = true ∧ (s.prog i).next?.isSome = true

instance (s : CallsState ι ξ S R α σ) (i : ι) : Decidable (s.InProgress i) := inferInstanceAs (Decidable (_ ∧ _))

def Idle (s : CallsState ι ξ S R α σ) : Prop := ∀ i, ¬ s.InProgress i

section Put

variable [DecidableEq ι] (s : CallsState ι ξ S R α σ) (i : ι) (p : Prog ξ S R α) (st : σ)

/-- A call has taken a turn: the rest of its program, and the store after it. -/
def put : CallsState ι ξ S R α σ where
  begun := Function.update s.begun i true
  prog := Function.update s.prog i p
  store := st

@[simp] theorem put_begun_self : (s.put i p st).begun i = true := Function.update_self ..
@[simp] theorem put_prog_self : (s.put i p st).prog i = p := Function.update_self ..
@[simp] theorem put_store : (s.put i p st).store = st := rfl

variable {s i p st}

theorem put_begun_of_ne {j : ι} (hj : j ≠ i) : (s.put i p st).begun j = s.begun j := Function.update_of_ne hj ..
theorem put_prog_of_ne {j : ι} (hj : j ≠ i) : (s.put i p st).prog j = s.prog j := Function.update_of_ne hj ..

theorem inProgress_put_self : (s.put i p st).InProgress i ↔ p.next?.isSome = true := by
  simp [InProgress]

theorem inProgress_put_of_ne {j : ι} (hj : j ≠ i) : (s.put i p st).InProgress j ↔ s.InProgress j := by
  rw [InProgress, put_begun_of_ne hj, put_prog_of_ne hj, InProgress]

end Put

end CallsState

section Machine

variable [DecidableEq ι] (exec : (s : S) → σ → Except ξ (R s) × σ) (pass : ε → σ → σ)

/-- What an event makes of the calls and the store. -/
def callsMove (s : CallsState ι ξ S R α σ) : CallEvent ι ξ ε → Option (CallsState ι ξ S R α σ)
  | .pass e => some { s with store := pass e s.store }
  | .turn i o =>
    match s.prog i with
    | .ask q k => some (s.put i (k (answer exec q o s.store).1) (answer exec q o s.store).2)
    | _ => none

/-- The calls on a store. -/
def callsMachine (p : ι → Prog ξ S R α) (st : σ) : Machine (CallsState ι ξ S R α σ) (CallEvent ι ξ ε) Unit where
  init := { prog := p, store := st }
  step := fun s e => (callsMove exec pass s e).map fun s' => (s', ())

/-- One after the other: whoever takes a turn is the only call in progress, and the link does what is allowed. -/
def InTurn (allow : S → Outcome ξ → Prop) (s : CallsState ι ξ S R α σ) : CallEvent ι ξ ε → Prop
  | .pass _ => True
  | .turn i o => (∀ j, j ≠ i → ¬ s.InProgress j) ∧ ∀ q, (s.prog i).next? = some q → allow q o

instance [Fintype ι] (allow : S → Outcome ξ → Prop) [∀ q o, Decidable (allow q o)] (s : CallsState ι ξ S R α σ)
    (e : CallEvent ι ξ ε) : Decidable (InTurn allow s e) :=
  match e with
  | .pass _ => .isTrue trivial
  | .turn i o =>
    have : Decidable (∀ q, (s.prog i).next? = some q → allow q o) :=
      inferInstanceAs (Decidable (∀ q ∈ (s.prog i).next?, allow q o))
    inferInstanceAs (Decidable (_ ∧ _))

end Machine

/-! ## One call at a time -/

section Invariant

variable [DecidableEq ι] {C : Setting ξ S R Unit σ} {K : Contract S σ} {I : σ → Prop} {pass : ε → σ → σ}
  {p : ι → Prog ξ S R α}

structure OneByOne (C : Setting ξ S R Unit σ) (K : Contract S σ) (I : σ → Prop) (p : ι → Prog ξ S R α)
    (s : CallsState ι ξ S R α σ) : Prop where
  inv : K.inv s.store
  settled : s.Idle → I s.store
  fresh : ∀ i, s.begun i = false → s.prog i = p i
  known : ∀ i, s.InProgress i → (s.prog i).wp C K (fun _ _ => I) (fun _ _ => I) () s.store

/-- Judging each call alone: its program, begun where `I` holds, keeps the invariant and leaves `I` behind. -/
structure EachSound (C : Setting ξ S R Unit σ) (K : Contract S σ) (I : σ → Prop) (pass : ε → σ → σ)
    (p : ι → Prog ξ S R α) : Prop where
  refl : ∀ st, K.rely st st
  trans : ∀ a b c, K.rely a b → K.rely b c → K.rely a c
  stable : ∀ st st', K.rely st st' → I st → I st'
  passes : ∀ e st, K.inv st → K.rely st (pass e st) ∧ K.inv (pass e st)
  sound : ∀ i st, I st → (p i).wp C K (fun _ _ => I) (fun _ _ => I) () st

theorem OneByOne.wp (hp : EachSound C K I pass p) {s : CallsState ι ξ S R α σ} (hs : OneByOne C K I p s) {i : ι}
    (halone : ∀ j, j ≠ i → ¬ s.InProgress j) (hnext : (s.prog i).next?.isSome = true) :
    (s.prog i).wp C K (fun _ _ => I) (fun _ _ => I) () s.store := by
  cases hbegun : s.begun i with
  | true => exact hs.known i ⟨hbegun, hnext⟩
  | false =>
    have hidle : s.Idle := by
      intro j
      by_cases hj : j = i
      · subst hj
        intro hprogress
        rw [hprogress.1] at hbegun
        cases hbegun
      · exact halone j hj
    rw [hs.fresh i hbegun]
    exact hp.sound i s.store (hs.settled hidle)

/-- One event keeps what is known. -/
theorem OneByOne.move {allow : S → Outcome ξ → Prop} (hallow : ∀ q o st, allow q o → C.allow () q o st)
    (hp : EachSound C K I pass p) {s s' : CallsState ι ξ S R α σ} {e : CallEvent ι ξ ε} (hs : OneByOne C K I p s)
    (hok : InTurn allow s e) (hmove : callsMove C.exec pass s e = some s') : OneByOne C K I p s' := by
  cases e with
  | pass e =>
    cases hmove
    obtain ⟨hrely, hinv⟩ := hp.passes e s.store hs.inv
    exact
      { inv := hinv
        settled := fun hidle => hp.stable _ _ hrely (hs.settled hidle)
        fresh := hs.fresh
        known := fun i hi => wp_rely hp.trans (fun _ _ _ _ hr h => hp.stable _ _ hr h)
          (fun _ _ _ _ hr h => hp.stable _ _ hr h) hrely (hs.known i hi) }
  | turn i o =>
    obtain ⟨halone, hlink⟩ := hok
    have hwp := hs.wp hp halone
    rw [callsMove] at hmove
    cases hprog : s.prog i with
    | ret a =>
      simp only [hprog] at hmove
      cases hmove
    | fail x =>
      simp only [hprog] at hmove
      cases hmove
    | ask q k =>
      rw [hprog] at hwp hlink
      simp only [hprog] at hmove
      cases hmove
      obtain ⟨hinv, -, hrest⟩ := hwp rfl s.store (hp.refl s.store) hs.inv o (hallow q o _ (hlink q rfl))
      refine ⟨hinv, fun hidle => ?_, fun j hj => ?_, fun j hj => ?_⟩
      · -- the call has ended
        have hended : ¬ (k (answer C.exec q o s.store).1).next?.isSome = true := by
          intro hnext
          exact hidle i (CallsState.inProgress_put_self.mpr hnext)
        cases hk : k (answer C.exec q o s.store).1 with
        | ret a =>
          rw [hk] at hrest
          exact hrest
        | fail x =>
          rw [hk] at hrest
          exact hrest
        | ask q' k' =>
          rw [hk] at hended
          exact absurd rfl hended
      · have hji : j ≠ i := by
          rintro rfl
          rw [CallsState.put_begun_self] at hj
          cases hj
        rw [CallsState.put_begun_of_ne hji] at hj
        rw [CallsState.put_prog_of_ne hji]
        exact hs.fresh j hj
      · by_cases hji : j = i
        · subst hji
          rw [CallsState.put_prog_self]
          exact hrest
        · exact absurd ((CallsState.inProgress_put_of_ne hji).mp hj) (halone j hji)

/-- Calls that come one after the other keep the invariant in every state, and leave `I` behind whenever none is in
    progress. -/
theorem inTurn_invariant {allow : S → Outcome ξ → Prop} (hallow : ∀ q o st, allow q o → C.allow () q o st)
    (hp : EachSound C K I pass p) {st : σ} (hinv : K.inv st) (hst : I st) {s : CallsState ι ξ S R α σ}
    (h : (callsMachine C.exec pass p st).Reach (InTurn allow) s) : K.inv s.store ∧ (s.Idle → I s.store) := by
  have hinit : OneByOne C K I p (callsMachine C.exec pass p st).init :=
    { inv := hinv
      settled := fun _ => hst
      fresh := fun _ _ => rfl
      known := fun i hi => Bool.noConfusion hi.1 }
  have hs : OneByOne C K I p s := by
    refine Machine.reach_invariant hinit (fun s e s' o hs hok hstep => ?_) h
    obtain ⟨s₁, hmove, heq⟩ := Option.map_eq_some_iff.mp hstep
    cases heq
    exact hs.move hallow hp hok hmove
  exact ⟨hs.inv, hs.settled⟩

end Invariant

end Exec
