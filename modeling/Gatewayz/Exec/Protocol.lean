import Gatewayz.Exec.Pool

/-!
# `Exec.Protocol` — programs in phases

Some invariants of a shared store speak about **what the threads are at**: a row of a lock table is there only
while some thread holds the lock. The store does not tell, and the programs, being trees, tell only what they do
next.

A `Protocol` is an automaton that reads a program's statements and answers. `Prog.Obeys` says that a program
issues only the statements that are in turn, and ends only where it may;
-/

namespace Exec

variable {ξ S : Type} {R : S → Type} {γ σ α β ι Φ : Type}

/-- The phases of a program: the statements that are in turn in each, and the phases an answer leads to. -/
structure Protocol (ξ S : Type) (R : S → Type) (Φ : Type) where
  may : Φ → S → Prop
  next : Φ → (s : S) → Except ξ (R s) → Φ → Prop

/-- From the phase on, the program keeps to the protocol, and ends as the postconditions say. -/
def Prog.Obeys (M : Protocol ξ S R Φ) (Q : α → Φ → Prop) (E : ξ → Φ → Prop) : Prog ξ S R α → Φ → Prop
  | .ret a, φ => Q a φ
  | .fail e, φ => E e φ
  | .ask s k, φ => M.may φ s ∧ ∀ r, ∃ φ', M.next φ s r φ' ∧ Prog.Obeys M Q E (k r) φ'

section Rules

variable {M : Protocol ξ S R Φ} {Q Q' : α → Φ → Prop} {E E' : ξ → Φ → Prop}

variable (p : Prog ξ S R α)

theorem obeys_bind (f : α → Prog ξ S R β) {Q : β → Φ → Prop} (φ : Φ) :
    (p >>= f).Obeys M Q E φ = p.Obeys M (fun a => (f a).Obeys M Q E) E φ := by
  induction p generalizing φ with
  | ret a => rfl
  | fail e => rfl
  | ask s k ih => simp only [Prog.ask_bind, Prog.Obeys, ih]

theorem obeys_attempt {Q : Except ξ α → Φ → Prop} (φ : Φ) :
    p.attempt.Obeys M Q E φ = p.Obeys M (fun a => Q (.ok a)) (fun e => Q (.error e)) φ := by
  induction p generalizing φ with
  | ret a => rfl
  | fail e => rfl
  | ask s k ih => simp only [Prog.attempt, Prog.Obeys, ih]

theorem obeys_tryCatch (h : ξ → Prog ξ S R α) (φ : Φ) :
    (tryCatch p h : Prog ξ S R α).Obeys M Q E φ = p.Obeys M Q (fun e => (h e).Obeys M Q E) φ := by
  change (Prog.instMonadExcept.go h p).Obeys M Q E φ = _
  induction p generalizing φ with
  | ret a => rfl
  | fail e => rfl
  | ask s k ih => simp only [Prog.instMonadExcept.go, Prog.Obeys, ih]

theorem obeys_stmt {s : S} {Q : R s → Φ → Prop} {φ : Φ} (hmay : M.may φ s)
    (h : ∀ r, ∃ φ', M.next φ s r φ' ∧ Answered (fun a => Q a φ') (fun e => E e φ') r) :
    (Prog.stmt s : Prog ξ S R (R s)).Obeys M Q E φ := by
  refine ⟨hmay, fun r => ?_⟩
  obtain ⟨φ', hnext, hend⟩ := h r
  refine ⟨φ', hnext, ?_⟩
  cases r with
  | ok a => exact hend
  | error e => exact hend

theorem obeys_mono {p : Prog ξ S R α} {φ : Φ} (hQ : ∀ a φ, Q a φ → Q' a φ) (hE : ∀ e φ, E e φ → E' e φ)
    (h : p.Obeys M Q E φ) : p.Obeys M Q' E' φ := by
  induction p generalizing φ with
  | ret a => exact hQ a φ h
  | fail e => exact hE e φ h
  | ask s k ih =>
    refine ⟨h.1, fun r => ?_⟩
    obtain ⟨φ', hnext, hk⟩ := h.2 r
    exact ⟨φ', hnext, ih r hk⟩

theorem obeys_of_only {P : S → Prop} {p : Prog ξ S R α} {φ : Φ} (hp : p.Only P)
    (hmay : ∀ s, P s → M.may φ s ∧ ∀ r, M.next φ s r φ) (hQ : ∀ a, Q a φ) (hE : ∀ e, E e φ) : p.Obeys M Q E φ := by
  induction p with
  | ret a => exact hQ a
  | fail e => exact hE e
  | ask s k ih => exact ⟨(hmay s hp.1).1, fun r => ⟨φ, (hmay s hp.1).2 r, ih r (hp.2 r)⟩⟩

end Rules

namespace Pool

variable [DecidableEq ι] {C : Setting ξ S R γ σ}

/-- Every turn of the schedule satisfies `P`, which sees the whole pool. -/
def Throughout (C : Setting ξ S R γ σ) (P : Pool ι ξ S R γ α → σ → ι → Outcome ξ → Prop) :
    Schedule ι ξ → Pool ι ξ S R γ α → σ → Prop
  | [], _, _ => True
  | (i, o) :: ts, T, st => P T st i o ∧ Throughout C P ts (turn C i o T st).1 (turn C i o T st).2

instance decidableThroughout (C : Setting ξ S R γ σ) (P : Pool ι ξ S R γ α → σ → ι → Outcome ξ → Prop)
    [∀ T st i o, Decidable (P T st i o)] :
    ∀ (ts : Schedule ι ξ) (T : Pool ι ξ S R γ α) (st : σ), Decidable (Throughout C P ts T st)
  | [], _, _ => .isTrue trivial
  | (i, o) :: ts, T, st =>
    have := decidableThroughout C P ts (turn C i o T st).1 (turn C i o T st).2
    inferInstanceAs (Decidable (_ ∧ _))

theorem throughout_append {P : Pool ι ξ S R γ α → σ → ι → Outcome ξ → Prop} (ts us : Schedule ι ξ)
    (T : Pool ι ξ S R γ α) (st : σ) : Throughout C P (ts ++ us) T st ↔
      Throughout C P ts T st ∧ Throughout C P us (run C ts T st).1 (run C ts T st).2 := by
  induction ts generalizing T st with
  | nil => simp [Throughout, run]
  | cons t ts ih =>
    obtain ⟨i, o⟩ := t
    simp only [List.cons_append, Throughout, run, ih, and_assoc]

/-- Every thread keeps to its protocol from its phase on. -/
def Phased (M : ι → Protocol ξ S R Φ) (Q : ι → α → Φ → Prop) (E : ι → ξ → Φ → Prop) (φ : ι → Φ)
    (T : Pool ι ξ S R γ α) : Prop :=
  ∀ i, (T i).prog.Obeys (M i) (Q i) (E i) (φ i)

variable {M : ι → Protocol ξ S R Φ} {Q : ι → α → Φ → Prop} {E : ι → ξ → Φ → Prop}

/-- One statement of thread `i` in phase `φ i`: all there is to know about a turn. -/
structure Move (C : Setting ξ S R γ σ) (M : ι → Protocol ξ S R Φ) (Q : ι → α → Φ → Prop)
    (E : ι → ξ → Φ → Prop) (φ : ι → Φ) (T : Pool ι ξ S R γ α) (st : σ) (i : ι) (o : Outcome ξ) (s : S)
    (φ' : Φ) : Prop where
  issued : (T i).prog.next? = some s
  may : (M i).may (φ i) s
  next : (M i).next (φ i) s (answer C.exec s o st).1 φ'
  store : (turn C i o T st).2 = (answer C.exec s o st).2
  obeys : ((turn C i o T st).1 i).prog.Obeys (M i) (Q i) (E i) φ'
  others : ∀ j, j ≠ i → (turn C i o T st).1 j = T j

variable {T : Pool ι ξ S R γ α}

/-- A turn is a move of the thread's protocol, or nothing. -/
theorem phased_turn {φ : ι → Φ} {st : σ} (h : Phased M Q E φ T) (i : ι) (o : Outcome ξ) :
    turn C i o T st = (T, st) ∨ ∃ s φ', Move C M Q E φ T st i o s φ' := by
  have hi := h i
  cases hp : (T i).prog with
  | ret a => left; simp [turn, hp]
  | fail e => left; simp [turn, hp]
  | ask s k =>
    right
    rw [hp] at hi
    obtain ⟨φ', hnext, hk⟩ := hi.2 (answer C.exec s o st).1
    refine ⟨s, φ', ?_⟩
    constructor
    · rw [hp]; rfl
    · exact hi.1
    · exact hnext
    · simp [turn, hp]
    · simpa [turn, hp] using hk
    · intro j hj
      simp [turn, hp, hj]

theorem Move.phased {φ : ι → Φ} {st : σ} {i : ι} {o : Outcome ξ} {s : S} {φ' : Φ}
    (hm : Move C M Q E φ T st i o s φ') (h : Phased M Q E φ T) :
    Phased M Q E (Function.update φ i φ') (turn C i o T st).1 := by
  intro j
  by_cases hj : j = i
  · subst hj
    rw [Function.update_self]
    exact hm.obeys
  · rw [Function.update_of_ne hj, hm.others j hj]
    exact h j

/-- An invariant between the phases and the store that every move keeps holds along every schedule. -/
theorem phased_run {J : (ι → Φ) → σ → Prop} {P : Pool ι ξ S R γ α → σ → ι → Outcome ξ → Prop}
    (hstep : ∀ φ T st i o s φ', Phased M Q E φ T → J φ st → P T st i o → Move C M Q E φ T st i o s φ' →
      J (Function.update φ i φ') (turn C i o T st).2) (ts : Schedule ι ξ) {φ : ι → Φ} {st : σ}
    (hT : Phased M Q E φ T) (hJ : J φ st) (hP : Throughout C P ts T st) :
    ∃ φ', Phased M Q E φ' (run C ts T st).1 ∧ J φ' (run C ts T st).2 := by
  induction ts generalizing φ T st with
  | nil => exact ⟨φ, hT, hJ⟩
  | cons t ts ih =>
    obtain ⟨i, o⟩ := t
    have hturn : turn C i o T st = (T, st) ∨ ∃ s φ', Move C M Q E φ T st i o s φ' := phased_turn hT i o
    rcases hturn with hstay | ⟨s, φ', hm⟩
    · have hP := hP.2
      rw [run, hstay]
      rw [hstay] at hP
      exact ih hT hJ hP
    · exact ih (hm.phased hT) (hstep φ T st i o s φ' hT hJ hP.1 hm) hP.2

end Pool

end Exec
