import Gatewayz.Exec.Wp
import Mathlib.Algebra.BigOperators.Group.Finset.Piecewise
import Mathlib.Tactic.Abel

/-!
# `Exec.Pool` — any number of programs on one store

A pool is a family of threads, each a program with the note its observer keeps about it, over one store. A
**schedule** names, turn by turn, the thread that issues its next statement and what the link does with it.
Every order of statements of every number of programs is one schedule, and every prefix of a schedule is a
schedule, so a fact about the end of every schedule is a fact about every state reached.

`pool_run` is the soundness theorem. If every thread satisfies its `wp`, and what one thread guarantees every
other thread relies on, then along every admitted schedule the invariant holds, every logged step keeps its
thread's guarantee, and every finished thread satisfies its postcondition.
-/

namespace Exec

variable {ξ S : Type} {R : S → Type} {γ σ α ι : Type}

structure Thread (ξ S : Type) (R : S → Type) (γ α : Type) where
  note : γ
  prog : Prog ξ S R α

abbrev Pool (ι ξ S : Type) (R : S → Type) (γ α : Type) := ι → Thread ξ S R γ α

structure Entry (ι S σ : Type) where
  who : ι
  stmt : S
  before : σ
  after : σ

/-- **The schedule**: who takes the next turn, and what the link does with the statement. -/
abbrev Schedule (ι ξ : Type) := List (ι × Outcome ξ)

/-- A program on a part of the store: `f` gives the statements, `g` reads the answers. -/
def Prog.embed {S' : Type} {R' : S' → Type} (f : S → S') (g : (s : S) → R' (f s) → R s) : Prog ξ S R α → Prog ξ S' R' α
  | .ret a => .ret a
  | .fail e => .fail e
  | .ask s k => .ask (f s) fun r => Prog.embed f g (k (r.map (g s)))

namespace Pool

section Turn

variable [DecidableEq ι] (C : Setting ξ S R γ σ)

/-- One turn of thread `i`. -/
def turn (i : ι) (o : Outcome ξ) (T : Pool ι ξ S R γ α) (st : σ) : Pool ι ξ S R γ α × σ :=
  match (T i).prog with
  | .ret _ => (T, st)
  | .fail _ => (T, st)
  | .ask s k =>
    (Function.update T i
      ⟨C.note (T i).note s (answer C.exec s o st).1 st (answer C.exec s o st).2,
        k (answer C.exec s o st).1⟩,
      (answer C.exec s o st).2)

def run : Schedule ι ξ → Pool ι ξ S R γ α → σ → Pool ι ξ S R γ α × σ
  | [], T, st => (T, st)
  | (i, o) :: ts, T, st => run ts (turn C i o T st).1 (turn C i o T st).2

/-- The statements a schedule carries out, in order. -/
def log : Schedule ι ξ → Pool ι ξ S R γ α → σ → List (Entry ι S σ)
  | [], _, _ => []
  | (i, o) :: ts, T, st =>
    ((T i).prog.next?.toList.map fun s => ⟨i, s, st, (turn C i o T st).2⟩) ++
      log ts (turn C i o T st).1 (turn C i o T st).2

/-- Every turn of the schedule stays within what the setting allows. -/
def Admits : Schedule ι ξ → Pool ι ξ S R γ α → σ → Prop
  | [], _, _ => True
  | (i, o) :: ts, T, st =>
    (∀ s, (T i).prog.next? = some s → C.allow (T i).note s o st) ∧
      Admits ts (turn C i o T st).1 (turn C i o T st).2

end Turn

/-- A pool about to start: every note is `g₀`. -/
def start (g₀ : γ) (p : ι → Prog ξ S R α) : Pool ι ξ S R γ α := fun i => ⟨g₀, p i⟩

/-- Thread `i` ran to the end without an exception. -/
def Done (T : Pool ι ξ S R γ α) (i : ι) : Prop := ∃ a, (T i).prog = .ret a

instance (T : Pool ι ξ S R γ α) (i : ι) : Decidable (Done T i) :=
  match h : (T i).prog with
  | .ret a => .isTrue ⟨a, h⟩
  | .fail _ => .isFalse fun ⟨_, hd⟩ => nomatch h.symm.trans hd
  | .ask _ _ => .isFalse fun ⟨_, hd⟩ => nomatch h.symm.trans hd

/-- Whether a concrete schedule stays within a decidable setting can be computed. -/
instance decidableAdmits [DecidableEq ι] (C : Setting ξ S R γ σ) [∀ g s o st, Decidable (C.allow g s o st)] :
    ∀ (ts : Schedule ι ξ) (T : Pool ι ξ S R γ α) (st : σ), Decidable (Admits C ts T st)
  | [], _, _ => .isTrue trivial
  | (i, o) :: ts, T, st =>
    have : Decidable (∀ s, (T i).prog.next? = some s → C.allow (T i).note s o st) :=
      match (T i).prog.next? with
      | none => .isTrue nofun
      | some s => decidable_of_iff (C.allow (T i).note s o st) (by simp)
    have := decidableAdmits C ts (turn C i o T st).1 (turn C i o T st).2
    inferInstanceAs (Decidable (_ ∧ _))

/-! ## Soundness -/

variable {T : Pool ι ξ S R γ α} {st : σ}

section Sound

variable [DecidableEq ι] {C : Setting ξ S R γ σ} {K : ι → Contract S σ} {I : σ → Prop}
variable {Q : ι → α → γ → σ → Prop} {E : ι → ξ → γ → σ → Prop}

def Safe (C : Setting ξ S R γ σ) (K : ι → Contract S σ) (Q : ι → α → γ → σ → Prop)
    (E : ι → ξ → γ → σ → Prop) (T : Pool ι ξ S R γ α) (st : σ) : Prop :=
  ∀ i, Prog.wp C (K i) (Q i) (E i) (T i).prog (T i).note st

/-- The parties fit together: they share one invariant, relies are preorders, the postconditions survive
    other parties' moves, and what one party guarantees the others rely on. -/
structure Compatible (K : ι → Contract S σ) (I : σ → Prop) (Q : ι → α → γ → σ → Prop)
    (E : ι → ξ → γ → σ → Prop) : Prop where
  inv : ∀ i, (K i).inv = I
  refl : ∀ i st, (K i).rely st st
  trans : ∀ i a b c, (K i).rely a b → (K i).rely b c → (K i).rely a c
  result : ∀ i a g st st', (K i).rely st st' → Q i a g st → Q i a g st'
  raise : ∀ i e g st st', (K i).rely st st' → E i e g st → E i e g st'
  fits : ∀ i j, i ≠ j → ∀ s st st', I st → I st' → (K i).guar s st st' → (K j).rely st st'

/-- One turn of a safe pool: the thread keeps its guarantee, the invariant holds, the pool stays safe. -/
theorem safe_turn (hK : Compatible K I Q E) {i : ι} {o : Outcome ξ} (hs : Safe C K Q E T st)
    (hi : I st) (ha : ∀ s, (T i).prog.next? = some s → C.allow (T i).note s o st) :
    I (turn C i o T st).2 ∧ Safe C K Q E (turn C i o T st).1 (turn C i o T st).2 ∧
      ∀ s, (T i).prog.next? = some s → (K i).guar s st (turn C i o T st).2 := by
  have hwp := hs i
  unfold turn
  cases hp : (T i).prog with
  | ret a => exact ⟨hi, hs, by simp [Prog.next?]⟩
  | fail e => exact ⟨hi, hs, by simp [Prog.next?]⟩
  | ask s k =>
    rw [hp] at hwp
    have hI : (K i).inv st := by rw [hK.inv]; exact hi
    obtain ⟨hi', hg, hk⟩ := hwp st (hK.refl i st) hI o (ha s (by rw [hp]; rfl))
    rw [hK.inv] at hi'
    refine ⟨hi', ?_, ?_⟩
    · intro j
      by_cases hj : j = i
      · subst hj
        simpa only [Function.update_self] using hk
      · simp only [Function.update_of_ne hj]
        exact wp_rely (hK.trans j) (hK.result j) (hK.raise j)
          (hK.fits i j (Ne.symm hj) s _ _ hi hi' hg) (hs j)
    · intro s' hs'
      obtain rfl : s = s' := by simpa [Prog.next?] using hs'
      exact hg

/-- Soundness of `wp` for a pool. -/
theorem pool_run (hK : Compatible K I Q E) (ts : Schedule ι ξ) (hs : Safe C K Q E T st) (hi : I st)
    (ha : Admits C ts T st) : I (run C ts T st).2 ∧ Safe C K Q E (run C ts T st).1 (run C ts T st).2 ∧
      ∀ x ∈ log C ts T st, (K x.who).guar x.stmt x.before x.after := by
  induction ts generalizing T st with
  | nil => exact ⟨hi, hs, by simp [log]⟩
  | cons t ts ih =>
    obtain ⟨i, o⟩ := t
    obtain ⟨hi', hs', hg⟩ := safe_turn hK hs hi ha.1
    obtain ⟨hI, hS, hlog⟩ := ih hs' hi' ha.2
    refine ⟨hI, hS, ?_⟩
    intro x hx
    simp only [log, List.mem_append, List.mem_map, Option.mem_toList] at hx
    rcases hx with ⟨s, hsome, rfl⟩ | hx
    · exact hg s hsome
    · exact hlog x hx

omit [DecidableEq ι] in
theorem Safe.done (hs : Safe C K Q E T st) {i : ι} {a : α} (hd : (T i).prog = .ret a) : Q i a (T i).note st := by
  have h := hs i
  rw [hd] at h
  exact h

omit [DecidableEq ι] in
theorem Safe.raised (hs : Safe C K Q E T st) {i : ι} {e : ξ} (hr : (T i).prog = .fail e) : E i e (T i).note st := by
  have h := hs i
  rw [hr] at h
  exact h

end Sound

/-- What each thread's kind of statements keeps, the run keeps. -/
theorem run_keeps_of_only [DecidableEq ι] {C : Setting ξ S R γ σ} {P : ι → S → Prop} {I : σ → Prop}
    (hstep : ∀ i s, P i s → ∀ st, I st → I (C.exec s st).2) (ts : Schedule ι ξ)
    (hT : ∀ i, (T i).prog.Only (P i)) (hst : I st) : I (run C ts T st).2 := by
  induction ts generalizing T st with
  | nil => exact hst
  | cons t ts ih =>
    obtain ⟨i, o⟩ := t
    unfold run turn
    cases hp : (T i).prog with
    | ret a => exact ih hT hst
    | fail e => exact ih hT hst
    | ask s k =>
      have hask := hT i
      rw [hp] at hask
      refine ih (fun j => ?_) ?_
      · by_cases hj : j = i
        · subst hj
          simpa only [Function.update_self] using hask.2 _
        · simpa only [Function.update_of_ne hj] using hT j
      · cases o with
        | served => exact hstep i s hask.1 st hst
        | dropped e => exact hst
        | lost e => exact hstep i s hask.1 st hst

/-! ## The log in order -/

section Log

variable [DecidableEq ι] {C : Setting ξ S R γ σ}

/-- What every admitted statement keeps, a schedule keeps. -/
theorem pool_keeps {I : σ → Prop}
    (h : ∀ g s o st, C.allow g s o st → I st → I (answer C.exec s o st).2) (ts : Schedule ι ξ)
    (ha : Admits C ts T st) (hst : I st) : I (run C ts T st).2 := by
  induction ts generalizing T st with
  | nil => exact hst
  | cons t ts ih =>
    obtain ⟨i, o⟩ := t
    refine ih ha.2 ?_
    have hallow := ha.1
    unfold turn
    cases hp : (T i).prog with
    | ret a => exact hst
    | fail e => exact hst
    | ask s k => exact h _ s o st (hallow s (by rw [hp]; rfl)) hst

theorem log_answer (ts : Schedule ι ξ) {x : Entry ι S σ} (hx : x ∈ log C ts T st) :
    ∃ o, x.after = (answer C.exec x.stmt o x.before).2 := by
  induction ts generalizing T st with
  | nil => simp [log] at hx
  | cons t ts ih =>
    obtain ⟨i, o⟩ := t
    simp only [log, List.mem_append, List.mem_map, Option.mem_toList] at hx
    rcases hx with ⟨s, hsome, rfl⟩ | hx
    · refine ⟨o, ?_⟩
      unfold turn
      cases hp : (T i).prog with
      | ret a => rw [hp] at hsome; cases hsome
      | fail e => rw [hp] at hsome; cases hsome
      | ask s' k => rw [hp] at hsome; cases hsome; rfl
    · exact ih hx

theorem log_kept {P : σ → Prop} (hP : ∀ s o st, P st → P (answer C.exec s o st).2)
    (ts : Schedule ι ξ) (h : P st) : ∀ x ∈ log C ts T st, P x.before := by
  induction ts generalizing T st with
  | nil => simp [log]
  | cons t ts ih =>
    obtain ⟨i, o⟩ := t
    intro x hx
    simp only [log, List.mem_append, List.mem_map, Option.mem_toList] at hx
    rcases hx with ⟨s, -, rfl⟩ | hx
    · exact h
    · refine ih ?_ x hx
      unfold turn
      cases (T i).prog with
      | ret a => exact h
      | fail e => exact h
      | ask s k => exact hP s o st h

/-- What one entry brings about and every statement keeps, all later entries find. -/
theorem log_once {P : σ → Prop} (hP : ∀ s o st, P st → P (answer C.exec s o st).2) (ts : Schedule ι ξ)
    (T : Pool ι ξ S R γ α) (st : σ) : (log C ts T st).Pairwise fun x y => P x.after → P y.before := by
  induction ts generalizing T st with
  | nil => exact .nil
  | cons t ts ih =>
    obtain ⟨i, o⟩ := t
    simp only [log]
    refine List.pairwise_append.mpr ⟨?_, ih _ _, ?_⟩
    · cases (T i).prog.next? with
      | none => exact .nil
      | some s => exact List.pairwise_singleton _ _
    · intro x hx y hy hafter
      obtain ⟨s, -, rfl⟩ := List.mem_map.mp hx
      exact log_kept hP ts hafter y hy

/-- Entries that add to a measure which no statement lowers are counted by it. -/
theorem log_count_le {m : σ → Nat} {b : Entry ι S σ → Prop} [DecidablePred b]
    (hstep : ∀ i s o st, m st + (if b ⟨i, s, st, (answer C.exec s o st).2⟩ then 1 else 0) ≤ m (answer C.exec s o st).2)
    (ts : Schedule ι ξ) (T : Pool ι ξ S R γ α) (st : σ) :
    m st + (log C ts T st).countP (b ·) ≤ m (run C ts T st).2 := by
  induction ts generalizing T st with
  | nil => exact le_refl _
  | cons t ts ih =>
    obtain ⟨i, o⟩ := t
    refine le_trans ?_ (ih _ _)
    rw [log, List.countP_append, ← Nat.add_assoc]
    refine Nat.add_le_add_right ?_ _
    unfold turn
    cases (T i).prog with
    | ret a => exact le_refl _
    | fail e => exact le_refl _
    | ask s k => simpa [Prog.next?, List.countP_cons] using hstep i s o st

/-- A preorder that leads across every entry of the log leads across the run. -/
theorem run_of_log {ρ : σ → σ → Prop} (hrefl : ∀ st, ρ st st) (htrans : ∀ {a b c}, ρ a b → ρ b c → ρ a c)
    (ts : Schedule ι ξ) (T : Pool ι ξ S R γ α) (st : σ) (h : ∀ x ∈ log C ts T st, ρ x.before x.after) :
    ρ st (run C ts T st).2 := by
  induction ts generalizing T st with
  | nil => exact hrefl st
  | cons t ts ih =>
    obtain ⟨i, o⟩ := t
    simp only [log, List.forall_mem_append, List.forall_mem_map, Option.mem_toList] at h
    obtain ⟨hturn, hrest⟩ := h
    refine htrans ?_ (ih _ _ hrest)
    cases hp : (T i).prog with
    | ret a => simpa only [turn, hp] using hrefl st
    | fail e => simpa only [turn, hp] using hrefl st
    | ask s k => exact hturn s (by rw [hp]; rfl)

end Log

/-! ## Who did it -/

section Blame

variable [DecidableEq ι] {C : Setting ξ S R γ σ} {m : σ → Prop} {blamed : γ → Prop}

theorem run_note (hkeep : ∀ g s r st st', blamed g → blamed (C.note g s r st st'))
    (ts : Schedule ι ξ) {i : ι} (h : blamed (T i).note) : blamed ((run C ts T st).1 i).note := by
  induction ts generalizing T st with
  | nil => exact h
  | cons t ts ih =>
    obtain ⟨j, o⟩ := t
    refine ih ?_
    unfold turn
    cases (T j).prog with
    | ret a => exact h
    | fail e => exact h
    | ask s k =>
      by_cases hj : i = j
      · subst hj
        simpa only [Function.update_self] using hkeep _ s _ _ _ h
      · simpa only [Function.update_of_ne hj] using h

/-- Somebody did it. What holds at the end held at the start, or some thread's note says who brought it about. -/
theorem run_blames (hkeep : ∀ g s r st st', blamed g → blamed (C.note g s r st st'))
    (hnew : ∀ g s o st, ¬ m st → m (answer C.exec s o st).2 →
      blamed (C.note g s (answer C.exec s o st).1 st (answer C.exec s o st).2)) (ts : Schedule ι ξ)
    (h : m (run C ts T st).2) :
    m st ∨ ∃ i, blamed ((run C ts T st).1 i).note := by
  induction ts generalizing T st with
  | nil => exact .inl h
  | cons t ts ih =>
    obtain ⟨i, o⟩ := t
    by_cases hm : m st
    · exact .inl hm
    rcases ih h with hnext | hsome
    · refine .inr ⟨i, run_note hkeep ts ?_⟩
      revert hnext
      unfold turn
      cases (T i).prog with
      | ret a => exact fun hnext => absurd hnext hm
      | fail e => exact fun hnext => absurd hnext hm
      | ask s k =>
        intro hnext
        simpa only [Function.update_self] using hnew _ s o st hm hnext
    · exact .inr hsome

end Blame

/-! ## Accounting over the threads -/

section Account

variable [DecidableEq ι] [Fintype ι] {C : Setting ξ S R γ σ} {M : Type} [AddCommGroup M]

theorem sum_update (f : Thread ξ S R γ α → M) (T : Pool ι ξ S R γ α) (i : ι) (t : Thread ξ S R γ α) :
    ∑ j, f (Function.update T i t j) = ∑ j, f (T j) + (f t - f (T i)) := by
  have hcomp : (fun j => f (Function.update T i t j)) = Function.update (fun j => f (T j)) i (f t) := by
    funext j
    by_cases hj : j = i
    · subst hj; simp
    · simp [hj]
  rw [hcomp, Finset.sum_update_of_mem (Finset.mem_univ i),
    ← Finset.sum_sdiff (Finset.singleton_subset_iff.mpr (Finset.mem_univ i)) (f := fun j => f (T j)),
    Finset.sum_singleton]
  abel

/-- What the threads did adds up. If each thread's note counts what the thread's own statements did to a
    measure of the store, the measure moves by the sum of the counts. -/
theorem measure_run (m : σ → M) (moved : γ → M)
    (hnote : ∀ g s o st, moved (C.note g s (answer C.exec s o st).1 st (answer C.exec s o st).2) =
      moved g + (m (answer C.exec s o st).2 - m st))
    (ts : Schedule ι ξ) (T : Pool ι ξ S R γ α) (st : σ) :
    m (run C ts T st).2 - ∑ i, moved ((run C ts T st).1 i).note = m st - ∑ i, moved (T i).note := by
  induction ts generalizing T st with
  | nil => rfl
  | cons t ts ih =>
    obtain ⟨i, o⟩ := t
    refine (ih _ _).trans ?_
    unfold turn
    cases hp : (T i).prog with
    | ret a => rfl
    | fail e => rfl
    | ask s k =>
      simp only
      rw [sum_update (fun t => moved t.note), hnote]
      abel

end Account

end Pool

end Exec
