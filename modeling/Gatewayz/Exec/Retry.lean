import Gatewayz.Exec.Prog
import Mathlib.Data.Nat.Notation

/-!
# `Exec.Retry` — a program that is tried again

`Prog.retry` attempts a program a number of times. An exception that is `final` is raised at once; after any other the next attempt
follows, and the exception of the last one is raised as `giveUp` has it.

`attempts` takes a run apart into its attempts: the exceptions after which there was another attempt, and what the last one ended with.
-/

namespace Exec

variable {ξ S : Type} {R : S → Type} {α σ : Type}

/-! ## Others on the store -/

/-- The store with the moves of the others that are still to come, one before each statement that is carried out. -/
def among (exec : (s : S) → σ → Except ξ (R s) × σ) (s : S) (st : σ × List (σ → σ)) : Except ξ (R s) × (σ × List (σ → σ)) :=
  let done := exec s (st.2.headD id st.1)
  (done.1, (done.2, st.2.tail))

/-! ## Attempts -/

namespace Prog

/-- Up to `left + 1` attempts, the first of them with the number `attempt`. -/
def retry (p : ℕ → Prog ξ S R α) (final : ξ → Prop) [DecidablePred final] (giveUp : ξ → ξ) (attempt : ℕ) : ℕ → Prog ξ S R α
  | 0 => tryCatch (p attempt) fun e => if final e then throw e else throw (giveUp e)
  | left + 1 => tryCatch (p attempt) fun e => if final e then throw e else retry p final giveUp (attempt + 1) left

structure Attempts (ξ α σ : Type) where
  /-- The exceptions after which there was another attempt. -/
  retried : List ξ
  last : Except ξ α
  link : List (Outcome ξ)
  store : σ

namespace Attempts

def count (a : Attempts ξ α σ) : ℕ := a.retried.length + 1

def result (a : Attempts ξ α σ) (final : ξ → Prop) [DecidablePred final] (giveUp : ξ → ξ) : Except ξ α :=
  match a.last with
  | .ok b => .ok b
  | .error e => .error (if final e then e else giveUp e)

def after (e : ξ) (a : Attempts ξ α σ) : Attempts ξ α σ := { a with retried := e :: a.retried }

end Attempts

variable (exec : (s : S) → σ → Except ξ (R s) × σ) (p : ℕ → Prog ξ S R α) (final : ξ → Prop) [DecidablePred final]

/-- A run of the loop, taken apart. -/
def attempts (attempt : ℕ) : ℕ → List (Outcome ξ) → σ → Attempts ξ α σ
  | 0, os, st =>
    let (r, link, store) := (p attempt).run exec os st
    ⟨[], r, link, store⟩
  | left + 1, os, st =>
    match (p attempt).run exec os st with
    | (.ok a, link, store) => ⟨[], .ok a, link, store⟩
    | (.error e, link, store) => if final e then ⟨[], .error e, link, store⟩ else (attempts (attempt + 1) left link store).after e

variable (giveUp : ξ → ξ) (attempt left : ℕ) (os : List (Outcome ξ)) (st : σ)

theorem attempts_of_retried {e : ξ} (hraised : ((p attempt).run exec os st).1 = .error e) (hfinal : ¬final e) :
    attempts exec p final attempt (left + 1) os st =
      (attempts exec p final (attempt + 1) left ((p attempt).run exec os st).2.1 ((p attempt).run exec os st).2.2).after e := by
  rw [attempts]
  generalize (p attempt).run exec os st = run at hraised ⊢
  obtain ⟨r, link, store⟩ := run
  obtain rfl : r = .error e := hraised
  exact if_neg hfinal

/-- The attempts are the run. -/
theorem run_retry : (retry p final giveUp attempt left).run exec os st =
      ((attempts exec p final attempt left os st).result final giveUp, (attempts exec p final attempt left os st).link,
        (attempts exec p final attempt left os st).store) := by
  induction left generalizing attempt os st with
  | zero =>
    rw [retry, run_tryCatch, attempts]
    generalize (p attempt).run exec os st = run
    obtain ⟨r, link, store⟩ := run
    cases r with
    | ok a => rfl
    | error e =>
      by_cases hfinal : final e
      · simp [Attempts.result, hfinal, run]
      · simp [Attempts.result, hfinal, run]
  | succ left ih =>
    rw [retry, run_tryCatch, attempts]
    generalize (p attempt).run exec os st = run
    obtain ⟨r, link, store⟩ := run
    cases r with
    | ok a => rfl
    | error e =>
      by_cases hfinal : final e
      · simp [Attempts.result, hfinal, run]
      · simp only [if_neg hfinal]
        exact ih (attempt + 1) link store

/-- What holds of every attempt holds of those of a run. -/
theorem attempts_forall {P : Except ξ α → Prop} (h : ∀ n os st, P ((p n).run exec os st).1) :
    (∀ e ∈ (attempts exec p final attempt left os st).retried, P (.error e)) ∧ P (attempts exec p final attempt left os st).last := by
  induction left generalizing attempt os st with
  | zero => exact ⟨fun e he => absurd he List.not_mem_nil, h attempt os st⟩
  | succ left ih =>
    have hfirst := h attempt os st
    rw [attempts]
    generalize (p attempt).run exec os st = run at hfirst ⊢
    obtain ⟨r, link, store⟩ := run
    cases r with
    | ok a => exact ⟨fun e he => absurd he List.not_mem_nil, hfirst⟩
    | error e =>
      by_cases hfinal : final e
      · simp only [if_pos hfinal]
        exact ⟨fun e he => absurd he List.not_mem_nil, hfirst⟩
      · simp only [if_neg hfinal]
        obtain ⟨hall, hlast⟩ := ih (attempt + 1) link store
        exact ⟨List.forall_mem_cons.mpr ⟨hfirst, hall⟩, hlast⟩

/-- No final exception is followed by another attempt, and there are not more attempts than there may be. -/
theorem retried_spec : (∀ e ∈ (attempts exec p final attempt left os st).retried, ¬final e) ∧
      (attempts exec p final attempt left os st).retried.length ≤ left := by
  induction left generalizing attempt os st with
  | zero => exact ⟨fun e he => absurd he List.not_mem_nil, Nat.le_refl _⟩
  | succ left ih =>
    rw [attempts]
    generalize (p attempt).run exec os st = run
    obtain ⟨r, link, store⟩ := run
    cases r with
    | ok a => exact ⟨fun e he => absurd he List.not_mem_nil, Nat.zero_le _⟩
    | error e =>
      by_cases hfinal : final e
      · simp only [if_pos hfinal]
        exact ⟨fun e he => absurd he List.not_mem_nil, Nat.zero_le _⟩
      · simp only [if_neg hfinal]
        obtain ⟨hall, hlength⟩ := ih (attempt + 1) link store
        exact ⟨List.forall_mem_cons.mpr ⟨hfinal, hall⟩, Nat.succ_le_succ hlength⟩

/-- The loop ends with a result, with a final exception, or when there is no attempt left. -/
theorem last_spec {e : ξ} (hraised : (attempts exec p final attempt left os st).last = .error e) (hfinal : ¬final e) :
    (attempts exec p final attempt left os st).retried.length = left := by
  induction left generalizing attempt os st with
  | zero => rfl
  | succ left ih =>
    rw [attempts] at hraised ⊢
    generalize (p attempt).run exec os st = run at hraised ⊢
    obtain ⟨r, link, store⟩ := run
    cases r with
    | ok a => cases hraised
    | error e' =>
      by_cases hfinal' : final e'
      · simp only [if_pos hfinal'] at hraised
        cases hraised
        exact absurd hfinal' hfinal
      · simp only [if_neg hfinal'] at hraised ⊢
        exact congrArg Nat.succ (ih (attempt + 1) link store hraised)

end Prog

end Exec
