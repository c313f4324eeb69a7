import Mathlib.Tactic.Basic

/-!
# `Exec.Machine` — systems that react to events

Not everything is a program that issues statements: an event loop is better told as a state and what an event makes of it.
A `Machine` gives the events that may happen in a state, the state each leads to, and what it replies. Every order of events
of any number of parties is one run.

`Reach` collects the states of the runs whose events satisfy a condition.
-/

namespace Exec

/-- A system that reacts: `step s e` is `none` where `e` cannot happen in `s`. -/
structure Machine (S E O : Type) where
  init : S
  step : S → E → Option (S × O)

namespace Machine

variable {S E O : Type} (M : Machine S E O)

/-- The states of all runs whose events are `ok` where they happen. -/
inductive Reach (ok : S → E → Prop) : S → Prop where
  | init : Reach ok M.init
  | next {s s' : S} {e : E} {o : O} : Reach ok s → ok s e → M.step s e = some (s', o) → Reach ok s'

/-- The state after a list of events, and the replies, if all of them can happen. -/
def run : S → List E → Option (S × List O)
  | s, [] => some (s, [])
  | s, e :: es => (M.step s e).bind fun (s', o) => (run s' es).map fun (t, os) => (t, o :: os)

/-- Every event of the list is `ok` where it happens. -/
def Within (ok : S → E → Prop) : S → List E → Prop
  | _, [] => True
  | s, e :: es => ok s e ∧ ∀ s' o, M.step s e = some (s', o) → Within ok s' es

instance decidableWithin (ok : S → E → Prop) [∀ s e, Decidable (ok s e)] : ∀ s es, Decidable (M.Within ok s es)
  | _, [] => .isTrue trivial
  | s, e :: es =>
    have : Decidable (∀ s' o, M.step s e = some (s', o) → M.Within ok s' es) :=
      match M.step s e with
      | none => .isTrue nofun
      | some (s', o) =>
        have := decidableWithin ok s' es
        decidable_of_iff (M.Within ok s' es)
          ⟨fun h _ _ he => by cases he; exact h, fun h => h s' o rfl⟩
    inferInstanceAs (Decidable (_ ∧ _))

variable {M} {ok ok' : S → E → Prop} {s t : S}

theorem reach_invariant {I : S → Prop} (hinit : I M.init)
    (hstep : ∀ s e s' o, I s → ok s e → M.step s e = some (s', o) → I s') (h : M.Reach ok s) : I s := by
  induction h with
  | init => exact hinit
  | next _ hok he ih => exact hstep _ _ _ _ ih hok he

theorem reach_mono (h : ∀ s e, ok s e → ok' s e) (hs : M.Reach ok s) : M.Reach ok' s := by
  induction hs with
  | init => exact .init
  | next _ hok he ih => exact .next ih (h _ _ hok) he

/-- What a list of events leads to is reached: by induction on the list. -/
theorem reach_of_run (hs : M.Reach ok s) (es : List E) (os : List O) (hw : M.Within ok s es)
    (hr : M.run s es = some (t, os)) : M.Reach ok t := by
  induction es generalizing s os with
  | nil =>
    rw [run] at hr
    cases hr
    exact hs
  | cons e es ih =>
    rw [run] at hr
    cases he : M.step s e with
    | none =>
      rw [he] at hr
      cases hr
    | some p =>
      rw [he, Option.bind_some, Option.map_eq_some_iff] at hr
      obtain ⟨q, hq, hqt⟩ := hr
      cases hqt
      exact ih (.next hs hw.1 he) q.2 (hw.2 _ _ he) hq

end Machine

end Exec
