import Mathlib.Data.Finset.Card

/-!
# `Exec.GrowingList` — loops over a list that grows

`for x in xs`, where the body may extend `xs` while the loop is on its way. The body looks at an item, its place and the list as it is by
then, and leaves the loop with a result or goes on, with more items at the end of the list.

Such a loop need not end. It does if there are only so many items and the body adds none twice (`run_ends`), and then it visits none
twice.
-/

namespace Exec

variable {α σ ρ : Type}

inductive Iteration (α σ ρ : Type) where
  | leave (r : ρ)
  | next (more : List α) (st : σ)

/-- A loop over a list that its body may extend, and what it comes to if the body never leaves it. -/
structure GrowingLoop (α σ ρ : Type) where
  body : Nat → List α → α → σ → Iteration α σ ρ
  finish : σ → ρ

namespace GrowingLoop

variable (L : GrowingLoop α σ ρ)

/-- The loop from a place on: the items visited up to its end, and the result. Nothing if the fuel is used up. -/
def run : Nat → List α → Nat → σ → Option (List α × ρ)
  | 0, _, _, _ => none
  | fuel + 1, xs, i, st =>
    if h : i < xs.length then
      match L.body i xs xs[i] st with
      | .leave r => some (xs.take (i + 1), r)
      | .next more st' => run fuel (xs ++ more) (i + 1) st'
    else some (xs, L.finish st)

variable {L} {fuel i : Nat} {xs : List α} {x : α} {st : σ}

theorem run_over (hx : xs[i]? = none) : L.run (fuel + 1) xs i st = some (xs, L.finish st) := by
  rw [run, dif_neg (Nat.not_lt.mpr (List.getElem?_eq_none_iff.mp hx))]

theorem run_leave {r : ρ} (hx : xs[i]? = some x) (h : L.body i xs x st = .leave r) :
    L.run (fuel + 1) xs i st = some (xs.take (i + 1), r) := by
  obtain ⟨hi, rfl⟩ := List.getElem?_eq_some_iff.mp hx
  rw [run, dif_pos hi, h]

theorem run_next {more : List α} {st' : σ} (hx : xs[i]? = some x) (h : L.body i xs x st = .next more st') :
    L.run (fuel + 1) xs i st = L.run fuel (xs ++ more) (i + 1) st' := by
  obtain ⟨hi, rfl⟩ := List.getElem?_eq_some_iff.mp hx
  rw [run, dif_pos hi, h]

theorem run_mono {out : List α × ρ} (h : L.run fuel xs i st = some out) (extra : Nat) :
    L.run (fuel + extra) xs i st = some out := by
  induction fuel generalizing xs i st with
  | zero => cases h
  | succ fuel ih =>
    rw [Nat.succ_add]
    cases hx : xs[i]? with
    | none => rw [← h, run_over hx, run_over hx]
    | some x =>
      cases hbody : L.body i xs x st with
      | leave r => rw [← h, run_leave hx hbody, run_leave hx hbody]
      | next more st' =>
        rw [run_next hx hbody] at h ⊢
        exact ih h

/-- What the loop has reached is among the items visited. -/
theorem run_reached {visited : List α} {r : ρ} (h : L.run fuel xs i st = some (visited, r)) (hi : i < xs.length) :
    xs.take (i + 1) <+: visited := by
  induction fuel generalizing xs i st with
  | zero => cases h
  | succ fuel ih =>
    have hx : xs[i]? = some xs[i] := List.getElem?_eq_getElem hi
    cases hbody : L.body i xs xs[i] st with
    | leave r' =>
      rw [run_leave hx hbody] at h
      cases h
      exact List.prefix_rfl
    | next more st' =>
      rw [run_next hx hbody] at h
      have hgrown : xs.take (i + 1) <+: xs ++ more := (List.take_prefix (i + 1) xs).trans (List.prefix_append xs more)
      by_cases hnext : i + 1 < (xs ++ more).length
      · refine List.IsPrefix.trans ?_ (ih h hnext)
        exact List.prefix_take_iff.mpr ⟨hgrown, by rw [List.length_take]; omega⟩
      · -- nothing is left to visit
        cases fuel with
        | zero => cases h
        | succ fuel =>
          rw [run_over (List.getElem?_eq_none (Nat.le_of_not_lt hnext))] at h
          cases h
          exact hgrown

/-- Rule: what the body keeps holds until the loop is over. -/
theorem run_rule {I : List α → Nat → σ → Prop} {Q : List α → ρ → Prop}
    (hnext : ∀ xs i x st more st', I xs i st → xs[i]? = some x → L.body i xs x st = .next more st' → I (xs ++ more) (i + 1) st')
    (hleave : ∀ xs i x st r, I xs i st → xs[i]? = some x → L.body i xs x st = .leave r → Q (xs.take (i + 1)) r)
    (hover : ∀ xs i st, I xs i st → xs[i]? = none → Q xs (L.finish st))
    (hI : I xs i st) {visited : List α} {r : ρ} (hrun : L.run fuel xs i st = some (visited, r)) : Q visited r := by
  induction fuel generalizing xs i st with
  | zero => cases hrun
  | succ fuel ih =>
    cases hx : xs[i]? with
    | none =>
      rw [run_over hx] at hrun
      cases hrun
      exact hover _ i st hI hx
    | some x =>
      cases hbody : L.body i xs x st with
      | leave r' =>
        rw [run_leave hx hbody] at hrun
        cases hrun
        exact hleave xs i x st r hI hx hbody
      | next more st' =>
        rw [run_next hx hbody] at hrun
        exact ih (hnext xs i x st more st' hI hx hbody) hrun

section Ends

variable [DecidableEq α] {U : Finset α} {I : List α → Nat → σ → Prop}

/-- The loop ends, and visits nothing twice, if all items are from a finite set and the body adds no item that is there already. -/
theorem run_ends (hnext : ∀ xs i x st more st', I xs i st → xs[i]? = some x → L.body i xs x st = .next more st' →
      I (xs ++ more) (i + 1) st' ∧ more.Nodup ∧ ∀ y ∈ more, y ∈ U ∧ y ∉ xs)
    (hI : I xs i st) (hnodup : xs.Nodup) (hall : ∀ y ∈ xs, y ∈ U) (hfuel : U.card < fuel + i) (hi : i ≤ xs.length) :
    ∃ visited r, L.run fuel xs i st = some (visited, r) ∧ visited.Nodup ∧ ∀ y ∈ visited, y ∈ U := by
  have hlength : xs.length ≤ U.card := by
    rw [← List.toFinset_card_of_nodup hnodup]
    exact Finset.card_le_card fun y hy => hall y (List.mem_toFinset.mp hy)
  induction fuel generalizing xs i st with
  | zero => omega
  | succ fuel ih =>
    cases hx : xs[i]? with
    | none => exact ⟨xs, _, run_over hx, hnodup, hall⟩
    | some x =>
      cases hbody : L.body i xs x st with
      | leave r =>
        exact ⟨xs.take (i + 1), r, run_leave hx hbody, hnodup.sublist (List.take_sublist _ _),
          fun y hy => hall y (List.mem_of_mem_take hy)⟩
      | next more st' =>
        rw [run_next hx hbody]
        obtain ⟨hI', hmore, hnew⟩ := hnext xs i x st more st' hI hx hbody
        have hlt : i < xs.length := (List.getElem?_eq_some_iff.mp hx).1
        have hnodup' : (xs ++ more).Nodup :=
          List.nodup_append.mpr ⟨hnodup, hmore, fun y hy z hz hyz => (hnew z hz).2 (hyz ▸ hy)⟩
        have hall' : ∀ y ∈ xs ++ more, y ∈ U := by
          intro y hy
          rcases List.mem_append.mp hy with hold | hy
          · exact hall y hold
          · exact (hnew y hy).1
        refine ih hI' hnodup' hall' (by omega) (by rw [List.length_append]; omega) ?_
        rw [← List.toFinset_card_of_nodup hnodup']
        exact Finset.card_le_card fun y hy => hall' y (List.mem_toFinset.mp hy)

end Ends

/-- Walking: items that the body passes by. -/
theorem run_walk (pass : σ → α → σ) (fuel : Nat) (done before after : List α) (st : σ)
    (h : ∀ y ∈ before, ∀ j < (done ++ before).length, ∀ st, L.body j (done ++ before ++ after) y st = .next [] (pass st y)) :
    L.run (fuel + before.length) (done ++ before ++ after) done.length st =
      L.run fuel (done ++ before ++ after) (done ++ before).length (before.foldl pass st) := by
  induction before generalizing done st with
  | nil => simp
  | cons y before ih =>
    have hy : (done ++ y :: before ++ after)[done.length]? = some y := by simp
    have hlt : done.length < (done ++ y :: before).length := by simp
    rw [List.length_cons, ← Nat.add_assoc, run_next hy (h y List.mem_cons_self _ hlt st), List.append_nil]
    have hshift : done ++ y :: before = (done ++ [y]) ++ before := by simp
    have hwalk := ih (done ++ [y]) (pass st y) fun z hz j hj st' => by
      rw [hshift] at h
      exact h z (List.mem_cons_of_mem y hz) j hj st'
    rw [← hshift, List.length_append] at hwalk
    exact hwalk

end GrowingLoop

end Exec
