import Mathlib.Data.List.Sort
import Mathlib.Algebra.Order.BigOperators.Group.List
import Mathlib.Tactic.Linarith

/-!
# `Exec.Pages` — queries that are answered with a bounded number of rows

A service that returns at most `n` rows for a query picks which ones: all of them when they fit, any `n` of them
otherwise, in any order. `IsPage n rows page` is the relation between the rows that match and the rows that come back.

A total of integer weights lies between that of the lightest page and that of the heaviest, and both are pages the
service may return (`lightest`, `heaviest`).
-/

namespace Exec

variable {α : Type}

/-- `page` is an answer to a query that `rows` match, with at most `n` rows in it. -/
structure IsPage (n : Nat) (rows page : List α) : Prop where
  within : page.Subperm rows
  length_eq : page.length = min n rows.length

variable {rows page : List α}

theorem IsPage.perm {n : Nat} (h : IsPage n rows page) (hfits : rows.length ≤ n) : page.Perm rows := by
  refine h.within.perm_of_length_le ?_
  rw [h.length_eq]
  omega

/-! ## Totals of a page -/

def total (weight : α → Int) (rows : List α) : Int := (rows.map weight).sum

@[simp] theorem total_nil (weight : α → Int) : total weight [] = 0 := rfl

@[simp] theorem total_cons (weight : α → Int) (a : α) (rows : List α) :
    total weight (a :: rows) = weight a + total weight rows := by
  simp [total]

variable {weight : α → Int}

theorem total_perm {rows rows' : List α} (h : rows.Perm rows') : total weight rows = total weight rows' :=
  (h.map weight).sum_eq

theorem total_neg (weight : α → Int) (rows : List α) : total (fun a => -weight a) rows = -total weight rows := by
  induction rows with
  | nil => rfl
  | cons a rows ih =>
    rw [total_cons, total_cons, ih]
    omega

/-- The `n` rows of least weight. -/
def lightest (n : Nat) (weight : α → Int) (rows : List α) : List α :=
  (rows.mergeSort (fun a b => weight a ≤ weight b)).take n

/-- The `n` rows of greatest weight. -/
def heaviest (n : Nat) (weight : α → Int) (rows : List α) : List α := lightest n (fun a => -weight a) rows

theorem isPage_lightest (n : Nat) (weight : α → Int) (rows : List α) : IsPage n rows (lightest n weight rows) := by
  refine ⟨?_, ?_⟩
  · exact (List.take_sublist _ _).subperm.trans (List.mergeSort_perm _ _).subperm
  · rw [lightest, List.length_take, (List.mergeSort_perm _ _).length_eq]

theorem isPage_heaviest (n : Nat) (weight : α → Int) (rows : List α) : IsPage n rows (heaviest n weight rows) :=
  isPage_lightest n _ rows

/-- In a sorted list, the first rows weigh no more than as many rows from anywhere. -/
theorem total_take_le {sorted : List α} (hsorted : sorted.Pairwise (fun a b => weight a ≤ weight b)) :
    ∀ {some : List α}, some.Sublist sorted → total weight (sorted.take some.length) ≤ total weight some := by
  induction sorted with
  | nil =>
    intro some hsub
    rw [List.sublist_nil.mp hsub]
    exact le_rfl
  | cons a sorted ih =>
    intro some hsub
    cases some with
    | nil => exact le_rfl
    | cons b some =>
      -- the head is the least of the sorted list, and the rest is chosen from the rest
      have hrest : some.Sublist sorted := by
        cases hsub with
        | cons _ h => exact (List.sublist_cons_self b some).trans h
        | cons_cons _ h => exact h
      have hhead : weight a ≤ weight b := by
        cases hsub with
        | cons _ h => exact List.rel_of_pairwise_cons hsorted (h.subset List.mem_cons_self)
        | cons_cons _ _ => exact le_rfl
      have htail := ih hsorted.of_cons hrest
      rw [List.length_cons, List.take_succ_cons, total_cons, total_cons]
      exact add_le_add hhead htail

/-- No page weighs less than the lightest. -/
theorem total_lightest_le {n : Nat} (h : IsPage n rows page) :
    total weight (lightest n weight rows) ≤ total weight page := by
  have hsorted : (rows.mergeSort (fun a b => decide (weight a ≤ weight b))).Pairwise
      (fun a b => weight a ≤ weight b) := by
    have hpairs : (rows.mergeSort (fun a b => decide (weight a ≤ weight b))).Pairwise
        (fun a b => decide (weight a ≤ weight b) = true) :=
      List.pairwise_mergeSort
        (fun a b c hab hbc => by simp only [decide_eq_true_eq] at *; omega)
        (fun a b => by simp only [Bool.or_eq_true, decide_eq_true_eq]; omega) rows
    exact hpairs.imp (fun hab => by simpa using hab)
  obtain ⟨some, hperm, hsub⟩ :=
    h.within.trans (List.mergeSort_perm rows (fun a b => decide (weight a ≤ weight b))).symm.subperm
  have hlength : some.length = min n rows.length := by rw [hperm.length_eq, h.length_eq]
  have htake := total_take_le hsorted hsub
  have hall : (rows.mergeSort (fun a b => decide (weight a ≤ weight b))).take n =
      (rows.mergeSort (fun a b => decide (weight a ≤ weight b))).take some.length := by
    rw [hlength, List.take_eq_take_iff, (List.mergeSort_perm _ _).length_eq]
    omega
  rw [lightest, hall, ← total_perm hperm]
  exact htake

theorem total_le_heaviest {n : Nat} (h : IsPage n rows page) :
    total weight page ≤ total weight (heaviest n weight rows) := by
  have hneg : total (fun a => -weight a) (heaviest n weight rows) ≤ total (fun a => -weight a) page :=
    total_lightest_le h
  rw [total_neg, total_neg] at hneg
  exact Int.neg_le_neg_iff.mp hneg

end Exec
