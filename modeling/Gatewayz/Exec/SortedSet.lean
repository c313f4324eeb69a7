import Mathlib.Data.List.Sort
import Mathlib.Data.Prod.Lex

/-!
# `Exec.SortedSet` — sets whose members have scores

A sorted set holds each of its members once, with a score, and is read from the lowest score up; of equal scores the lower name is
first. A member that is added again takes the new score (`add`), and members are taken out by their scores (`drop`).
-/

namespace Exec

/-- The lower score is first, and of equal scores the lower name. -/
def ScoreLe {K V : Type} [LinearOrder K] [LinearOrder V] (a b : K × V) : Prop := toLex (a.2, a.1) ≤ toLex (b.2, b.1)

/-- A sorted set. -/
structure SortedSet (K V : Type) [LinearOrder K] [LinearOrder V] where
  members : List (K × V) := []
  sorted : members.Pairwise ScoreLe := by exact .nil
  unique : (members.map Prod.fst).Nodup := by exact List.nodup_nil

variable {K V : Type} [LinearOrder K] [LinearOrder V]

instance : DecidableRel (ScoreLe (K := K) (V := V)) := fun a b => inferInstanceAs (Decidable (toLex (a.2, a.1) ≤ toLex (b.2, b.1)))
instance : Std.Total (ScoreLe (K := K) (V := V)) := ⟨fun a b => le_total (toLex (a.2, a.1)) (toLex (b.2, b.1))⟩
instance : IsTrans (K × V) ScoreLe := ⟨fun _ _ _ h h' => le_trans (α := V ×ₗ K) h h'⟩

theorem ScoreLe.score_le {a b : K × V} (h : ScoreLe a b) : a.2 ≤ b.2 := by
  rcases Prod.Lex.toLex_le_toLex.mp h with hlt | ⟨heq, -⟩
  · exact le_of_lt hlt
  · exact le_of_eq heq

namespace SortedSet

variable (s : SortedSet K V)

/-- A member with its score; if it was there it is moved. -/
def add (name : K) (score : V) : SortedSet K V where
  members := (s.members.filter fun m => m.1 ≠ name).orderedInsert ScoreLe (name, score)
  sorted := (s.sorted.filter _).orderedInsert _ _
  unique := by
    have hnot : name ∉ (s.members.filter fun m => m.1 ≠ name).map Prod.fst := by
      intro hmem
      obtain ⟨m, hm, hname⟩ := List.mem_map.mp hmem
      exact of_decide_eq_true (List.mem_filter.mp hm).2 hname
    rw [((List.perm_orderedInsert ScoreLe (name, score) _).map Prod.fst).nodup_iff, List.map_cons]
    exact List.nodup_cons.mpr ⟨hnot, (List.filter_sublist.map _).nodup s.unique⟩

def drop (p : V → Bool) : SortedSet K V where
  members := s.members.filter fun m => !p m.2
  sorted := s.sorted.filter _
  unique := (List.filter_sublist.map _).nodup s.unique

def card : ℕ := s.members.length

def lowest : Option (K × V) := s.members.head?

variable {s} {name : K} {score : V}

theorem perm_add (score : V) (h : name ∉ s.members.map Prod.fst) : (s.add name score).members.Perm ((name, score) :: s.members) := by
  have hall : s.members.filter (fun m => m.1 ≠ name) = s.members := by
    refine List.filter_eq_self.mpr fun m hm => decide_eq_true ?_
    rintro rfl
    exact h (List.mem_map_of_mem hm)
  unfold add
  dsimp only
  rw [hall]
  exact List.perm_orderedInsert _ _ _

theorem lowest_le {m : K × V} (h : s.lowest = some m) : m ∈ s.members ∧ ∀ x ∈ s.members, m.2 ≤ x.2 := by
  refine ⟨List.mem_of_head? h, fun x hx => ?_⟩
  have hsorted := s.sorted
  unfold lowest at h
  cases hmembers : s.members with
  | nil =>
    rw [hmembers] at h
    cases h
  | cons y ys =>
    rw [hmembers] at h hx hsorted
    cases h
    rcases List.mem_cons.mp hx with rfl | hx
    · exact le_refl _
    · exact (List.rel_of_pairwise_cons hsorted hx).score_le

theorem lowest_eq_none (h : s.lowest = none) : s.card = 0 := by
  rw [card, List.head?_eq_none_iff.mp h, List.length_nil]

end SortedSet

end Exec
