import Mathlib.Data.List.Nodup

/-!
# `Exec.Dictionary` — dictionaries as lists of entries

A dictionary is the list of its entries, in the order of their insertion. `UniqueKeys` says that no key has two of them, and
then an entry is found under its key (`lookup_iff`).
-/

namespace Exec.Dictionary

variable {K V : Type}

def UniqueKeys (d : List (K × V)) : Prop := (d.map Prod.fst).Nodup

def collect (keys : List K) (value : K → Option V) : List (K × V) :=
  keys.filterMap fun k => (value k).map fun v => (k, v)

def compact (entries : List (K × Option V)) : List (K × V) := entries.filterMap fun e => e.2.map fun v => (e.1, v)

variable {k : K} {v : V}

theorem mem_collect {keys : List K} {value : K → Option V} :
    (k, v) ∈ collect keys value ↔ k ∈ keys ∧ value k = some v := by
  rw [collect, List.mem_filterMap]
  constructor
  · rintro ⟨k', hk, hv⟩
    obtain ⟨v', hv', hpair⟩ := Option.map_eq_some_iff.mp hv
    cases hpair
    exact ⟨hk, hv'⟩
  · rintro ⟨hk, hv⟩
    exact ⟨k, hk, by rw [hv]; rfl⟩

theorem mem_compact {entries : List (K × Option V)} : (k, v) ∈ compact entries ↔ (k, some v) ∈ entries := by
  rw [compact, List.mem_filterMap]
  constructor
  · rintro ⟨⟨k', o⟩, he, hv⟩
    obtain ⟨v', hv', hpair⟩ := Option.map_eq_some_iff.mp hv
    cases hpair
    exact hv' ▸ he
  · exact fun he => ⟨_, he, rfl⟩

theorem uniqueKeys_collect {keys : List K} (h : keys.Nodup) (value : K → Option V) : UniqueKeys (collect keys value) := by
  have hsub : ((collect keys value).map Prod.fst).Sublist keys := by
    clear h
    induction keys with
    | nil => exact List.nil_sublist _
    | cons k keys ih =>
      rw [collect, List.filterMap_cons]
      cases value k with
      | none => exact ih.cons _
      | some v => exact ih.cons_cons _
  exact hsub.nodup h

section Lookup

variable [DecidableEq K]

/-- `d.pop(key, None)`. -/
def pop (d : List (K × V)) (key : K) : List (K × V) := d.filter fun e => e.1 ≠ key

def adjust (d : List (K × V)) (key : K) (f : V → V) : List (K × V) :=
  d.map fun e => if e.1 = key then (e.1, f e.2) else e

/-- `d[key] = v`: in place, or behind the others. -/
def put (d : List (K × V)) (key : K) (v : V) : List (K × V) :=
  if (d.lookup key).isSome then adjust d key fun _ => v else d ++ [(key, v)]

theorem put_nil (key : K) (v : V) : put [] key v = [(key, v)] := rfl

theorem put_singleton (key : K) (v w : V) : put [(key, v)] key w = [(key, w)] := by
  rw [put, List.lookup_cons_self, Option.isSome_some, if_pos rfl, adjust, List.map_cons, if_pos rfl, List.map_nil]

variable {d : List (K × V)}

theorem mem_pop {key k : K} : (k, v) ∈ pop d key ↔ (k, v) ∈ d ∧ k ≠ key := by
  rw [pop, List.mem_filter, decide_eq_true_eq]

theorem uniqueKeys_pop (h : UniqueKeys d) (key : K) : UniqueKeys (pop d key) :=
  (List.filter_sublist.map Prod.fst).nodup h

theorem uniqueKeys_adjust (h : UniqueKeys d) (key : K) (f : V → V) : UniqueKeys (adjust d key f) := by
  have hkeys : (adjust d key f).map Prod.fst = d.map Prod.fst := by
    rw [adjust, List.map_map]
    refine List.map_congr_left fun e _ => ?_
    rw [Function.comp_apply]
    split <;> rfl
  rw [UniqueKeys, hkeys]
  exact h

theorem mem_adjust_of_ne {key k : K} {f : V → V} (h : k ≠ key) : (k, v) ∈ adjust d key f ↔ (k, v) ∈ d := by
  rw [adjust, List.mem_map]
  constructor
  · rintro ⟨e, he, heq⟩
    split at heq
    · next hkey =>
      cases heq
      exact absurd hkey h
    · exact heq ▸ he
  · exact fun he => ⟨_, he, if_neg h⟩

theorem mem_adjust_self {key : K} {f : V → V} : (key, v) ∈ adjust d key f ↔ ∃ v', (key, v') ∈ d ∧ f v' = v := by
  rw [adjust, List.mem_map]
  constructor
  · rintro ⟨⟨k, v'⟩, he, heq⟩
    split at heq
    · next hkey =>
      obtain rfl : k = key := hkey
      cases heq
      exact ⟨v', he, rfl⟩
    · next hne =>
      cases heq
      exact absurd rfl hne
  · rintro ⟨v', he, rfl⟩
    exact ⟨_, he, if_pos rfl⟩

theorem lookup_iff (h : UniqueKeys d) : d.lookup k = some v ↔ (k, v) ∈ d := by
  induction d with
  | nil => simp
  | cons e d ih =>
    obtain ⟨k', v'⟩ := e
    rw [UniqueKeys, List.map_cons, List.nodup_cons] at h
    obtain ⟨hnew, hrest⟩ := h
    by_cases hk : k = k'
    · subst hk
      have hnone : (k, v) ∉ d := fun hmem => hnew (List.mem_map.mpr ⟨_, hmem, rfl⟩)
      simp [hnone, eq_comm]
    · rw [List.lookup_cons, beq_false_of_ne hk, List.mem_cons, Prod.mk.injEq]
      simp only [hk, false_and, false_or]
      exact ih hrest

end Lookup

end Exec.Dictionary
