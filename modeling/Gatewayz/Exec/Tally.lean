import Gatewayz.Exec.Dictionary
import Mathlib.Algebra.BigOperators.Group.List.Basic
import Mathlib.Data.List.Sort

/-!
# `Exec.Tally` — totals by key

A list of keyed items is folded into a dictionary: the value of an item's key is brought forward by the item (`bump`), and a key that
is new starts from a fixed value. The total of a key is then the fold over its own items (`lookup_tally`), and of sums over all keys
nothing is lost (`sum_by_key`).
-/

namespace Exec.Dictionary

variable {K V A : Type} [DecidableEq K]

theorem lookup_adjust (d : List (K × V)) (key k : K) (f : V → V) :
    (adjust d key f).lookup k = if k = key then (d.lookup k).map f else d.lookup k := by
  induction d with
  | nil => simp [adjust]
  | cons e d ih =>
    obtain ⟨k', v⟩ := e
    rw [adjust, List.map_cons]
    change (((if k' = key then (k', f v) else (k', v)) :: adjust d key f).lookup k) = _
    by_cases hk : k = k'
    · subst hk
      by_cases hkey : k = key
      · rw [if_pos hkey, if_pos hkey, List.lookup_cons_self, List.lookup_cons_self, Option.map_some]
      · rw [if_neg hkey, if_neg hkey, List.lookup_cons_self, List.lookup_cons_self]
    · have hskip : ∀ (w : V) (rest : List (K × V)), ((k', w) :: rest).lookup k = rest.lookup k := fun w rest => by
        rw [List.lookup_cons, beq_false_of_ne hk]
      rw [hskip]
      split
      all_goals
        rw [hskip]
        exact ih

theorem lookup_append_singleton (d : List (K × V)) (key k : K) (v : V) :
    (d ++ [(key, v)]).lookup k = (d.lookup k).or (if k = key then some v else none) := by
  rw [List.lookup_append, List.lookup_cons]
  by_cases h : k = key
  · rw [if_pos h, beq_iff_eq.mpr h]
  · rw [if_neg h, beq_false_of_ne h, List.lookup_nil]

variable {d : List (K × V)}

theorem isSome_lookup_iff {k : K} : (d.lookup k).isSome ↔ k ∈ d.map Prod.fst := by
  rw [List.lookup_isSome_iff, List.mem_map]
  exact exists_congr fun e => and_congr_right fun _ => beq_iff_eq.trans eq_comm

theorem lookup_put (d : List (K × V)) (key k : K) (v : V) :
    (put d key v).lookup k = if k = key then some v else d.lookup k := by
  unfold put
  split
  · next hsome =>
    rw [lookup_adjust]
    split
    · next hk =>
      obtain ⟨w, hw⟩ := Option.isSome_iff_exists.mp hsome
      rw [hk, hw, Option.map_some]
    · rfl
  · next hnone =>
    have hkey : d.lookup key = none := Option.not_isSome_iff_eq_none.mp hnone
    rw [lookup_append_singleton]
    split
    · next hk => rw [hk, hkey, Option.none_or]
    · rw [Option.or_none]

theorem uniqueKeys_put (h : UniqueKeys d) (key : K) (v : V) : UniqueKeys (put d key v) := by
  unfold put
  split
  · exact uniqueKeys_adjust h key _
  · next hnone =>
    have hnew : key ∉ d.map Prod.fst := fun hmem => hnone (isSome_lookup_iff.mpr hmem)
    rw [UniqueKeys, List.map_append, List.nodup_append]
    refine ⟨h, List.nodup_singleton _, fun k hk k' hk' heq => ?_⟩
    obtain rfl : k' = key := List.mem_singleton.mp hk'
    exact hnew (heq ▸ hk)

/-! ## Folds by key -/

def bump (f : V → A → V) (start : V) (d : List (K × V)) (item : K × A) : List (K × V) :=
  put d item.1 (f ((d.lookup item.1).getD start) item.2)

def tally (f : V → A → V) (start : V) (items : List (K × A)) : List (K × V) := items.foldl (bump f start) []

def valuesOf (items : List (K × A)) (k : K) : List A := (items.filter fun x => x.1 = k).map Prod.snd

variable {f : V → A → V} {start : V}

theorem valuesOf_cons (item : K × A) (items : List (K × A)) (k : K) :
    valuesOf (item :: items) k = if item.1 = k then item.2 :: valuesOf items k else valuesOf items k := by
  unfold valuesOf
  by_cases hk : item.1 = k
  · rw [List.filter_cons, if_pos (decide_eq_true hk), List.map_cons, if_pos hk]
  · rw [List.filter_cons, if_neg (by simp [hk]), if_neg hk]

variable {items : List (K × A)}

theorem valuesOf_eq_nil {k : K} (h : k ∉ items.map Prod.fst) : valuesOf items k = [] := by
  have hnone : items.filter (fun x => x.1 = k) = [] := by
    refine List.filter_eq_nil_iff.mpr fun x hx hkey => h ?_
    exact List.mem_map.mpr ⟨x, hx, of_decide_eq_true hkey⟩
  rw [valuesOf, hnone, List.map_nil]

theorem mem_valuesOf {k : K} {a : A} : a ∈ valuesOf items k ↔ (k, a) ∈ items := by
  rw [valuesOf, List.mem_map]
  constructor
  · rintro ⟨⟨k', a'⟩, hfilter, rfl⟩
    obtain ⟨hmem, hk⟩ := List.mem_filter.mp hfilter
    obtain rfl : k' = k := of_decide_eq_true hk
    exact hmem
  · exact fun hmem => ⟨_, List.mem_filter.mpr ⟨hmem, decide_eq_true rfl⟩, rfl⟩

theorem perm_valuesOf {items items' : List (K × A)} (h : items.Perm items') (k : K) :
    (valuesOf items k).Perm (valuesOf items' k) := (h.filter _).map _

theorem getD_lookup_foldl_bump (items : List (K × A)) (d : List (K × V)) (k : K) :
    ((items.foldl (bump f start) d).lookup k).getD start = (valuesOf items k).foldl f ((d.lookup k).getD start) := by
  induction items generalizing d with
  | nil => rfl
  | cons item items ih =>
    rw [List.foldl_cons, ih, bump, lookup_put, valuesOf_cons]
    by_cases hk : k = item.1
    · rw [if_pos hk, if_pos hk.symm, Option.getD_some, List.foldl_cons, hk]
    · rw [if_neg hk, if_neg (Ne.symm hk)]

theorem mem_keys_foldl_bump (items : List (K × A)) (d : List (K × V)) (k : K) :
    k ∈ (items.foldl (bump f start) d).map Prod.fst ↔ k ∈ d.map Prod.fst ∨ k ∈ items.map Prod.fst := by
  induction items generalizing d with
  | nil => simp
  | cons item items ih =>
    have hbump : k ∈ (bump f start d item).map Prod.fst ↔ k ∈ d.map Prod.fst ∨ k = item.1 := by
      rw [bump, ← isSome_lookup_iff, lookup_put, ← isSome_lookup_iff]
      split
      · next hk => exact iff_of_true rfl (.inr hk)
      · next hk => exact (or_iff_left hk).symm
    rw [List.foldl_cons, ih, hbump, List.map_cons, List.mem_cons, or_assoc]

theorem getD_lookup_tally (items : List (K × A)) (k : K) :
    ((tally f start items).lookup k).getD start = (valuesOf items k).foldl f start :=
  getD_lookup_foldl_bump items [] k

theorem mem_keys_tally (f : V → A → V) (start : V) (items : List (K × A)) (k : K) :
    k ∈ (tally f start items).map Prod.fst ↔ k ∈ items.map Prod.fst := by
  rw [tally, mem_keys_foldl_bump]
  simp

theorem uniqueKeys_tally (items : List (K × A)) : UniqueKeys (tally f start items) := by
  have hloop : ∀ d : List (K × V), UniqueKeys d → UniqueKeys (items.foldl (bump f start) d) := by
    induction items with
    | nil => exact fun d h => h
    | cons item items ih => exact fun d h => ih _ (uniqueKeys_put h _ _)
  exact hloop [] List.nodup_nil

theorem mem_tally_iff {k : K} {v : V} :
    (k, v) ∈ tally f start items ↔ k ∈ items.map Prod.fst ∧ v = (valuesOf items k).foldl f start := by
  rw [← lookup_iff (uniqueKeys_tally items), ← mem_keys_tally f start, ← isSome_lookup_iff,
    ← getD_lookup_tally]
  constructor
  · intro h
    rw [h]
    exact ⟨rfl, rfl⟩
  · rintro ⟨hsome, rfl⟩
    obtain ⟨w, hw⟩ := Option.isSome_iff_exists.mp hsome
    rw [hw, Option.getD_some]

theorem perm_tally {items items' : List (K × A)} (h : items.Perm items')
    (htotal : ∀ k, (valuesOf items k).foldl f start = (valuesOf items' k).foldl f start) :
    (tally f start items).Perm (tally f start items') := by
  refine (List.perm_ext_iff_of_nodup (uniqueKeys_tally items).of_map (uniqueKeys_tally items').of_map).mpr fun ⟨k, v⟩ => ?_
  rw [mem_tally_iff, mem_tally_iff, htotal k, (h.map Prod.fst).mem_iff]

theorem sum_indicator {M : Type} [AddCommMonoid M] {keys : List K} (hnodup : keys.Nodup) (key : K) (m : M) :
    (keys.map fun k => if key = k then m else 0).sum = if key ∈ keys then m else 0 := by
  induction keys with
  | nil => simp
  | cons k keys ih =>
    obtain ⟨hnew, hrest⟩ := List.nodup_cons.mp hnodup
    rw [List.map_cons, List.sum_cons, ih hrest]
    by_cases hk : key = k
    · subst hk
      rw [if_pos rfl, if_neg hnew, add_zero, if_pos (List.mem_cons_self ..)]
    · rw [if_neg hk, zero_add]
      refine if_congr ?_ rfl rfl
      rw [List.mem_cons, or_iff_right hk]

/-- Nothing of a sum is lost by taking it key by key. -/
theorem sum_by_key {M : Type} [AddCommMonoid M] {keys : List K} (hnodup : keys.Nodup) {items : List (K × M)}
    (h : ∀ k ∈ items.map Prod.fst, k ∈ keys) : (keys.map fun k => (valuesOf items k).sum).sum = (items.map Prod.snd).sum := by
  induction items with
  | nil =>
    refine (List.sum_eq_zero fun x hx => ?_).trans List.sum_nil.symm
    obtain ⟨k, -, rfl⟩ := List.mem_map.mp hx
    rfl
  | cons item items ih =>
    have hsplit : ∀ k ∈ keys, (valuesOf (item :: items) k).sum =
        (if item.1 = k then item.2 else 0) + (valuesOf items k).sum := by
      intro k _
      rw [valuesOf_cons]
      split
      · rw [List.sum_cons]
      · rw [zero_add]
    have hone : (keys.map fun k => if item.1 = k then item.2 else 0).sum = item.2 := by
      rw [sum_indicator hnodup, if_pos (h item.1 (List.mem_cons_self ..))]
    rw [List.map_congr_left hsplit, List.sum_map_add, hone, ih fun k hk => h k (List.mem_cons_of_mem _ hk), List.map_cons,
      List.sum_cons]

theorem sum_map_sub {M : Type} [AddCommGroup M] (xs : List A) (f g : A → M) :
    (xs.map fun x => f x - g x).sum = (xs.map f).sum - (xs.map g).sum := by
  induction xs with
  | nil => exact (sub_self _).symm
  | cons x xs ih => rw [List.map_cons, List.sum_cons, ih, List.map_cons, List.sum_cons, List.map_cons, List.sum_cons, add_sub_add_comm]

/-! ## Entries, the last of which counts -/

/-- `d[key] = v`, one entry after the other. -/
def ofEntries (entries : List (K × V)) : List (K × V) := entries.foldl (fun d e => put d e.1 e.2) []

theorem lookup_foldl_put (entries d : List (K × V)) (k : K) :
    (entries.foldl (fun d e => put d e.1 e.2) d).lookup k = (valuesOf entries k).getLast?.or (d.lookup k) := by
  induction entries generalizing d with
  | nil => rfl
  | cons e entries ih =>
    rw [List.foldl_cons, ih, lookup_put, valuesOf_cons]
    by_cases hk : k = e.1
    · rw [if_pos hk, if_pos hk.symm, List.getLast?_cons]
      cases (valuesOf entries k).getLast? with
      | none => rfl
      | some v => rfl
    · rw [if_neg hk, if_neg (Ne.symm hk)]

variable (entries : List (K × V))

theorem lookup_ofEntries (k : K) : (ofEntries entries).lookup k = (valuesOf entries k).getLast? := by
  rw [ofEntries, lookup_foldl_put, List.lookup_nil, Option.or_none]

theorem uniqueKeys_ofEntries : UniqueKeys (ofEntries entries) := by
  have hloop : ∀ d : List (K × V), UniqueKeys d → UniqueKeys (entries.foldl (fun d e => put d e.1 e.2) d) := by
    induction entries with
    | nil => exact fun d h => h
    | cons e entries ih => exact fun d h => ih _ (uniqueKeys_put h _ _)
  exact hloop [] List.nodup_nil

theorem map_fst_put (d : List (K × V)) (key : K) (v : V) :
    (put d key v).map Prod.fst = if key ∈ d.map Prod.fst then d.map Prod.fst else d.map Prod.fst ++ [key] := by
  unfold put
  by_cases hkey : key ∈ d.map Prod.fst
  · rw [if_pos (isSome_lookup_iff.mpr hkey), if_pos hkey, adjust, List.map_map]
    refine List.map_congr_left fun e _ => ?_
    rw [Function.comp_apply]
    split
    · rfl
    · rfl
  · rw [if_neg fun h => hkey (isSome_lookup_iff.mp h), if_neg hkey, List.map_append]
    rfl

/-- Keys stand in the order in which they came first: the first key of a kind is that of the first entry of the kind. -/
theorem find?_keys_ofEntries (p : K → Bool) :
    ((ofEntries entries).map Prod.fst).find? p = (entries.map Prod.fst).find? p := by
  have hloop : ∀ d : List (K × V), ((entries.foldl (fun d e => put d e.1 e.2) d).map Prod.fst).find? p =
      (d.map Prod.fst ++ entries.map Prod.fst).find? p := by
    induction entries with
    | nil => exact fun d => by rw [List.map_nil, List.append_nil]; rfl
    | cons e entries ih =>
      intro d
      rw [List.foldl_cons, ih, map_fst_put, List.map_cons]
      split
      · next hmem =>
        rw [List.find?_append, List.find?_append, List.find?_cons]
        cases hkey : p e.1 with
        | false => rfl
        | true =>
          -- The key is there already, and so is one of the kind.
          have hsome : ((d.map Prod.fst).find? p).isSome := List.find?_isSome.mpr ⟨e.1, hmem, hkey⟩
          obtain ⟨k, hk⟩ := Option.isSome_iff_exists.mp hsome
          rw [hk]
          rfl
      · rw [List.append_assoc]
        rfl
  exact (hloop []).trans (by rw [List.map_nil, List.nil_append])

theorem find?_by_key (h : UniqueKeys d) (p : K → Bool) :
    (d.find? fun e => p e.1).map Prod.snd = ((d.map Prod.fst).find? p).bind fun k => d.lookup k := by
  rw [List.find?_map]
  change _ = ((d.find? fun e => p e.1).map Prod.fst).bind fun k => d.lookup k
  cases hfind : d.find? fun e => p e.1 with
  | none => rfl
  | some e =>
    have hmem : (e.1, e.2) ∈ d := List.mem_of_find?_eq_some hfind
    exact ((lookup_iff h).mpr hmem).symm

/-! ## Sorting by a key -/

/-- `sorted(xs, key=key)`: of equal keys the first stays first. -/
def sortOn {O : Type} [LinearOrder O] (key : A → O) (xs : List A) : List A := xs.insertionSort fun a b => key a ≤ key b

theorem perm_sortOn {O : Type} [LinearOrder O] (key : A → O) (xs : List A) : (sortOn key xs).Perm xs := List.perm_insertionSort _ xs

theorem map_sortOn_eq_of_perm {O : Type} [LinearOrder O] {xs ys : List A} (h : xs.Perm ys) (key : A → O) :
    (sortOn key xs).map key = (sortOn key ys).map key := by
  have : Std.Total fun a b => key a ≤ key b := ⟨fun a b => le_total (key a) (key b)⟩
  have : IsTrans A fun a b => key a ≤ key b := ⟨fun _ _ _ => le_trans⟩
  have hsorted : ∀ zs : List A, ((sortOn key zs).map key).Pairwise (· ≤ ·) := fun zs =>
    List.pairwise_map.mpr (List.pairwise_insertionSort (fun a b => key a ≤ key b) zs)
  have hperm := (((perm_sortOn key xs).trans h).trans (perm_sortOn key ys).symm).map key
  exact hperm.eq_of_pairwise (fun _ _ _ _ hab hba => le_antisymm hab hba) (hsorted xs) (hsorted ys)

end Exec.Dictionary
