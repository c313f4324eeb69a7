import Gatewayz.Exec.Tally

/-!
# `Exec.Ranking` — who comes where in a sorted list

A sort by a key keeps those that share a key in the order in which they came (`filter_sortOn`). So the order in which items come in shows in
the result exactly if two different ones share a key (`sortOn_invariant_iff`); which of two comes first is said by their keys, and by their
order where those are the same (`pair_sublist_sortOn_iff`).
-/

namespace Exec.Dictionary

variable {A O : Type} [LinearOrder O] {key : A → O}

theorem pairwise_sortOn (key : A → O) (xs : List A) : (sortOn key xs).Pairwise fun a b => key a ≤ key b := by
  have : Std.Total fun a b => key a ≤ key b := ⟨fun a b => le_total (key a) (key b)⟩
  have : IsTrans A fun a b => key a ≤ key b := ⟨fun _ _ _ => le_trans⟩
  exact List.pairwise_insertionSort (fun a b => key a ≤ key b) xs

theorem mem_sortOn (key : A → O) {xs : List A} {a : A} : a ∈ sortOn key xs ↔ a ∈ xs := (perm_sortOn key xs).mem_iff

theorem sortOn_map {B : Type} (key : A → O) (f : B → A) (xs : List B) : sortOn key (xs.map f) = (sortOn (fun x => key (f x)) xs).map f :=
  (List.map_insertionSort _ _ f xs fun _ _ _ _ => Iff.rfl).symm

/-! ## Those that share a key -/

theorem filter_orderedInsert (a : A) (xs : List A) (k : O) :
    (xs.orderedInsert (fun a b => key a ≤ key b) a).filter (fun b => key b = k) = (a :: xs).filter fun b => key b = k := by
  induction xs with
  | nil => rfl
  | cons b xs ih =>
    by_cases hle : key a ≤ key b
    · rw [List.orderedInsert_cons_of_le _ xs hle]
    · rw [List.orderedInsert_of_not_le _ xs hle, List.filter_cons, ih]
      by_cases ha : key a = k
      · -- The one that is passed has another key.
        have hb : ¬key b = k := fun hb => hle (ha.trans hb.symm).le
        simp [ha, hb]
      · simp [ha, List.filter_cons]

theorem filter_sortOn (key : A → O) (xs : List A) (k : O) :
    (sortOn key xs).filter (fun a => key a = k) = xs.filter fun a => key a = k := by
  induction xs with
  | nil => rfl
  | cons a xs ih =>
    change ((sortOn key xs).orderedInsert _ a).filter _ = _
    rw [filter_orderedInsert, List.filter_cons, List.filter_cons, ih]

/-- The order of the items does not show exactly if no two different ones share a key. -/
theorem sortOn_invariant_iff {xs : List A} :
    (∀ ys, ys.Perm xs → sortOn key ys = sortOn key xs) ↔ ∀ a ∈ xs, ∀ b ∈ xs, key a = key b → a = b := by
  classical
  constructor
  · intro h a ha b hb hkey
    have hfirst : ∀ c ∈ xs, key c = key a → ((sortOn key xs).filter fun x => key x = key a).head? = some c := by
      intro c hc hc'
      rw [← h (c :: xs.erase c) (List.perm_cons_erase hc).symm, filter_sortOn, List.filter_cons, if_pos (decide_eq_true hc'), List.head?_cons]
    exact Option.some.inj ((hfirst a ha rfl).symm.trans (hfirst b hb hkey.symm))
  · intro h ys hperm
    refine (((perm_sortOn key ys).trans hperm).trans (perm_sortOn key xs).symm).eq_of_pairwise ?_ (pairwise_sortOn key ys)
      (pairwise_sortOn key xs)
    intro a b ha hb hab hba
    exact h a (hperm.mem_iff.mp ((mem_sortOn key).mp ha)) b ((mem_sortOn key).mp hb) (le_antisymm hab hba)

/-! ## Which of two comes first -/

theorem pair_sublist_or {xs : List A} {a b : A} (ha : a ∈ xs) (hb : b ∈ xs) (hne : a ≠ b) : [a, b].Sublist xs ∨ [b, a].Sublist xs := by
  induction xs with
  | nil => exact absurd ha List.not_mem_nil
  | cons c xs ih =>
    rcases List.mem_cons.mp ha with hac | hax
    · have hbx : b ∈ xs := (List.mem_cons.mp hb).resolve_left fun hbc => hne (hac.trans hbc.symm)
      exact .inl (hac ▸ List.cons_sublist_cons.mpr (List.singleton_sublist.mpr hbx))
    · rcases List.mem_cons.mp hb with hbc | hbx
      · exact .inr (hbc ▸ List.cons_sublist_cons.mpr (List.singleton_sublist.mpr hax))
      · exact (ih hax hbx).imp (·.cons c) (·.cons c)

/-- One comes before the other by its key, or by its place among those with the same key. -/
theorem pair_sublist_sortOn_iff {xs : List A} {a b : A} :
    [a, b].Sublist (sortOn key xs) ↔ a ∈ xs ∧ b ∈ xs ∧ key a < key b ∨ key a = key b ∧ [a, b].Sublist xs := by
  constructor
  · intro h
    have ha : a ∈ xs := (mem_sortOn key).mp (h.subset List.mem_cons_self)
    have hb : b ∈ xs := (mem_sortOn key).mp (h.subset (List.mem_cons_of_mem a List.mem_cons_self))
    have hle : key a ≤ key b := (List.pairwise_cons.mp ((pairwise_sortOn key xs).sublist h)).1 b List.mem_cons_self
    rcases hle.lt_or_eq with hlt | heq
    · exact .inl ⟨ha, hb, hlt⟩
    · refine .inr ⟨heq, ?_⟩
      have hfilter := h.filter fun x => decide (key x = key b)
      rw [filter_sortOn, List.filter_cons, if_pos (decide_eq_true heq), List.filter_cons, if_pos (decide_eq_true rfl), List.filter_nil]
        at hfilter
      exact hfilter.trans List.filter_sublist
  · rintro (⟨ha, hb, hlt⟩ | ⟨heq, h⟩)
    · have hne : a ≠ b := fun h => hlt.ne (congrArg key h)
      rcases pair_sublist_or ((mem_sortOn key).mpr ha) ((mem_sortOn key).mpr hb) hne with hab | hba
      · exact hab
      · have hle := (List.pairwise_cons.mp ((pairwise_sortOn key xs).sublist hba)).1 a List.mem_cons_self
        exact absurd hlt (not_lt.mpr hle)
    · have hfilter := h.filter fun x => decide (key x = key b)
      rw [List.filter_cons, if_pos (decide_eq_true heq), List.filter_cons, if_pos (decide_eq_true rfl), List.filter_nil, ← filter_sortOn key xs]
        at hfilter
      exact hfilter.trans List.filter_sublist

/-! ## Who has a place -/

/-- A sorted list is made of those below a key, those with it and those above it. -/
theorem sorted_split {l : List A} (h : l.Pairwise fun a b => key a ≤ key b) (k : O) :
    l = l.filter (fun a => key a < k) ++ (l.filter (fun a => key a = k) ++ l.filter fun a => k < key a) := by
  induction l with
  | nil => rfl
  | cons a l ih =>
    obtain ⟨hle, hrest⟩ := List.pairwise_cons.mp h
    rcases lt_trichotomy (key a) k with hlt | heq | hgt
    · rw [List.filter_cons, if_pos (decide_eq_true hlt), List.filter_cons, if_neg (by simpa using hlt.ne), List.filter_cons,
        if_neg (by simpa using hlt.le), List.cons_append, ← ih hrest]
    · have hnone : l.filter (fun b => key b < k) = [] :=
        List.filter_eq_nil_iff.mpr fun b hb => by simpa using heq ▸ hle b hb
      rw [List.filter_cons, if_neg (by simpa using heq.ge), List.filter_cons, if_pos (decide_eq_true heq), List.filter_cons,
        if_neg (by simpa using heq.le)]
      have hsplit := ih hrest
      rw [hnone, List.nil_append] at hsplit
      rw [hnone, List.nil_append, List.cons_append, ← hsplit]
    · have hbelow : (a :: l).filter (fun b => key b < k) = [] := by
        refine List.filter_eq_nil_iff.mpr fun b hb => ?_
        rcases List.mem_cons.mp hb with rfl | hb
        · simpa using hgt.le
        · simpa using hgt.le.trans (hle b hb)
      have hequal : (a :: l).filter (fun b => key b = k) = [] := by
        refine List.filter_eq_nil_iff.mpr fun b hb => ?_
        rcases List.mem_cons.mp hb with rfl | hb
        · simpa using hgt.ne'
        · simpa using (hgt.trans_le (hle b hb)).ne'
      have habove : (a :: l).filter (fun b => k < key b) = a :: l := by
        refine List.filter_eq_self.mpr fun b hb => ?_
        rcases List.mem_cons.mp hb with rfl | hb
        · simpa using hgt
        · simpa using hgt.trans_le (hle b hb)
      rw [hbelow, hequal, habove, List.nil_append, List.nil_append]

theorem length_filter_sortOn (key : A → O) (xs : List A) (p : A → Bool) : ((sortOn key xs).filter p).length = xs.countP p := by
  rw [← List.countP_eq_length_filter]
  exact (perm_sortOn key xs).countP_eq p

theorem countP_le_eq (key : A → O) (xs : List A) (k : O) :
    xs.countP (fun a => key a ≤ k) = xs.countP (fun a => key a < k) + xs.countP fun a => key a = k := by
  induction xs with
  | nil => rfl
  | cons a xs ih =>
    rw [List.countP_cons, List.countP_cons, List.countP_cons, ih]
    rcases lt_trichotomy (key a) k with hlt | heq | hgt
    · simp only [hlt, hlt.le, hlt.ne, decide_true, decide_false, if_true, Bool.false_eq_true, if_false]
      omega
    · simp only [heq, le_refl, lt_irrefl, decide_true, decide_false, if_true, Bool.false_eq_true, if_false]
      omega
    · simp only [hgt.not_ge, hgt.not_gt, hgt.ne', decide_false, Bool.false_eq_true, if_false]
      omega

theorem getElem?_sortOn {xs : List A} {k : O} {i : Nat} (hbelow : xs.countP (fun a => key a < k) ≤ i)
    (hwithin : i < xs.countP fun a => key a ≤ k) :
    (sortOn key xs)[i]? = (xs.filter fun a => key a = k)[i - xs.countP fun a => key a < k]? := by
  have hsplit := sorted_split (pairwise_sortOn key xs) k
  rw [filter_sortOn] at hsplit
  rw [countP_le_eq] at hwithin
  rw [hsplit, List.getElem?_append_right (by rwa [length_filter_sortOn]), length_filter_sortOn, List.getElem?_append_left]
  rw [← List.countP_eq_length_filter]
  omega

/-- Which places a key has. -/
theorem places_of_key {xs : List A} {i : Nat} {a : A} (hi : (sortOn key xs)[i]? = some a) :
    xs.countP (fun b => key b < key a) ≤ i ∧ i < xs.countP fun b => key b ≤ key a := by
  have hsplit := sorted_split (pairwise_sortOn key xs) (key a)
  rw [filter_sortOn] at hsplit
  have hplaced := (congrArg (fun l => l[i]?) hsplit).symm.trans hi
  constructor
  · by_contra hlt
    rw [List.getElem?_append_left (by rw [length_filter_sortOn]; omega)] at hplaced
    exact absurd (of_decide_eq_true (List.mem_filter.mp (List.mem_of_getElem? hplaced)).2) (lt_irrefl _)
  · by_contra hge
    rw [countP_le_eq] at hge
    rw [← List.append_assoc, List.getElem?_append_right
      (by rw [List.length_append, length_filter_sortOn, ← List.countP_eq_length_filter]; omega)] at hplaced
    exact absurd (of_decide_eq_true (List.mem_filter.mp (List.mem_of_getElem? hplaced)).2) (lt_irrefl _)

/-! ## Who else can have it -/

section Classes

variable {K : Type} [DecidableEq K] (cls : A → K) {p : A → Bool} {xs : List A}

theorem exists_take_countP {n : Nat} (h : n ≤ xs.countP p) : ∃ m, (xs.take m).countP p = n := by
  induction xs generalizing n with
  | nil => exact ⟨0, (Nat.le_zero.mp h).symm⟩
  | cons a xs ih =>
    by_cases ha : p a = true
    · cases n with
      | zero => exact ⟨0, rfl⟩
      | succ n =>
        rw [List.countP_cons_of_pos ha] at h
        obtain ⟨m, hm⟩ := ih (Nat.le_of_succ_le_succ h)
        exact ⟨m + 1, by rw [List.take_succ_cons, List.countP_cons_of_pos ha, hm]⟩
    · rw [List.countP_cons_of_neg ha] at h
      obtain ⟨m, hm⟩ := ih h
      exact ⟨m + 1, by rw [List.take_succ_cons, List.countP_cons_of_neg ha, hm]⟩

/-- A class can be moved as a whole, the order within each class kept, so that one of it has a given place among those that are picked. -/
theorem exists_moved_class {b : A} (hb : b ∈ xs) (hpick : p b = true) {j : Nat} (hj : j < xs.countP p) :
    ∃ ys : List A, ys.Perm xs ∧ (∀ k, ys.filter (fun a => cls a = k) = xs.filter fun a => cls a = k) ∧
      ∃ b', (ys.filter p)[j]? = some b' ∧ cls b' = cls b := by
  let own := xs.filter fun a => cls a = cls b
  let others := xs.filter fun a => !decide (cls a = cls b)
  have hcount : own.countP p + others.countP p = xs.countP p := by
    rw [← List.countP_append]
    exact (List.filter_append_perm _ xs).countP_eq p
  have hown : 0 < own.countP p := List.countP_pos_iff.mpr ⟨b, List.mem_filter.mpr ⟨hb, decide_eq_true rfl⟩, hpick⟩
  have hle : min j (others.countP p) ≤ others.countP p := min_le_right _ _
  obtain ⟨m, hm⟩ := exists_take_countP hle
  refine ⟨others.take m ++ (own ++ others.drop m), ?_, ?_, ?_⟩
  · have hmiddle : (others.take m ++ (own ++ others.drop m)).Perm (own ++ (others.take m ++ others.drop m)) :=
      List.perm_append_comm_assoc _ _ _
    rw [List.take_append_drop] at hmiddle
    exact hmiddle.trans (List.filter_append_perm _ xs)
  · intro k
    rw [List.filter_append, List.filter_append]
    by_cases hk : k = cls b
    · have hnone : ∀ l : List A, l.Sublist others → l.filter (fun a => cls a = k) = [] := by
        intro l hl
        refine List.filter_eq_nil_iff.mpr fun a ha => ?_
        simpa [hk] using (List.mem_filter.mp (hl.subset ha)).2
      rw [hnone _ (List.take_sublist m others), hnone _ (List.drop_sublist m others), List.nil_append, List.append_nil, hk, List.filter_filter]
      exact List.filter_congr fun a _ => Bool.and_self _
    · have hnone : own.filter (fun a => cls a = k) = [] := by
        refine List.filter_eq_nil_iff.mpr fun a ha => ?_
        have ha' : cls a = cls b := of_decide_eq_true (List.mem_filter.mp ha).2
        simpa [ha'] using Ne.symm hk
      rw [hnone, List.nil_append, ← List.filter_append, List.take_append_drop, List.filter_filter]
      refine List.filter_congr fun a _ => ?_
      by_cases ha : cls a = k
      · have hab : cls a ≠ cls b := ha ▸ hk
        simp [ha, ha ▸ hab]
      · simp [ha]
  · have hlength : ((others.take m).filter p).length = min j (others.countP p) := by
      rw [← List.countP_eq_length_filter]
      exact hm
    have hshort : j - min j (others.countP p) < (own.filter p).length := by
      rw [← List.countP_eq_length_filter]
      omega
    rw [List.filter_append, List.filter_append, List.getElem?_append_right (by rw [hlength]; exact min_le_left _ _), hlength,
      List.getElem?_append_left hshort]
    refine ⟨_, List.getElem?_eq_getElem hshort, ?_⟩
    exact of_decide_eq_true (List.mem_filter.mp (List.mem_filter.mp (List.getElem_mem hshort)).1).2

end Classes

/-! ## The least of each key -/

section Least

variable {K : Type} [DecidableEq K] {cost : A → O}

def lesser (cost : A → O) (existing : Option A) (a : A) : A :=
  match existing with
  | none => a
  | some b => if cost a < cost b then a else b

theorem lesser_cases (cost : A → O) (existing : Option A) (a : A) : lesser cost existing a = a ∨ existing = some (lesser cost existing a) := by
  cases existing with
  | none => exact .inl rfl
  | some b =>
    unfold lesser
    dsimp only
    split
    · exact .inl rfl
    · exact .inr rfl

theorem lesser_le (cost : A → O) (existing : Option A) (a : A) :
    cost (lesser cost existing a) ≤ cost a ∧ ∀ b, existing = some b → cost (lesser cost existing a) ≤ cost b := by
  cases existing with
  | none => exact ⟨le_rfl, nofun⟩
  | some b =>
    unfold lesser
    dsimp only
    split
    · next hlt => exact ⟨le_rfl, fun c hc => Option.some.inj hc ▸ hlt.le⟩
    · next hle => exact ⟨not_lt.mp hle, fun c hc => Option.some.inj hc ▸ le_rfl⟩

/-- The dictionary takes an item that costs less than what it has for the key. -/
def keepLeast (cost : A → O) (d : List (K × A)) (item : K × A) : List (K × A) :=
  match d.lookup item.1 with
  | none => put d item.1 item.2
  | some existing => if cost item.2 < cost existing then put d item.1 item.2 else d

def leastByKey (cost : A → O) (items : List (K × A)) : List (K × A) := items.foldl (keepLeast cost) []

theorem lookup_keepLeast (cost : A → O) (d : List (K × A)) (item : K × A) (k : K) :
    (keepLeast cost d item).lookup k = if k = item.1 then some (lesser cost (d.lookup item.1) item.2) else d.lookup k := by
  unfold keepLeast lesser
  cases hlookup : d.lookup item.1 with
  | none => exact lookup_put d item.1 k item.2
  | some existing =>
    dsimp only
    split
    · exact lookup_put d item.1 k item.2
    · split
      · next hk => rw [hk, hlookup]
      · rfl

theorem uniqueKeys_leastByKey (items : List (K × A)) : UniqueKeys (leastByKey cost items) := by
  have hloop : ∀ d : List (K × A), UniqueKeys d → UniqueKeys (items.foldl (keepLeast cost) d) := by
    induction items with
    | nil => exact fun d h => h
    | cons item items ih =>
      intro d h
      refine ih _ ?_
      unfold keepLeast
      split
      · exact uniqueKeys_put h _ _
      · split
        · exact uniqueKeys_put h _ _
        · exact h
  exact hloop [] List.nodup_nil

/-- What is kept of a key is one of its own, and none of them costs less. -/
theorem lookup_leastByKey (cost : A → O) (items : List (K × A)) (k : K) :
    ((leastByKey cost items).lookup k = none ∧ valuesOf items k = []) ∨
      ∃ a, (leastByKey cost items).lookup k = some a ∧ a ∈ valuesOf items k ∧ ∀ b ∈ valuesOf items k, cost a ≤ cost b := by
  have hloop : ∀ d : List (K × A), ((items.foldl (keepLeast cost) d).lookup k = none ∧ d.lookup k = none ∧ valuesOf items k = []) ∨
      ∃ a, (items.foldl (keepLeast cost) d).lookup k = some a ∧ (d.lookup k = some a ∨ a ∈ valuesOf items k) ∧
        (∀ b, d.lookup k = some b → cost a ≤ cost b) ∧ ∀ b ∈ valuesOf items k, cost a ≤ cost b := by
    induction items with
    | nil =>
      intro d
      cases hlookup : d.lookup k with
      | none => exact .inl ⟨hlookup, rfl, rfl⟩
      | some a => exact .inr ⟨a, hlookup, .inl rfl, fun b hb => (Option.some.inj hb ▸ le_rfl), fun b hb => absurd hb List.not_mem_nil⟩
    | cons item items ih =>
      intro d
      rw [List.foldl_cons, valuesOf_cons]
      have hstep := lookup_keepLeast cost d item k
      by_cases hk : k = item.1
      · rw [if_pos hk] at hstep
        rw [if_pos hk.symm]
        rcases ih (keepLeast cost d item) with ⟨-, hnone, -⟩ | ⟨a, hlookup, hfrom, hleast, hall⟩
        · exact absurd (hstep.symm.trans hnone) nofun
        · have hkept := hleast _ hstep
          obtain ⟨hitem, hbefore⟩ := lesser_le cost (d.lookup item.1) item.2
          rw [← hk] at hkept hitem hbefore
          refine .inr ⟨a, hlookup, ?_, fun b hb => hkept.trans (hbefore b hb), ?_⟩
          · rcases hfrom with hfrom | hfrom
            · rw [hstep, ← hk] at hfrom
              rw [← Option.some.inj hfrom]
              rcases lesser_cases cost (d.lookup k) item.2 with hnew | hold
              · rw [hnew]
                exact .inr List.mem_cons_self
              · exact .inl hold
            · exact .inr (List.mem_cons_of_mem _ hfrom)
          · intro b hb
            rcases List.mem_cons.mp hb with rfl | hb
            · exact hkept.trans hitem
            · exact hall b hb
      · rw [if_neg hk] at hstep
        rw [if_neg (Ne.symm hk)]
        rw [← hstep]
        exact ih (keepLeast cost d item)
  rcases hloop [] with ⟨hnone, -, hempty⟩ | ⟨a, hlookup, hfrom, -, hleast⟩
  · exact .inl ⟨hnone, hempty⟩
  · exact .inr ⟨a, hlookup, hfrom.resolve_left nofun, hleast⟩

end Least

end Exec.Dictionary
