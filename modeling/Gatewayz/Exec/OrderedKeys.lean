import Mathlib.Data.List.Nodup

/-!
# `Exec.OrderedKeys` — keys in the order of their last use

The keys of an ordered dictionary: each once, the one used longest ago first. A key that is used goes to the end (`touch`).

Where there are more keys than a cap, those at the front are given up as long as they are idle. The keys that go are the first idle
ones, as many as are too many (`surplus`).
-/

namespace Exec

/-- Ordered keys, the least recently used first. -/
structure OrderedKeys (K : Type) where
  keys : List K := []
  unique : keys.Nodup := by exact List.nodup_nil

namespace OrderedKeys

variable {K : Type} (o : OrderedKeys K)

/-- The key is at the end, whether it was there or not. -/
def touch [DecidableEq K] (k : K) : OrderedKeys K where
  keys := o.keys.filter (· ≠ k) ++ [k]
  unique := by
    refine List.nodup_append.mpr ⟨o.unique.filter _, List.nodup_singleton _, fun a ha b hb heq => ?_⟩
    exact of_decide_eq_true (List.mem_filter.mp ha).2 (heq.trans (List.mem_singleton.mp hb))

/-- Without the keys that `p` holds of. -/
def removeAll (p : K → Bool) : OrderedKeys K where
  keys := o.keys.filter fun k => !p k
  unique := o.unique.filter _

/-- The idle keys that are given up to come down to the cap. -/
def surplus (idle : K → Bool) (cap : ℕ) : List K := (o.keys.filter idle).take (o.keys.length - cap)

variable {o} {p q idle : K → Bool} {cap : ℕ} {k k' : K}

theorem keys_removeAll : (o.removeAll p).keys = o.keys.filter fun k => !p k := rfl

theorem mem_removeAll : k ∈ (o.removeAll p).keys ↔ k ∈ o.keys ∧ p k = false := by
  rw [keys_removeAll, List.mem_filter, Bool.not_eq_true']

theorem ext {o o' : OrderedKeys K} (h : o.keys = o'.keys) : o = o' := by
  cases o
  cases h
  rfl

theorem removeAll_removeAll : (o.removeAll p).removeAll q = o.removeAll fun k => p k || q k := by
  refine ext ?_
  rw [keys_removeAll, keys_removeAll, keys_removeAll, List.filter_filter]
  refine List.filter_congr fun k _ => ?_
  cases p k <;> cases q k <;> rfl

theorem removeAll_eq_self (h : ∀ k ∈ o.keys, p k = false) : o.removeAll p = o :=
  ext (List.filter_eq_self.mpr fun k hk => by rw [h k hk]; rfl)

section Touch

variable [DecidableEq K]

theorem keys_touch : (o.touch k).keys = o.keys.filter (· ≠ k) ++ [k] := rfl

theorem mem_touch : k' ∈ (o.touch k).keys ↔ k' ∈ o.keys ∨ k' = k := by
  rw [keys_touch, List.mem_append, List.mem_filter, List.mem_singleton]
  by_cases hk : k' = k
  · exact iff_of_true (.inr hk) (.inr hk)
  · rw [or_iff_left hk, or_iff_left hk]
    exact and_iff_left (decide_eq_true hk)

theorem keys_touch_of_notMem (h : k ∉ o.keys) : (o.touch k).keys = o.keys ++ [k] := by
  have hall : o.keys.filter (· ≠ k) = o.keys := List.filter_eq_self.mpr fun k' hk' => by
    rw [decide_eq_true_eq]
    rintro rfl
    exact h hk'
  rw [keys_touch, hall]

theorem length_touch_of_mem (h : k ∈ o.keys) : (o.touch k).keys.length = o.keys.length := by
  have herase : o.keys.filter (· ≠ k) = o.keys.erase k := by
    rw [o.unique.erase_eq_filter k]
    refine List.filter_congr fun k' _ => ?_
    by_cases hk : k' = k <;> simp [hk]
  rw [keys_touch, List.length_append, List.length_singleton, herase, List.length_erase_of_mem h]
  have := List.length_pos_of_mem h
  omega

end Touch

/-! ## The surplus -/

theorem surplus_of_le (h : o.keys.length ≤ cap) : o.surplus idle cap = [] := by
  rw [surplus, Nat.sub_eq_zero_of_le h, List.take_zero]

theorem idle_of_mem_surplus (h : k ∈ o.surplus idle cap) : idle k = true := (List.mem_filter.mp (List.mem_of_mem_take h)).2

theorem surplus_of_busy (h : o.keys.find? idle = none) : o.surplus idle cap = [] := by
  rw [surplus, List.filter_eq_nil_iff.mpr (List.find?_eq_none.mp h), List.take_nil]

theorem surplus_sublist : (o.surplus idle cap).Sublist o.keys := (List.take_sublist _ _).trans List.filter_sublist

section Find

variable [DecidableEq K]

/-- The first idle key goes first, the rest of the surplus is that of the other keys. -/
theorem surplus_of_find (hlt : cap < o.keys.length) (h : o.keys.find? idle = some k) :
    o.surplus idle cap = k :: (o.removeAll (· = k)).surplus idle cap := by
  obtain ⟨hidle, before, after, hkeys, hbefore⟩ := List.find?_eq_some_iff_append.mp h
  have hunique := o.unique
  rw [hkeys, List.nodup_middle, List.nodup_cons] at hunique
  have hothers : (o.removeAll (· = k)).keys = before ++ after := by
    have hkeep : (before ++ after).filter (fun k' => !decide (k' = k)) = before ++ after := by
      refine List.filter_eq_self.mpr fun k' hk' => ?_
      rw [Bool.not_eq_true', decide_eq_false_iff_not]
      rintro rfl
      exact hunique.1 hk'
    rw [List.filter_append] at hkeep
    rw [keys_removeAll, hkeys, List.filter_append, List.filter_cons_of_neg (by simp), hkeep]
  have hnone : before.filter idle = [] := List.filter_eq_nil_iff.mpr fun k' hk' => by
    have := hbefore k' hk'
    rwa [Bool.not_eq_true', ← Bool.not_eq_true] at this
  have hlength : o.keys.length - cap = ((o.removeAll (· = k)).keys.length - cap) + 1 := by
    rw [hothers, hkeys, List.length_append, List.length_cons, List.length_append]
    rw [hkeys, List.length_append, List.length_cons] at hlt
    omega
  rw [surplus, surplus, hlength, hothers, hkeys, List.filter_append, List.filter_append, hnone, List.nil_append, List.nil_append,
    List.filter_cons_of_pos hidle, List.take_succ_cons]

/-- The key used last goes only if it is idle and the others that are busy reach the cap. -/
theorem mem_surplus_touch (h : k ∉ o.keys) :
    k ∈ (o.touch k).surplus idle cap ↔ idle k = true ∧ cap ≤ (o.keys.filter fun k' => !idle k').length := by
  have hsplit := List.length_eq_length_filter_add idle (l := o.keys)
  have hnot : k ∉ o.keys.filter idle := fun hmem => h (List.mem_filter.mp hmem).1
  rw [surplus, keys_touch_of_notMem h, List.filter_append, List.take_append, List.mem_append,
    or_iff_right fun hmem => hnot (List.mem_of_mem_take hmem), List.length_append, List.length_singleton]
  cases hidle : idle k with
  | false => simp [hidle]
  | true =>
    rw [List.filter_cons_of_pos hidle, List.filter_nil, eq_self_iff_true, true_and]
    by_cases hcap : cap ≤ (o.keys.filter fun k' => !idle k').length
    · refine iff_of_true ?_ hcap
      rw [List.take_of_length_le (by rw [List.length_singleton]; omega)]
      exact List.mem_singleton_self k
    · refine iff_of_false ?_ hcap
      rw [Nat.sub_eq_zero_of_le (by omega), List.take_zero]
      exact List.not_mem_nil

theorem length_removeAll_surplus (o : OrderedKeys K) (idle : K → Bool) (cap : ℕ) :
    (o.removeAll fun k => decide (k ∈ o.surplus idle cap)).keys.length + (o.surplus idle cap).length = o.keys.length := by
  have hcount : (o.keys.filter fun k => decide (k ∈ o.surplus idle cap)).length = (o.surplus idle cap).length := by
    refine List.Perm.length_eq ((List.perm_ext_iff_of_nodup (o.unique.filter _) (surplus_sublist.nodup o.unique)).mpr fun k => ?_)
    rw [List.mem_filter, decide_eq_true_eq]
    exact and_iff_right_of_imp fun hk => surplus_sublist.subset hk
  have hsplit := List.length_eq_length_filter_add (fun k => decide (k ∈ o.surplus idle cap)) (l := o.keys)
  rw [keys_removeAll]
  omega

end Find

end OrderedKeys

end Exec
