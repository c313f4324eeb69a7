import Mathlib.Algebra.Order.Archimedean.Basic

/-!
# `Exec.Windows` — how much falls into a window of time

A **log** is a list of moments with weights: what was admitted, and when. `weight log p` is the weight of the entries whose moment
satisfies `p`. A limiter looks back over some length of time before it admits an entry (`weight_window_append`): then no window of
that length holds more than the limit, and longer windows hold at most as many limits as pieces of that length they have
(`weight_pieces_le`).
-/

namespace Exec

abbrev Log := List (ℚ × ℕ)

/-- The weight of the entries at moments of the kind `p`. -/
def weight (log : Log) (p : ℚ → Prop) [DecidablePred p] : ℕ := ((log.filter fun e => p e.1).map Prod.snd).sum

section Weight

variable {log : Log} {e : ℚ × ℕ} {p q : ℚ → Prop} [DecidablePred p] [DecidablePred q]

@[simp] theorem weight_nil : weight [] p = 0 := rfl

theorem weight_append (l₁ l₂ : Log) : weight (l₁ ++ l₂) p = weight l₁ p + weight l₂ p := by
  unfold weight
  rw [List.filter_append, List.map_append, List.sum_append]

theorem weight_singleton : weight [e] p = if p e.1 then e.2 else 0 := by
  unfold weight
  by_cases h : p e.1
  · simp [h]
  · simp [h]

theorem weight_mono (h : ∀ e ∈ log, p e.1 → q e.1) : weight log p ≤ weight log q := by
  induction log with
  | nil => exact le_refl _
  | cons e log ih =>
    have htail := ih fun e he => h e (List.mem_cons_of_mem _ he)
    have hhead := h e List.mem_cons_self
    rw [← List.singleton_append, weight_append, weight_append, weight_singleton, weight_singleton]
    by_cases hp : p e.1
    · rw [if_pos hp, if_pos (hhead hp)]
      omega
    · rw [if_neg hp]
      omega

theorem weight_eq_zero (h : ∀ e ∈ log, ¬ p e.1) : weight log p = 0 := by
  unfold weight
  rw [List.filter_eq_nil_iff.mpr fun e he => by simpa using h e he]
  rfl

theorem weight_eq_sum (h : ∀ e ∈ log, p e.1) : weight log p = (log.map Prod.snd).sum := by
  unfold weight
  rw [List.filter_eq_self.mpr fun e he => decide_eq_true (h e he)]

theorem weight_le_sum : weight log p ≤ (log.map Prod.snd).sum := by
  rw [← weight_eq_sum (p := fun _ => True) fun _ _ => trivial]
  exact weight_mono fun _ _ _ => trivial

theorem weight_split : weight log p = weight log (fun t => p t ∧ q t) + weight log (fun t => p t ∧ ¬ q t) := by
  induction log with
  | nil => rfl
  | cons e log ih =>
    rw [← List.singleton_append, weight_append, weight_append, weight_append, weight_singleton, weight_singleton,
      weight_singleton, ih]
    by_cases hp : p e.1
    · by_cases hq : q e.1
      · rw [if_pos hp, if_pos ⟨hp, hq⟩, if_neg fun h => h.2 hq]
        omega
      · rw [if_pos hp, if_neg fun h => hq h.2, if_pos ⟨hp, hq⟩]
        omega
    · rw [if_neg hp, if_neg fun h => hp h.1, if_neg fun h => hp h.1]
      omega

end Weight

/-! ## Windows -/

section Windows

variable {log : Log} {W now a b : ℚ} {limit w : ℕ}

/-- A limiter that looks back: what it admits keeps every window of the length within the limit. -/
theorem weight_window_append (hlog : ∀ a b, b - a ≤ W → weight log (fun t => a ≤ t ∧ t ≤ b) ≤ limit)
    (hadmitted : weight log (fun t => now - W ≤ t) + w ≤ limit) (hlength : b - a ≤ W) :
    weight (log ++ [(now, w)]) (fun t => a ≤ t ∧ t ≤ b) ≤ limit := by
  rw [weight_append, weight_singleton]
  by_cases hin : a ≤ now ∧ now ≤ b
  · rw [if_pos hin]
    have hback : weight log (fun t => a ≤ t ∧ t ≤ b) ≤ weight log (fun t => now - W ≤ t) := by
      refine weight_mono fun e _ he => ?_
      linarith [he.1, hin.2]
    omega
  · rw [if_neg hin]
    exact hlog a b hlength

/-- Longer windows: by induction on the pieces. -/
theorem weight_pieces_le (hlog : ∀ a b, b - a ≤ W → weight log (fun t => a ≤ t ∧ t ≤ b) ≤ limit) (n : ℕ) (a : ℚ) :
    weight log (fun t => a ≤ t ∧ t < a + n * W) ≤ n * limit := by
  induction n with
  | zero =>
    have hnone : weight log (fun t => a ≤ t ∧ t < a + (0 : ℕ) * W) = 0 := by
      refine weight_eq_zero fun e _ he => ?_
      have hlt := he.2
      rw [Nat.cast_zero, zero_mul, add_zero] at hlt
      exact absurd he.1 (not_le.mpr hlt)
    rw [hnone, Nat.zero_mul]
  | succ n ih =>
    rw [weight_split (q := fun t => t < a + n * W)]
    have hfirst : weight log (fun t => (a ≤ t ∧ t < a + (n + 1 : ℕ) * W) ∧ t < a + n * W) ≤ n * limit :=
      le_trans (weight_mono fun e _ he => ⟨he.1.1, he.2⟩) ih
    have hlast : weight log (fun t => (a ≤ t ∧ t < a + (n + 1 : ℕ) * W) ∧ ¬ t < a + n * W) ≤ limit := by
      refine le_trans (weight_mono fun e _ he => ?_) (hlog (a + n * W) (a + n * W + W) (by linarith))
      obtain ⟨⟨-, hlt⟩, hge⟩ := he
      push_cast at hlt
      exact ⟨not_lt.mp hge, by linarith⟩
    rw [Nat.succ_mul]
    omega

/-- … of any length. -/
theorem weight_period_le (hW : 0 < W) (hlog : ∀ a b, b - a ≤ W → weight log (fun t => a ≤ t ∧ t ≤ b) ≤ limit) (P a : ℚ) :
    weight log (fun t => a ≤ t ∧ t < a + P) ≤ ⌈P / W⌉₊ * limit := by
  refine le_trans (weight_mono fun e _ he => ⟨he.1, lt_of_lt_of_le he.2 ?_⟩) (weight_pieces_le hlog ⌈P / W⌉₊ a)
  have hceil : P / W ≤ (⌈P / W⌉₊ : ℚ) := Nat.le_ceil _
  have hP : P ≤ (⌈P / W⌉₊ : ℚ) * W := by rwa [div_le_iff₀ hW] at hceil
  linarith

end Windows

end Exec
