import Mathlib.Data.Int.Log
import Mathlib.Data.Rat.Floor
import Mathlib.Algebra.Order.BigOperators.Group.List

/-!
# `Exec.Decimal` — decimal arithmetic of a limited precision

A decimal context computes a sum exactly and then keeps its first `precision` digits (`fix`); how the rest is rounded is the
context's `toInt`. A number that `Fits` the precision is left as it is, and no other number is (`fix_eq_self_iff`).

Numbers that are whole multiples of one power of ten and whose sizes together fit the precision are added without any rounding, in
every order (`foldl_add`).
-/

namespace Exec

/-- A decimal context: a precision, and a rounding to whole numbers that leaves these and the order alone. -/
structure DecimalContext where
  precision : ℕ
  toInt : ℚ → ℤ
  precision_pos : 0 < precision
  toInt_intCast : ∀ n : ℤ, toInt n = n
  toInt_mono : ∀ x y : ℚ, x ≤ y → toInt x ≤ toInt y

namespace DecimalContext

variable (C : DecimalContext)

def lastPlace (q : ℚ) : ℤ := Int.log 10 |q| + 1 - C.precision

/-- `q` rounded to the precision. -/
def fix (q : ℚ) : ℚ := if q = 0 then 0 else C.toInt (q / 10 ^ C.lastPlace q) * 10 ^ C.lastPlace q

/-- `x + y` in the context. -/
def add (x y : ℚ) : ℚ := C.fix (x + y)

/-- `x - y` in the context. -/
def sub (x y : ℚ) : ℚ := C.fix (x - y)

/-- The digits of the precision are enough for `q`. -/
def Fits (q : ℚ) : Prop := ∃ n k : ℤ, |n| < 10 ^ C.precision ∧ q = n * 10 ^ k

variable {C} {q : ℚ}

@[simp] theorem fix_zero : C.fix 0 = 0 := if_pos rfl

theorem ten_zpow_pos (k : ℤ) : (0 : ℚ) < 10 ^ k := zpow_pos (by norm_num) k

/-- What is rounded to a whole number is below `10 ^ precision` … -/
theorem abs_div_lt (q : ℚ) : |q / 10 ^ C.lastPlace q| < 10 ^ C.precision := by
  have hlt : |q| < (10 : ℚ) ^ (Int.log 10 |q| + 1) := by exact_mod_cast Int.lt_zpow_succ_log_self (b := 10) (by norm_num) |q|
  have hexp : (10 : ℚ) ^ (Int.log 10 |q| + 1) = 10 ^ C.precision * 10 ^ C.lastPlace q := by
    rw [← zpow_natCast, ← zpow_add₀ (by norm_num)]
    congr 1
    unfold lastPlace
    omega
  rw [abs_div, abs_of_pos (ten_zpow_pos _), div_lt_iff₀ (ten_zpow_pos _), ← hexp]
  exact hlt

/-- … and one at least. -/
theorem one_le_abs_div (h : q ≠ 0) : 1 ≤ |q / 10 ^ C.lastPlace q| := by
  have hle : (10 : ℚ) ^ Int.log 10 |q| ≤ |q| := by
    exact_mod_cast Int.zpow_log_le_self (b := 10) (by norm_num) (abs_pos.mpr h)
  have hexp : C.lastPlace q ≤ Int.log 10 |q| := by
    have := C.precision_pos
    unfold lastPlace
    omega
  rw [abs_div, abs_of_pos (ten_zpow_pos _), one_le_div (ten_zpow_pos _)]
  exact (zpow_le_zpow_right₀ (by norm_num) hexp).trans hle

theorem fix_pos (h : 0 < q) : 0 < C.fix q := by
  have hone : 1 ≤ q / 10 ^ C.lastPlace q := by
    have := one_le_abs_div (C := C) h.ne'
    rwa [abs_of_pos (div_pos h (ten_zpow_pos _))] at this
  have hint : 1 ≤ C.toInt (q / 10 ^ C.lastPlace q) := by
    have := C.toInt_mono _ _ hone
    rwa [← Int.cast_one, C.toInt_intCast] at this
  rw [fix, if_neg h.ne']
  exact mul_pos (by exact_mod_cast hint) (ten_zpow_pos _)

theorem fix_nonpos (h : q ≤ 0) : C.fix q ≤ 0 := by
  rcases h.eq_or_lt with rfl | hneg
  · exact fix_zero.le
  · have hint : C.toInt (q / 10 ^ C.lastPlace q) ≤ 0 := by
      have := C.toInt_mono _ _ (div_nonpos_of_nonpos_of_nonneg h (ten_zpow_pos (C.lastPlace q)).le)
      rwa [← Int.cast_zero, C.toInt_intCast] at this
    rw [fix, if_neg hneg.ne]
    exact mul_nonpos_of_nonpos_of_nonneg (by exact_mod_cast hint) (ten_zpow_pos _).le

theorem fix_nonneg (h : 0 ≤ q) : 0 ≤ C.fix q := by
  rcases h.eq_or_lt with rfl | hpos
  · exact fix_zero.ge
  · exact (fix_pos hpos).le

/-- A number that fits is not rounded: its last digit is not below the last one that is kept. -/
theorem fix_of_fits (h : C.Fits q) : C.fix q = q := by
  obtain ⟨n, k, hn, rfl⟩ := h
  by_cases hzero : (n : ℚ) * 10 ^ k = 0
  · rw [hzero, fix_zero]
  have hlt : |(n : ℚ) * 10 ^ k| < (10 : ℚ) ^ ((C.precision : ℤ) + k) := by
    rw [abs_mul, abs_of_pos (ten_zpow_pos k), zpow_add₀ (by norm_num), zpow_natCast]
    exact mul_lt_mul_of_pos_right (by exact_mod_cast hn) (ten_zpow_pos k)
  have hlog : Int.log 10 |(n : ℚ) * 10 ^ k| < C.precision + k :=
    (Int.lt_zpow_iff_log_lt (by norm_num) (abs_pos.mpr hzero)).mp (by exact_mod_cast hlt)
  have hle : C.lastPlace (n * 10 ^ k) ≤ k := by
    unfold lastPlace
    omega
  obtain ⟨d, hd⟩ := Int.eq_ofNat_of_zero_le (sub_nonneg.mpr hle)
  have hwhole : (n : ℚ) * 10 ^ k / 10 ^ C.lastPlace (n * 10 ^ k) = ((n * 10 ^ d : ℤ) : ℚ) := by
    rw [mul_div_assoc, ← zpow_sub₀ (by norm_num), hd, zpow_natCast]
    push_cast
    rfl
  rw [fix, if_neg hzero, hwhole, C.toInt_intCast, ← hwhole, div_mul_cancel₀ _ (ten_zpow_pos _).ne']

/-- What comes out of a context fits; a carry to `10 ^ precision` moves the place by one. -/
theorem fits_fix (q : ℚ) : C.Fits (C.fix q) := by
  by_cases hzero : q = 0
  · exact ⟨0, 0, by simp, by simp [hzero]⟩
  have hbound := abs_lt.mp (abs_div_lt (C := C) q)
  have hupper : C.toInt (q / 10 ^ C.lastPlace q) ≤ 10 ^ C.precision := by
    have := C.toInt_mono _ ((10 ^ C.precision : ℤ) : ℚ) (by push_cast; exact hbound.2.le)
    rwa [C.toInt_intCast] at this
  have hlower : -10 ^ C.precision ≤ C.toInt (q / 10 ^ C.lastPlace q) := by
    have := C.toInt_mono ((-10 ^ C.precision : ℤ) : ℚ) _ (by push_cast; exact hbound.1.le)
    rwa [C.toInt_intCast] at this
  have hp : (1 : ℤ) < 10 ^ C.precision := one_lt_pow₀ (by norm_num) C.precision_pos.ne'
  rw [fix, if_neg hzero]
  rcases hupper.eq_or_lt with htop | htop
  · refine ⟨1, C.precision + C.lastPlace q, by rwa [abs_one], ?_⟩
    rw [htop, zpow_add₀ (by norm_num), zpow_natCast]
    push_cast
    ring
  rcases hlower.eq_or_lt with hbottom | hbottom
  · refine ⟨-1, C.precision + C.lastPlace q, by rwa [abs_neg, abs_one], ?_⟩
    rw [← hbottom, zpow_add₀ (by norm_num), zpow_natCast]
    push_cast
    ring
  · exact ⟨_, _, abs_lt.mpr ⟨hbottom, htop⟩, rfl⟩

theorem fix_eq_self_iff : C.fix q = q ↔ C.Fits q := by
  constructor
  · intro h
    exact h ▸ fits_fix q
  · exact fix_of_fits

/-! ## Sums on a grid -/

/-- A whole multiple of `10 ^ k`. -/
def OnGrid (k : ℤ) (q : ℚ) : Prop := ∃ n : ℤ, q = n * 10 ^ k

variable {k : ℤ} {x y : ℚ}

theorem OnGrid.zero : OnGrid k 0 := ⟨0, by simp⟩

theorem OnGrid.add (hx : OnGrid k x) (hy : OnGrid k y) : OnGrid k (x + y) := by
  obtain ⟨n, rfl⟩ := hx
  obtain ⟨m, rfl⟩ := hy
  exact ⟨n + m, by push_cast; ring⟩

theorem OnGrid.neg (hx : OnGrid k x) : OnGrid k (-x) := by
  obtain ⟨n, rfl⟩ := hx
  exact ⟨-n, by push_cast; ring⟩

theorem OnGrid.sum {xs : List ℚ} (h : ∀ x ∈ xs, OnGrid k x) : OnGrid k xs.sum := by
  induction xs with
  | nil => exact .zero
  | cons x xs ih =>
    rw [List.sum_cons]
    exact (h x (List.mem_cons_self ..)).add (ih fun y hy => h y (List.mem_cons_of_mem _ hy))

theorem OnGrid.fits (hx : OnGrid k x) (hlt : |x| < 10 ^ (C.precision + k)) : C.Fits x := by
  obtain ⟨n, rfl⟩ := hx
  refine ⟨n, k, ?_, rfl⟩
  rw [abs_mul, abs_of_pos (ten_zpow_pos k), zpow_add₀ (by norm_num), zpow_natCast] at hlt
  exact_mod_cast lt_of_mul_lt_mul_right hlt (ten_zpow_pos k).le

theorem abs_sum_le (xs : List ℚ) : |xs.sum| ≤ (xs.map abs).sum := by
  induction xs with
  | nil => simp
  | cons x xs ih =>
    rw [List.sum_cons, List.map_cons, List.sum_cons]
    exact (abs_add_le _ _).trans (by gcongr)

/-- A sum on a grid is exact, whatever its order, if all sizes together fit. -/
theorem foldl_add {xs : List ℚ} (hgrid : ∀ x ∈ xs, OnGrid k x) (hstart : OnGrid k q)
    (hlt : |q| + (xs.map abs).sum < 10 ^ (C.precision + k)) : xs.foldl C.add q = q + xs.sum := by
  induction xs generalizing q with
  | nil => simp
  | cons x xs ih =>
    rw [List.map_cons, List.sum_cons] at hlt
    have hsum : OnGrid k (q + x) := hstart.add (hgrid x (List.mem_cons_self ..))
    have hnonneg : 0 ≤ (xs.map abs).sum := (abs_nonneg _).trans (abs_sum_le xs)
    have habs := abs_add_le q x
    have hexact : C.add q x = q + x := fix_of_fits (hsum.fits (by linarith))
    rw [List.foldl_cons, hexact, ih (fun y hy => hgrid y (List.mem_cons_of_mem _ hy)) hsum (by linarith), List.sum_cons, add_assoc]

end DecimalContext

end Exec
