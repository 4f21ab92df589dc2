/-
Integers among the rounded numbers.

A ratio that is written with 53 digits is not changed by rounding, and integers up to `2 ^ 53` are
such ratios, as are their quarters. So a computation whose results are all of this kind is exact: a
floor is that of the exact value (`floor_eq`), and a sum is the exact sum if that is an integer of the
size (`value_add_of_eq`).
-/
import Mathlib.Data.Rat.Floor
import Mathlib.Tactic.FieldSimp
import ContractBridge.Proofs.Double.Rounding

set_option autoImplicit false

namespace ContractBridge.Double

variable {x y : Double} {n : Int}

/-! ## The exact value -/

/-- The numerator and the denominator of a number are the fraction that it is over a unit of one. -/
theorem toRatio_eq_shifted (x : Double) : x.toRatio = shifted x.digits 1 (-x.exponent) := by
  rcases lt_trichotomy x.exponent 0 with hneg | hzero | hpos
  · rw [toRatio, shifted, if_neg (by omega), if_pos (by omega)]
  · simp [toRatio, shifted, hzero]
  · rw [toRatio, shifted, if_pos hpos.le, if_neg (by omega), neg_neg]

/-- **The fraction of a number is its exact value.** -/
theorem toRatio_ratio (x : Double) :
    0 < x.toRatio.2 ∧ (x.toRatio.1 : ℚ) / x.toRatio.2 = x.value := by
  obtain ⟨hpos, hratio⟩ := shifted_ratio x.digits (-x.exponent) Nat.one_pos
  rw [← toRatio_eq_shifted] at hpos hratio
  refine ⟨hpos, ?_⟩
  rw [hratio, value, Nat.cast_one, div_one, zpow_neg, div_inv_eq_mul]

theorem floor_eq (x : Double) : x.floor = ⌊x.value⌋ := by
  obtain ⟨-, hratio⟩ := toRatio_ratio x
  rw [← hratio, Rat.floor_intCast_div_natCast]
  rfl

/-- A number is small enough to be kept if its value is below `2 ^ 1024`. -/
theorem isFinite_iff : x.isFinite = true ↔ |x.value| < 2 ^ 1024 := by
  obtain ⟨hpos, hratio⟩ := toRatio_ratio x
  have hden : (0 : ℚ) < x.toRatio.2 := Nat.cast_pos.2 hpos
  have hcross : ∀ k : Nat, x.toRatio.1.natAbs < x.toRatio.2 <<< k ↔ |x.value| < 2 ^ k := by
    intro k
    rw [← hratio, abs_div, abs_of_pos hden, div_lt_iff₀ hden, ← Int.cast_abs, Int.abs_eq_natAbs,
      Int.cast_natCast, mul_comm, Nat.shiftLeft_eq]
    exact_mod_cast Iff.rfl
  show decide (x.toRatio.1.natAbs < x.toRatio.2 <<< 1024) = true ↔ _
  rw [decide_eq_true_iff, hcross]

/-! ## Integers -/

/-- **An integer of at most 53 digits is not changed.** -/
theorem value_ofInt (hn : |n| ≤ 2 ^ 53) : (ofInt n).value = n := by
  have hunit : (n : ℚ) / (1 : Nat) = n * 2 ^ (0 : Int) := by simp
  rw [ofInt, value_ofRatio_of_eq Nat.one_pos hn hunit, Nat.cast_one, div_one]

/-- A quarter of such an integer is not changed either. -/
theorem value_quarter (hn : |n| ≤ 2 ^ 53) : (ofRatio n 4).value = n / 4 := by
  have hunit : (n : ℚ) / (4 : Nat) = n * 2 ^ (-2 : Int) := by norm_num [div_eq_mul_inv]
  rw [value_ofRatio_of_eq (by decide) hn hunit, Nat.cast_ofNat]

/-- The number of whole quarters is counted exactly. -/
theorem floor_quarter (hn : |n| ≤ 2 ^ 53) : (ofRatio n 4).floor = n / 4 := by
  have hfloor : ⌊((n : ℚ) / (4 : Nat))⌋ = n / (4 : Nat) := Rat.floor_intCast_div_natCast n 4
  rw [floor_eq, value_quarter hn]
  exact hfloor

/-- The rounded sum is a rounding of the exact one. -/
theorem add_eq_ofRatio (x y : Double) : ∃ (num : Int) (den : Nat), 0 < den ∧
    (num : ℚ) / den = x.value + y.value ∧ x.add y = ofRatio num den := by
  obtain ⟨hx, hxratio⟩ := toRatio_ratio x
  obtain ⟨hy, hyratio⟩ := toRatio_ratio y
  have hx' : (x.toRatio.2 : ℚ) ≠ 0 := Nat.cast_ne_zero.2 hx.ne'
  have hy' : (y.toRatio.2 : ℚ) ≠ 0 := Nat.cast_ne_zero.2 hy.ne'
  refine ⟨x.toRatio.1 * y.toRatio.2 + y.toRatio.1 * x.toRatio.2, x.toRatio.2 * y.toRatio.2,
    Nat.mul_pos hx hy, ?_, rfl⟩
  rw [← hxratio, ← hyratio]
  push_cast
  field_simp

/-- **A sum is exact if it is an integer of at most 53 digits.** -/
theorem value_add_of_eq (hn : |n| ≤ 2 ^ 53) (h : x.value + y.value = n) :
    (x.add y).value = n := by
  obtain ⟨num, den, hden, hratio, hadd⟩ := add_eq_ofRatio x y
  have hunit : (num : ℚ) / den = n * 2 ^ (0 : Int) := by rw [hratio, h, zpow_zero, mul_one]
  rw [hadd, value_ofRatio_of_eq hden hn hunit, hratio, h]

/-- Integers of at most 53 digits are small enough to be kept. -/
theorem isFinite_of_value_eq (hn : |n| ≤ 2 ^ 53) (h : x.value = n) : x.isFinite = true := by
  have hsmall : |(n : ℚ)| ≤ 2 ^ 53 := by exact_mod_cast hn
  rw [isFinite_iff, h]
  calc |(n : ℚ)| ≤ 2 ^ 53 := hsmall
    _ < 2 ^ 1024 := by gcongr <;> norm_num

end ContractBridge.Double
