/-
How far rounding goes.

A ratio is rounded once, to a multiple of a power of two that leaves it at least 53 binary digits
(`two_pow_exponentOf_le`). The nearest multiple is at most half a unit away, so the error is at most
one part in `2 ^ 53` of the ratio, and a ratio that is written with 53 digits is not changed.

Everything is stated of the exact value of a number, a rational. Integers enter by `shifted` alone:
the fraction that is divided is the ratio over the power of two (`shifted_ratio`).
-/
import Mathlib.Algebra.Order.Field.Power
import Mathlib.Data.Rat.Cast.Order
import Mathlib.Tactic.Linarith
import Mathlib.Tactic.Positivity
import Mathlib.Tactic.Ring
import ContractBridge.Double

set_option autoImplicit false

namespace ContractBridge

variable {num : Int} {den : Nat} {exponent : Int}

/-- The nearest integer is at most half a unit from the quotient. -/
theorem abs_nearest_sub_le (num : Int) (hden : 0 < den) :
    |(nearest num den : ℚ) - num / den| ≤ 1 / 2 := by
  have hpos : (0 : ℚ) < den := Nat.cast_pos.2 hden
  have hnear : 2 * (num - den * nearest num den) ≤ den ∧
      -(den : Int) ≤ 2 * (num - den * nearest num den) := two_mul_sub_nearest_le hden
  have hbelow : 2 * ((num : ℚ) - den * nearest num den) ≤ den := by exact_mod_cast hnear.1
  have habove : -(den : ℚ) ≤ 2 * (num - den * nearest num den) := by exact_mod_cast hnear.2
  rw [abs_le]
  constructor
  · rw [neg_le_sub_iff_le_add, div_le_iff₀ hpos]
    linarith
  · rw [sub_le_iff_le_add, ← sub_le_iff_le_add', le_div_iff₀ hpos]
    linarith

namespace Double

/-- **The exact value.** -/
def value (x : Double) : ℚ := x.digits * 2 ^ x.exponent

/-! ## At a fixed exponent -/

/-- The fraction that is divided is the ratio over the power of two. -/
theorem shifted_ratio (num exponent : Int) (hden : 0 < den) : 0 < (shifted num den exponent).2 ∧
    ((shifted num den exponent).1 : ℚ) / (shifted num den exponent).2 =
      num / den / 2 ^ exponent := by
  rcases le_or_gt 0 exponent with h | h
  · obtain ⟨k, rfl⟩ := Int.eq_ofNat_of_zero_le h
    rw [shifted, if_pos h, Int.toNat_natCast, Nat.shiftLeft_eq, zpow_natCast, div_div]
    exact ⟨Nat.mul_pos hden (Nat.two_pow_pos k), by push_cast; rfl⟩
  · obtain ⟨k, hk⟩ := Int.eq_ofNat_of_zero_le (Int.neg_nonneg_of_nonpos h.le)
    rw [shifted, if_neg (not_le.2 h), hk, Int.toNat_natCast, Nat.one_shiftLeft,
      ← neg_neg exponent, hk, zpow_neg, zpow_natCast, div_inv_eq_mul, div_mul_eq_mul_div]
    exact ⟨hden, by push_cast; rfl⟩

theorem value_ofRatioAt : (ofRatioAt exponent num den).value =
    nearest (shifted num den exponent).1 (shifted num den exponent).2 * 2 ^ exponent := rfl

/-- The error is at most half a unit. -/
theorem abs_value_ofRatioAt_sub_le (hden : 0 < den) :
    |(ofRatioAt exponent num den).value - num / den| ≤ 2 ^ exponent / 2 := by
  obtain ⟨hpos, hratio⟩ := shifted_ratio num exponent hden
  have hunit : (0 : ℚ) < 2 ^ exponent := by positivity
  have hnear := abs_nearest_sub_le (shifted num den exponent).1 hpos
  rw [hratio] at hnear
  calc |(ofRatioAt exponent num den).value - num / den|
      = |(nearest (shifted num den exponent).1 (shifted num den exponent).2 : ℚ) -
          num / den / 2 ^ exponent| * 2 ^ exponent := by
        rw [value_ofRatioAt, ← abs_of_pos hunit, ← abs_mul, abs_of_pos hunit, sub_mul,
          div_mul_cancel₀ _ hunit.ne']
    _ ≤ 1 / 2 * 2 ^ exponent := mul_le_mul_of_nonneg_right hnear hunit.le
    _ = 2 ^ exponent / 2 := by ring

/-- A multiple of the unit is its own rounding. -/
theorem value_ofRatioAt_of_eq {n : Int} (hden : 0 < den)
    (h : (num : ℚ) / den = n * 2 ^ exponent) : (ofRatioAt exponent num den).value = num / den := by
  obtain ⟨hpos, hratio⟩ := shifted_ratio num exponent hden
  have hunit : (2 : ℚ) ^ exponent ≠ 0 := zpow_ne_zero _ two_ne_zero
  rw [h, mul_div_cancel_right₀ _ hunit,
    div_eq_iff (Nat.cast_ne_zero.2 (Nat.pos_iff_ne_zero.1 hpos)), mul_comm] at hratio
  have hdivided : (shifted num den exponent).1 = (shifted num den exponent).2 * n := by
    exact_mod_cast hratio
  rw [value_ofRatioAt, hdivided, nearest_mul_left n hpos, h]

/-! ## At the exponent of the ratio -/

/-- The lengths of two numbers tell their quotient up to a factor of two. -/
theorem two_pow_log2_sub_lt {n : Nat} (hn : n ≠ 0) (hden : 0 < den) :
    (2 : ℚ) ^ ((n.log2 : Int) - den.log2 - 1) < n / den := by
  have hlow : (2 : ℚ) ^ (n.log2 : Int) ≤ n := by
    rw [zpow_natCast]
    exact_mod_cast Nat.log2_self_le hn
  have hhigh : (den : ℚ) < 2 ^ ((den.log2 : Int) + 1) := by
    exact_mod_cast Nat.lt_log2_self
  have hpos : (0 : ℚ) < den := Nat.cast_pos.2 hden
  rw [sub_sub, zpow_sub₀ two_ne_zero, div_lt_div_iff₀ (by positivity) hpos]
  exact mul_lt_mul' hlow hhigh hpos.le (Nat.cast_pos.2 (Nat.pos_iff_ne_zero.2 hn))

theorem exponentOf_eq (num : Int) (den : Nat) : ∃ guess : Int,
    guess = (num.natAbs.log2 : Int) - den.log2 - 52 ∧
    exponentOf num den =
      if 2 ^ 52 ≤ (shifted num den guess).1.natAbs / (shifted num den guess).2 then guess
      else guess - 1 := ⟨_, rfl, rfl⟩

/-- **A ratio is rounded at a unit that leaves it 53 digits.** -/
theorem two_pow_exponentOf_le (hnum : num ≠ 0) (hden : 0 < den) :
    (2 : ℚ) ^ 52 * 2 ^ exponentOf num den ≤ |(num : ℚ)| / den := by
  obtain ⟨guess, hguess, hexponent⟩ := exponentOf_eq num den
  obtain ⟨hpos, hratio⟩ := shifted_ratio num guess hden
  rw [hexponent]
  split
  · next hlong =>
    have hlong : (2 : ℚ) ^ 52 ≤ |((shifted num den guess).1 : ℚ)| / (shifted num den guess).2 := by
      rw [le_div_iff₀ (Nat.cast_pos.2 hpos), ← Int.cast_abs, Int.abs_eq_natAbs]
      exact_mod_cast (Nat.le_div_iff_mul_le hpos).1 hlong
    have hunit : (0 : ℚ) < 2 ^ guess := by positivity
    rw [← Nat.abs_cast (shifted num den guess).2, ← abs_div, hratio, abs_div, abs_of_pos hunit,
      le_div_iff₀ hunit, abs_div, Nat.abs_cast] at hlong
    exact hlong
  · -- the guess is one too great at most, whatever the digits are
    have hlow := two_pow_log2_sub_lt (Int.natAbs_ne_zero.2 hnum) hden
    have hsum : (52 : Int) + (guess - 1) = (num.natAbs.log2 : Int) - den.log2 - 1 := by omega
    rw [← zpow_natCast, ← zpow_add₀ two_ne_zero, Nat.cast_ofNat, hsum, ← Int.cast_abs,
      Int.abs_eq_natAbs, Int.cast_natCast]
    exact hlow.le

theorem value_ofRatio_zero (hden : 0 < den) : (ofRatio 0 den).value = 0 := by
  have hzero : ((0 : Int) : ℚ) / den = ((0 : Int) : ℚ) * 2 ^ exponentOf 0 den := by simp
  rw [ofRatio, value_ofRatioAt_of_eq hden hzero, Int.cast_zero, zero_div]

/-- **The error of rounding is at most one part in `2 ^ 53`.** -/
theorem abs_value_ofRatio_sub_le (num : Int) (hden : 0 < den) :
    |(ofRatio num den).value - num / den| ≤ |(num : ℚ)| / den / 2 ^ 53 := by
  rcases eq_or_ne num 0 with rfl | hnum
  · rw [value_ofRatio_zero hden]
    simp
  · have hdigits := two_pow_exponentOf_le hnum hden
    refine (abs_value_ofRatioAt_sub_le hden).trans ?_
    rw [le_div_iff₀ (by positivity)]
    linarith

/-- **A ratio that is written with 53 digits is not changed.** -/
theorem value_ofRatio_of_eq {n : Int} (hden : 0 < den) (hn : |n| ≤ 2 ^ 53)
    (h : (num : ℚ) / den = n * 2 ^ exponent) : (ofRatio num den).value = num / den := by
  rcases eq_or_ne num 0 with rfl | hnum
  · rw [value_ofRatio_zero hden, Int.cast_zero, zero_div]
  have hunit : (0 : ℚ) < 2 ^ exponent := by positivity
  have hdigits := two_pow_exponentOf_le hnum hden
  rw [← Nat.abs_cast den, ← abs_div, h, abs_mul, abs_of_pos hunit] at hdigits
  have hn' : |(n : ℚ)| ≤ 2 ^ 53 := by exact_mod_cast hn
  have hle : exponentOf num den ≤ exponent + 1 := by
    rw [← zpow_le_zpow_iff_right₀ (one_lt_two : (1 : ℚ) < 2), zpow_add_one₀ two_ne_zero]
    have := mul_le_mul_of_nonneg_right hn' hunit.le
    linarith
  rcases hle.lt_or_eq with hlt | heq
  · -- a finer unit divides the given one
    obtain ⟨k, hk⟩ := Int.eq_ofNat_of_zero_le (Int.sub_nonneg_of_le (Int.lt_add_one_iff.1 hlt))
    have hfine : (num : ℚ) / den = (n * 2 ^ k : Int) * 2 ^ exponentOf num den := by
      rw [h, ← sub_add_cancel exponent (exponentOf num den), hk, zpow_add₀ two_ne_zero,
        zpow_natCast]
      push_cast
      ring
    exact value_ofRatioAt_of_eq hden hfine
  · -- the unit is twice the given one, so the digits are a power of two
    rw [heq, zpow_add_one₀ two_ne_zero] at hdigits
    have hge : (2 : ℚ) ^ 53 ≤ |(n : ℚ)| := by
      refine le_of_mul_le_mul_right ?_ hunit
      linarith
    obtain ⟨half, rfl⟩ : ∃ half : Int, n = half * 2 := by
      have hge : 2 ^ 53 ≤ |n| := by exact_mod_cast hge
      rcases (abs_eq (by norm_num)).1 (le_antisymm hn hge) with rfl | rfl
      · exact ⟨2 ^ 52, by norm_num⟩
      · exact ⟨-2 ^ 52, by norm_num⟩
    have hcoarse : (num : ℚ) / den = half * 2 ^ exponentOf num den := by
      rw [h, heq, zpow_add_one₀ two_ne_zero]
      push_cast
      ring
    exact value_ofRatioAt_of_eq hden hcoarse

end Double

end ContractBridge
