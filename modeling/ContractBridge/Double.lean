/-
Numbers with 53 binary digits.

Averages, shares and quarters of board numbers are not exact: they are rounded to the nearest
number of the form `digits · 2 ^ exponent` whose digits take 53 binary places, and a tie goes to
the even digits. Everything here is done on integers: a rational is rounded once, by `nearest`,
and sums and products are rounded from their exact values. Numbers of magnitude `2 ^ 1024` and
more are too large to be kept; how small the result of a computation may be is not limited.
-/
import ContractBridge.Text.Layout

set_option autoImplicit false

namespace ContractBridge

/-! ## The nearest integer -/

/-- **The integer nearest to `num / den`,** of two equally near ones the even one. -/
def nearest (num : Int) (den : Nat) : Int :=
  let below := num / den
  let rest := num % den
  if 2 * rest < den ∨ (2 * rest = den ∧ below % 2 = 0) then below else below + 1

/-- The nearest integer is at most half a unit away. -/
theorem two_mul_sub_nearest_le {num : Int} {den : Nat} (h : 0 < den) :
    2 * (num - den * nearest num den) ≤ den ∧ -(den : Int) ≤ 2 * (num - den * nearest num den) := by
  have hd : (0 : Int) < den := by exact_mod_cast h
  have hsplit := Int.mul_ediv_add_emod num den
  have hlow := Int.emod_nonneg num (Int.ne_of_gt hd)
  have hhigh := Int.emod_lt_of_pos num hd
  unfold nearest
  simp only
  split
  · next hc =>
    constructor <;> rcases hc with hc | hc <;> omega
  · next hc =>
    rw [Int.mul_add]
    constructor
    · omega
    · have : ¬ 2 * (num % den) < den := fun hlt => hc (Or.inl hlt)
      omega

/-- An integer is its own nearest. -/
@[simp] theorem nearest_mul_left (n : Int) {den : Nat} (h : 0 < den) :
    nearest (den * n) den = n := by
  have hd : (den : Int) ≠ 0 := by exact_mod_cast Nat.pos_iff_ne_zero.1 h
  simp [nearest, Int.mul_ediv_cancel_left n hd, h]

/-! ## The numbers -/

/-- **The number `digits · 2 ^ exponent`.** -/
structure Double where
  digits : Int
  exponent : Int
  deriving DecidableEq, Repr

namespace Double

/-- How many binary digits are kept. -/
def precision : Nat := 53

/-- The fraction `num / (den · 2 ^ exponent)`, as a numerator and a denominator. -/
def shifted (num : Int) (den : Nat) (exponent : Int) : Int × Nat :=
  if 0 ≤ exponent then (num, den <<< exponent.toNat)
  else (num * (1 <<< (-exponent).toNat : Nat), den)

/-- The exponent at which `num / den` has 53 digits before the point. The lengths of the two
numbers tell it up to one. -/
def exponentOf (num : Int) (den : Nat) : Int :=
  let guess : Int := (num.natAbs.log2 : Int) - den.log2 - (precision - 1 : Nat)
  let (n, d) := shifted num den guess
  if 1 <<< (precision - 1) ≤ n.natAbs / d then guess else guess - 1

/-- The rational `num / den`, rounded to a multiple of `2 ^ exponent`. -/
def ofRatioAt (exponent : Int) (num : Int) (den : Nat) : Double :=
  let (n, d) := shifted num den exponent
  ⟨nearest n d, exponent⟩

/-- **The rational `num / den`, rounded.** -/
def ofRatio (num : Int) (den : Nat) : Double := ofRatioAt (exponentOf num den) num den

/-- An integer, rounded. -/
def ofInt (n : Int) : Double := ofRatio n 1

/-- The exact value, as a numerator and a denominator. -/
def toRatio (x : Double) : Int × Nat :=
  if 0 ≤ x.exponent then (x.digits * (1 <<< x.exponent.toNat : Nat), 1)
  else (x.digits, 1 <<< (-x.exponent).toNat)

/-- Whether the number is small enough to be kept. -/
def isFinite (x : Double) : Bool :=
  let (n, d) := x.toRatio
  n.natAbs < d <<< 1024

/-- The sum, rounded. -/
def add (x y : Double) : Double :=
  let (n, d) := x.toRatio
  let (m, e) := y.toRatio
  ofRatio (n * e + m * d) (d * e)

/-- The product, rounded. -/
def mul (x y : Double) : Double :=
  let (n, d) := x.toRatio
  let (m, e) := y.toRatio
  ofRatio (n * m) (d * e)

/-- The greatest integer that is not greater. -/
def floor (x : Double) : Int :=
  let (n, d) := x.toRatio
  n / d

/-- The nearest integer, of two equally near ones the even one. -/
def round (x : Double) : Int :=
  let (n, d) := x.toRatio
  nearest n d

/-- The number with a fixed count of decimal places, rounded from its exact value. -/
def fixed (places : Nat) (x : Double) : List Char :=
  let (n, d) := x.toRatio
  let scale := Nat.pow 10 places
  let units := (nearest (n * scale) d).natAbs
  let part := Nat.toDigits 10 (units % scale)
  (if n < 0 then ['-'] else []) ++ Nat.toDigits 10 (units / scale) ++
    '.' :: List.replicate (places - part.length) '0' ++ part

end Double

end ContractBridge
