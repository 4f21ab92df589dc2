/-
The fewest decimal digits that tell a number.

A number stands for every rational that rounds to it: those between the points half way to its
two neighbours, and these points themselves where its digits are even. Of the decimals in that
range the shortest is wanted, so the grids of the powers of ten are tried from the coarsest on,
each at the points next to the number; the first grid with such a point inside the range gives
the decimal, and of two such points the nearer one, of two equally near ones the even one.
-/
import ContractBridge.Double

set_option autoImplicit false

namespace ContractBridge

/-- **The decimal `digits · 10 ^ power`.** -/
structure Decimal where
  digits : Nat
  power : Int
  deriving DecidableEq, Repr

/-- The exact value, as a numerator and a denominator. -/
def Decimal.toRatio (d : Decimal) : Int × Nat :=
  ((d.digits * Nat.pow 10 d.power.toNat : Nat), Nat.pow 10 (-d.power).toNat)

namespace Double

/-! ## The range of a number -/

/-- The least exponent of a number that is written down. -/
def leastExponent : Int := -1074

/-- Whether the neighbour below is half as far away as the one above, as it is below a power of
two. -/
def isNarrowBelow (x : Double) : Bool :=
  x.digits = (1 <<< (precision - 1) : Nat) && leastExponent < x.exponent

/-- The points half way to the two neighbours. -/
def halfways (x : Double) : Double × Double :=
  (⟨4 * x.digits - (if x.isNarrowBelow then 1 else 2), x.exponent - 2⟩,
    ⟨4 * x.digits + 2, x.exponent - 2⟩)

/-- Whether one rational is below another, or at most as great where `closed` holds. -/
def isBelow (closed : Bool) (p q : Int × Nat) : Bool :=
  p.1 * q.2 < q.1 * p.2 || (closed && p.1 * q.2 == q.1 * p.2)

/-- **Whether a decimal rounds to the number.** -/
def readsBack (x : Double) (d : Decimal) : Bool :=
  let (low, high) := x.halfways
  let closed := x.digits % 2 = 0
  isBelow closed low.toRatio d.toRatio && isBelow closed d.toRatio high.toRatio

/-! ## The choice -/

/-- The points next to a number on the grid of a power of ten, the nearest one first. -/
def neighbours (x : Double) (power : Int) : List Decimal :=
  let (n, d) := x.toRatio
  let n := n * (Nat.pow 10 (-power).toNat : Nat)
  let d := d * Nat.pow 10 power.toNat
  [⟨(nearest n d).toNat, power⟩, ⟨(n / d + 1).toNat, power⟩]

/-- The powers of ten tried, from above the largest number to below the smallest. -/
def grids : List Int := (List.range 640).map fun (k : Nat) => 310 - (k : Int)

/-- The number with all its decimal digits. -/
def inFull (x : Double) : Decimal :=
  ⟨x.digits.toNat * (1 <<< x.exponent.toNat) * Nat.pow 5 (-x.exponent).toNat, min x.exponent 0⟩

/-- **The decimal with the fewest digits that rounds to the number.** -/
def shortest (x : Double) : Decimal :=
  if x.digits = 0 then ⟨0, 0⟩
  else (grids.findSome? fun power => (x.neighbours power).find? x.readsBack).getD x.inFull

end Double

end ContractBridge
