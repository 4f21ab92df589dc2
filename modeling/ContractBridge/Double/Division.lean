/-
Whole quotients and remainders of doubles.

What a division toward zero leaves is exact. The quotient is not: the number without that rest is
rounded, divided and rounded again, and the result is taken to the nearest integer. Both are then
moved to the floor, so a remainder is never negative.
-/
import ContractBridge.Double

set_option autoImplicit false

namespace ContractBridge.Double

/-- A double with the other sign. -/
def neg (x : Double) : Double := ⟨-x.digits, x.exponent⟩

/-- What a division toward zero leaves of a number. -/
def rest (x : Double) (b : Nat) : Double :=
  let (n, d) := x.toRatio
  ofRatio (n.tmod (b * d)) d

/-- **The remainder of a floor division.** -/
def remainder (x : Double) (b : Nat) : Double :=
  let r := x.rest b
  if r.digits < 0 then r.add (ofInt b) else r

/-- The nearest integer, of two equally near ones the lower one. -/
def snapped (x : Double) : Double :=
  let (n, d) := x.toRatio
  let below := n / d
  ofInt (if d < 2 * (n - d * below) then below + 1 else below)

/-- **The quotient of a floor division.** -/
def quotient (x : Double) (b : Nat) : Double :=
  let r := x.rest b
  let (n, d) := (x.add r.neg).toRatio
  let q := ofRatio n (d * b)
  snapped (if r.digits < 0 then q.add (ofInt (-1)) else q)

end ContractBridge.Double
