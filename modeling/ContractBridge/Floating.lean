/-
Numbers with a point.

A number written with a point or a power of ten is kept with 53 binary digits and an exponent
of at least -1074. Zero keeps its sign, a number too large to be kept is infinite, and there is
a value that is no number. Such a value is written back with the fewest digits that round to
it: in plain positions where its leading digit stands at one of the places -4 to 15, with a
signed power of ten of two digits or more elsewhere.
-/
import ContractBridge.Double.Shortest

set_option autoImplicit false

namespace ContractBridge

/-- **A number with a point.** -/
inductive Floating where
  | finite (negative : Bool) (magnitude : Double)
  | infinite (negative : Bool)
  | undefined
  deriving DecidableEq, Repr

/-! ## Layout -/

namespace Decimal

/-- The power of ten behind a mantissa. -/
def powerMark (power : Int) : List Char :=
  let ds := Nat.toDigits 10 power.natAbs
  'e' :: (if power < 0 then '-' else '+') :: List.replicate (2 - ds.length) '0' ++ ds

/-- **The written decimal.** -/
def shown (d : Decimal) : List Char :=
  let ds := Nat.toDigits 10 d.digits
  let point := ds.length + d.power
  if 0 < point ∧ point ≤ 16 then
    let part := ds.drop point.toNat
    ds.take point.toNat ++ List.replicate d.power.toNat '0' ++
      '.' :: (if part.isEmpty then ['0'] else part)
  else if -4 < point ∧ point ≤ 0 then
    '0' :: '.' :: List.replicate (-point).toNat '0' ++ ds
  else
    ds.take 1 ++ (if ds.length = 1 then [] else '.' :: ds.drop 1) ++ powerMark (point - 1)

end Decimal

namespace Floating

/-- The sign in front of a value. -/
def signMark (negative : Bool) : List Char := if negative then ['-'] else []

/-- **The written value.** -/
def shown : Floating → List Char
  | finite negative x => signMark negative ++ x.shortest.shown
  | infinite negative => signMark negative ++ ['i', 'n', 'f']
  | undefined => ['n', 'a', 'n']

/-! ## Rounding -/

/-- The same number with digits below `2 ^ 53`, if they were rounded up to it. -/
def carry (x : Double) : Double :=
  if x.digits = (1 <<< Double.precision : Nat) then
    ⟨(1 <<< (Double.precision - 1) : Nat), x.exponent + 1⟩
  else x

/-- **The rational `num / den`, rounded.** -/
def ofRatio (negative : Bool) (num den : Nat) : Floating :=
  let exponent := max Double.leastExponent (Double.exponentOf num den)
  let x := carry (Double.ofRatioAt exponent num den)
  if x.isFinite then finite negative x else infinite negative

/-- Zero. -/
def zero (negative : Bool) : Floating := finite negative ⟨0, Double.leastExponent⟩

/-- **A decimal, rounded.** One of more than 310 places before the point is infinite, and one
with its first digit behind 330 zeros is zero, however many places they have. -/
def ofDecimal (negative : Bool) (d : Decimal) : Floating :=
  let point := (Nat.toDigits 10 d.digits).length + d.power
  if d.digits = 0 ∨ point < -330 then zero negative
  else if 310 < point then infinite negative
  else
    let (n, m) := d.toRatio
    ofRatio negative n.toNat m

/-! ## Values -/

/-- A finite number with its sign in its digits. -/
def double? : Floating → Option Double
  | finite negative x => some (if negative then ⟨-x.digits, x.exponent⟩ else x)
  | _ => none

/-- The exact value of a finite number, as a numerator and a denominator. -/
def toRatio? (x : Floating) : Option (Int × Nat) := x.double?.map Double.toRatio

/-- The whole part of a finite number. -/
def whole? (x : Floating) : Option Int := x.toRatio?.map fun (n, d) => n.tdiv d

/-- The integer that a number equals, if it is one. -/
def integer? (x : Floating) : Option Int :=
  x.toRatio?.bind fun (n, d) => if n % d = 0 then some (n / d) else none

/-- Whether two values are the same number: the two zeros are, and what is no number is not even
the same as itself. -/
def isSame : Floating → Floating → Bool
  | infinite b, infinite c => b == c
  | x, y =>
    match x.toRatio?, y.toRatio? with
    | some (n, d), some (m, e) => n * e == m * d
    | _, _ => false

end Floating

end ContractBridge
