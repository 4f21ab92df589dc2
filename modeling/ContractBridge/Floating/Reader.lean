/-
Reading a number with a point.

A numeral has a sign or none, digits, and then a point with digits behind it, a power of ten, or
both. The words `Infinity`, with or without a sign, and `NaN` are read as well.
-/
import ContractBridge.Floating
import ContractBridge.Text.Digits

set_option autoImplicit false

namespace ContractBridge.Floating

/-- The number that decimal digits write. -/
def digitsValue (ds : List Char) : Nat := ds.foldl (fun n c => 10 * n + (c.toNat - '0'.toNat)) 0

/-- The power of ten behind the digits of a numeral; without a mark it is 0. -/
def readPower? : List Char → Option Int
  | [] => some 0
  | 'e' :: r => Text.readInteger? r
  | 'E' :: r => Text.readInteger? r
  | _ => none

/-- The digits behind a point, and what follows them. -/
def readPart : List Char → List Char × List Char
  | '.' :: r => r.span Char.isDigit
  | r => ([], r)

/-- The decimal that a numeral without a sign writes. -/
def readDecimal? (s : List Char) : Option Decimal := do
  let (whole, r) := s.span Char.isDigit
  let (part, r) := readPart r
  if whole.isEmpty then none
  let power ← readPower? r
  return ⟨digitsValue (whole ++ part), power - part.length⟩

/-- A value without a sign. -/
def readMagnitude? (negative : Bool) (s : List Char) : Option Floating :=
  if s = "Infinity".toList then some (infinite negative)
  else (readDecimal? s).map (ofDecimal negative)

/-- **The value that a numeral writes.** -/
def read? : List Char → Option Floating
  | '-' :: r => readMagnitude? true r
  | r => if r = "NaN".toList then some undefined else readMagnitude? false r

end ContractBridge.Floating
