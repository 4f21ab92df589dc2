/-
Reading and writing an integer.

An integer is read from the decimal digits of any script, mixed at will. Blanks around it, a sign
before it and single underscores between its digits are allowed. It is written in the ten common
digits. There may be a limit on the digits of a number, and a longer number is neither read nor
written then.
-/
import ContractBridge.Text.Layout

set_option autoImplicit false

namespace ContractBridge.Text

/-- The zeros of the scripts; the other digits follow each of them in order. -/
def zeros : List Nat :=
  [
    0x30, 0x660, 0x6F0, 0x7C0, 0x966, 0x9E6, 0xA66, 0xAE6, 0xB66, 0xBE6, 0xC66, 0xCE6, 0xD66,
    0xDE6, 0xE50, 0xED0, 0xF20, 0x1040, 0x1090, 0x17E0, 0x1810, 0x1946, 0x19D0, 0x1A80, 0x1A90,
    0x1B50, 0x1BB0, 0x1C40, 0x1C50, 0xA620, 0xA8D0, 0xA900, 0xA9D0, 0xA9F0, 0xAA50, 0xABF0,
    0xFF10, 0x104A0, 0x10D30, 0x11066, 0x110F0, 0x11136, 0x111D0, 0x112F0, 0x11450, 0x114D0,
    0x11650, 0x116C0, 0x11730, 0x118E0, 0x11950, 0x11C50, 0x11D50, 0x11DA0, 0x16A60, 0x16AC0,
    0x16B50, 0x1D7CE, 0x1D7D8, 0x1D7E2, 0x1D7EC, 0x1D7F6, 0x1E140, 0x1E2F0, 0x1E950, 0x1FBF0]

/-- The value of a decimal digit of any script. -/
def digitValue? (c : Char) : Option Nat :=
  (zeros.find? fun nought => nought ≤ c.toNat && c.toNat < nought + 10).map
    fun nought => c.toNat - nought

/-! ## The limit -/

/-- How many digits a number may have; there may be no limit. -/
abbrev DigitLimit := Option Nat

/-- The limit where no other one is set. -/
def usualLimit : DigitLimit := some 4300

/-- Whether a limit admits a number of digits. -/
def DigitLimit.admits (limit : DigitLimit) (digits : Nat) : Bool := limit.all (digits ≤ ·)

/-! ## Reading -/

/-- The digits behind `value` and `read` digits; a digit must stand at the front and behind
every underscore. -/
def readDigits? (limit : DigitLimit) : Nat → Nat → List Char → Option Nat
  | value, read, [] => if limit.admits read then some value else none
  | value, read, '_' :: c :: r =>
    match digitValue? c with
    | some d => readDigits? limit (10 * value + d) (read + 1) r
    | none => none
  | value, read, c :: r =>
    match digitValue? c with
    | some d => readDigits? limit (10 * value + d) (read + 1) r
    | none => none

/-- A number without a sign. -/
def readNatural? (limit : DigitLimit) : List Char → Option Nat
  | [] => none
  | '_' :: _ => none
  | s => readDigits? limit 0 0 s

/-- **The integer that a text writes.** -/
def readIntegerWithin? (limit : DigitLimit) (s : List Char) : Option Int :=
  match strip s with
  | '-' :: r => (readNatural? limit r).map fun n => -(n : Int)
  | '+' :: r => (readNatural? limit r).map Int.ofNat
  | r => (readNatural? limit r).map Int.ofNat

/-- The integer that a text writes, within the usual limit. -/
def readInteger? (s : List Char) : Option Int := readIntegerWithin? usualLimit s

/-! ## Writing -/

/-- The number of decimal digits of an integer, its sign not counted. -/
def digitCount (n : Int) : Nat := (Nat.toDigits 10 n.natAbs).length

/-- **The integer in decimal digits.** -/
def writeIntegerWithin? (limit : DigitLimit) (n : Int) : Option (List Char) :=
  if limit.admits (digitCount n) then some (decimal n) else none

end ContractBridge.Text
