/-
Texts in quotation marks.

A quoted text stands in single marks, or in double ones where it holds a single mark and no
double mark. Inside, the backslash and the mark in use are escaped, line feeds, carriage
returns and tabs have their letters, and any other character without a printed form is written
by its code in two, four or eight hexadecimal digits.
-/
import ContractBridge.Text.Printable

set_option autoImplicit false

namespace ContractBridge.Text

/-- The low `width` hexadecimal digits of a number, small letters. -/
def hexDigits : Nat → Nat → List Char
  | 0, _ => []
  | width + 1, n => hexDigits width (n / 16) ++ [Nat.digitChar (n % 16)]

/-- A character without a printed form, by its code. -/
def codeEscape (c : Char) : List Char :=
  let code := c.toNat
  if code < 0x100 then '\\' :: 'x' :: hexDigits 2 code
  else if code < 0x10000 then '\\' :: 'u' :: hexDigits 4 code
  else '\\' :: 'U' :: hexDigits 8 code

/-- One character between the marks. -/
def escape (mark c : Char) : List Char :=
  if c = mark || c = '\\' then ['\\', c]
  else if c = '\n' then ['\\', 'n']
  else if c = '\r' then ['\\', 'r']
  else if c = '\t' then ['\\', 't']
  else if isPrintable c then [c]
  else codeEscape c

/-- The mark around a text: single, unless only single marks occur inside. -/
def markFor (s : List Char) : Char := if s.contains '\'' && !s.contains '"' then '"' else '\''

/-- **The text in quotation marks.** -/
def quote (s : List Char) : List Char :=
  let mark := markFor s
  mark :: s.flatMap (escape mark) ++ [mark]

/-- The quoted form of a string. -/
def quoted (s : String) : String := String.ofList (quote s.toList)

end ContractBridge.Text
