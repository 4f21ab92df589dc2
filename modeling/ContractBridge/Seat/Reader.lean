/-
Reading a seat.

A seat is given by its number or by a text, of which only the first letter counts, in either
case: the capital form of the text without the blanks around it is cut to one character.
-/
import ContractBridge.Error
import ContractBridge.Text.LetterCase

set_option autoImplicit false

namespace ContractBridge.Seat

/-- The seat whose initial a text starts with. -/
def ofText (text : List Char) : Except Error Seat :=
  match Text.capitals (Text.strip text) with
  | [] => .error (.unknownSeat [])
  | c :: _ =>
    match ofLetter? c with
    | some seat => .ok seat
    | none => .error (.unknownSeat [c])

/-- The seats that the characters of a text name one by one. -/
def ofLetters (text : List Char) : Except Error (List Seat) := text.mapM fun c => ofText [c]

/-- **The seat that a value names:** a text by its initial, any other value by its number. -/
def ofLiteral : Literal → Except Error Seat
  | .text s => ofText s.toList
  | v =>
    match v.number?.bind ofIndex? with
    | some seat => .ok seat
    | none => .error (.notASeat v)

end ContractBridge.Seat
