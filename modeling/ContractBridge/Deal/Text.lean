/-
Printed deals.

A deal prints in one line of dotted hands, as tag lines, as one line of a hand record, and as a
diagram with north above, south below and east and west between them, in a short form of three
lines and a long form with a line for each suit. A board number of too many digits is not printed.
-/
import ContractBridge.Deal
import ContractBridge.Text.Digits

set_option autoImplicit false

namespace ContractBridge.Deal

/-- The hands in dotted form, from north on. -/
def dotted (d : Deal) : Except Error (List Char) := do
  let hands ← d.hands.toList.mapM Hand.dotted
  return "N:".toList ++ List.intercalate [' '] hands

/-- The board number in decimal digits. -/
def numberWithin (limit : Text.DigitLimit) (d : Deal) : Except Error (List Char) :=
  match Text.writeIntegerWithin? limit d.number with
  | some digits => .ok digits
  | none => .error .tooManyDigits

/-- A tag line: a name and a quoted value. -/
def tagLine (name : String) (value : List Char) : List Char :=
  '[' :: name.toList ++ ' ' :: '"' :: value ++ ['"', ']']

/-- The tag lines of a deal. -/
def tagLines (limit : Text.DigitLimit) (d : Deal) : Except Error (List (List Char)) := do
  let number ← d.numberWithin limit
  let dotted ← d.dotted
  return [tagLine "Board" number, tagLine "Dealer" [d.dealer.letter],
    tagLine "Vulnerable" d.vulnerability.tag.toList, tagLine "Deal" dotted]

/-- The deal as tag lines, with a limit on the digits of its number. -/
def tagsWithin (limit : Text.DigitLimit) (d : Deal) : Except Error (List Char) := do
  return Text.joinLines (← d.tagLines limit)

/-- The deal as tag lines. -/
def tags (d : Deal) : Except Error (List Char) := d.tagsWithin Text.usualLimit

/-! ## The hand record -/

/-- The seats in the order of a hand record. -/
def recordOrder : List Seat := [.south, .west, .north, .east]

/-- A hand with a letter before each suit. -/
def lettered (h : Hand) : Except Error (List Char) := do
  let suits ← Suit.all.mapM fun suit => do return suit.letter :: (← h.holding suit)
  return suits.flatten

/-- The deal in one line, the hands from south on and the dealer by his place in that order, with a
limit on the digits of its number. -/
def recordWithin (limit : Text.DigitLimit) (d : Deal) : Except Error (List Char) := do
  let hands ← recordOrder.mapM fun seat => lettered (d.hands.get seat)
  let dealer : Nat := recordOrder.idxOf d.dealer + 1
  let number ← d.numberWithin limit
  return "st||md|".toList ++ Text.decimal dealer ++ List.intercalate [','] hands ++
    "|sv|".toList ++ d.vulnerability.letter :: "|rh||ah|Board ".toList ++ number ++ ['|']

/-- The deal in one line. -/
def record (d : Deal) : Except Error (List Char) := d.recordWithin Text.usualLimit

/-! ## Diagrams -/

/-- The narrowest short diagram. -/
def minShortWidth : Nat := 40

/-- What stands between the two sides of a diagram at least. -/
def gap : Nat := 4

/-- The diagram with one line per hand. -/
def short (d : Deal) : Except Error (List Char) := do
  let north ← d.hands.north.cards.text
  let east ← d.hands.east.cards.text
  let south ← d.hands.south.cards.text
  let west ← d.hands.west.cards.text
  let width := max (max (max (west.length + east.length + gap) north.length) south.length)
    minShortWidth
  return Text.joinLines [Text.centre width north,
    west ++ Text.padFront (width - west.length) east, Text.centre width south]

/-- The width of the widest line. -/
def widest (lines : List (List Char)) : Nat := (lines.map List.length).foldl max 0

/-- The diagram with one line per suit. -/
def long (d : Deal) : Except Error (List Char) := do
  let north ← d.hands.north.lines
  let east ← d.hands.east.lines
  let south ← d.hands.south.lines
  let west ← d.hands.west.lines
  let side := widest west + gap
  let middle := widest (north ++ south) + gap
  let shift (line : List Char) : List Char := Text.spaces side ++ line
  return Text.joinLines (north.map shift ++
    List.zipWith (fun w e => Text.padBack (side + middle) w ++ e) west east ++ south.map shift)

/-! ## Choosing a form -/

/-- The deal as it is made. -/
def form (d : Deal) : Except Error (List Char) := do
  return "Deal(".toList ++ Text.quote (← d.dotted) ++ ", ".toList ++ d.vulnerability.name.toList ++
    ", ".toList ++ (← d.numberWithin Text.usualLimit) ++ [')']

/-- **The deal in the form that a word asks for.** -/
def format (d : Deal) (word : String) : Except Error (List Char) :=
  match word with
  | "" | "short" => d.short
  | "long" => d.long
  | "pbn" => d.tags
  | "lin" => d.record
  | _ => .error (.unknownFormat word)

end ContractBridge.Deal
