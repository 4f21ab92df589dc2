/-
Reading deals.

A deal in one line names a seat, a colon and four hands, the first of which belongs to that seat
and the others to the seats behind it. A text of tag lines is read line by line: a board tag sets
the number of the next deal, a vulnerability tag its vulnerability, and each deal counts the
number on and forgets the vulnerability. All other lines are passed over.
-/
import ContractBridge.Deal.Text

set_option autoImplicit false

namespace ContractBridge.Deal

/-! ## One deal -/

/-- The seat that a text names by its initial alone. -/
def firstSeat? (text : List Char) : Option Seat :=
  match Text.capitals (Text.strip text) with
  | [c] => Seat.ofLetter? c
  | _ => none

/-- A text without its double quotes. -/
def unquoted (text : List Char) : List Char := text.filter (· ≠ '"')

/-- The first seat of a deal in one line and the words of its hands. -/
def partsOf? (text : List Char) : Option (Seat × List (List Char)) := do
  let (first, rest) ← Text.cut? ':' text
  return (← firstSeat? first, Text.words rest)

/-- Hands in the order of play from a seat on, put in their places. -/
def placed (first : Seat) (a b c d : Hand) : Hands :=
  Seats.ofFn fun seat =>
    if seat = first then a else if seat = first.turn 1 then b
    else if seat = first.turn 2 then c else d

/-- The four hands of a deal in one line. -/
def readHands (text : List Char) : Except Error Hands := do
  let text := Text.strip (unquoted text)
  match partsOf? text with
  | some (first, [a, b, c, d]) =>
    return placed first (← Hand.read (String.ofList a)) (← Hand.read (String.ofList b))
      (← Hand.read (String.ofList c)) (← Hand.read (String.ofList d))
  | _ => .error (.badDealText text)

/-- **A deal from one line.** Without a vulnerability the board decides. -/
def read (text : List Char) (number : Int) (vulnerability : Literal) : Except Error Deal := do
  let hands ← readHands text
  ofHandsLiteral hands (← Vulnerability.orOfBoard vulnerability number) number

/-! ## Tag lines -/

/-- What the tag lines so far come to: the deals, and what is set for the next one. -/
structure Reading where
  deals : List Deal
  number : Int
  vulnerability : Option Vulnerability
  deriving Repr

/-- The reading before any line. -/
def Reading.start : Reading := ⟨[], 1, none⟩

/-- What stands between the opening of a tag line and its last character. -/
def tagValue? (name : String) (line : List Char) : Option (List Char) :=
  let opening := '[' :: name.toList ++ [' ']
  if opening.isPrefixOf line then some (line.drop opening.length).dropLast else none

/-- A reading with one more line. -/
def Reading.readLine (limit : Text.DigitLimit) (s : Reading) (line : List Char) :
    Except Error Reading := do
  let line := Text.strip line
  match tagValue? "Board" line, tagValue? "Vulnerable" line, tagValue? "Deal" line with
  | some value, _, _ =>
    match Text.readIntegerWithin? limit (unquoted value) with
    | some number => return { s with number }
    | none => .error .unreadableNumber
  | none, some value, _ => return { s with vulnerability := some (← Vulnerability.ofText value) }
  | none, none, some value =>
    let asked := s.vulnerability.elim Literal.none fun v => .number v.index
    let deal ← read value s.number asked
    return ⟨s.deals ++ [deal], s.number + 1, none⟩
  | none, none, none => return s

/-- **The deals of a text of tag lines,** with a limit on the digits of a number. -/
def readAllWithin (limit : Text.DigitLimit) (text : List Char) : Except Error (List Deal) := do
  return (← (Text.lines text).foldlM (Reading.readLine limit) Reading.start).deals

/-- **The deals as tag lines,** with an empty line between two deals and a limit on the digits of a
number. -/
def writeAllWithin (limit : Text.DigitLimit) (deals : List Deal) : Except Error (List Char) := do
  return List.intercalate ['\n', '\n'] (← deals.mapM (tagsWithin limit)) ++ ['\n']

/-- The deals of a text of tag lines. -/
def readAll (text : List Char) : Except Error (List Deal) := readAllWithin Text.usualLimit text

/-- The deals as tag lines. -/
def writeAll (deals : List Deal) : Except Error (List Char) :=
  writeAllWithin Text.usualLimit deals

end ContractBridge.Deal
