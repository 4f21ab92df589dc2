/-
Distributions: one length for each suit.

The lengths of a hand add up to thirteen, but the type asks for nothing, so that any four
integers can be asked about. Distributions are ordered as their lists of lengths are, spades
first.
-/
import ContractBridge.CardSet
import ContractBridge.Text.Layout

set_option autoImplicit false

namespace ContractBridge

/-- **One length per suit,** in suit order. -/
structure SuitLengths where
  spades : Int
  hearts : Int
  diamonds : Int
  clubs : Int
  deriving DecidableEq, Repr

namespace SuitLengths

/-- The lengths in suit order. -/
def toList (l : SuitLengths) : List Int := [l.spades, l.hearts, l.diamonds, l.clubs]

/-- Four lengths in suit order. -/
def ofList? : List Int → Option SuitLengths
  | [s, h, d, c] => some ⟨s, h, d, c⟩
  | _ => none

/-- The length of a suit. -/
def get (l : SuitLengths) : Suit → Int
  | .spades => l.spades
  | .hearts => l.hearts
  | .diamonds => l.diamonds
  | .clubs => l.clubs

/-- The number of cards in the four suits. -/
def total (l : SuitLengths) : Int := l.spades + l.hearts + l.diamonds + l.clubs

@[simp] theorem ofList?_toList (l : SuitLengths) : ofList? l.toList = some l := rfl

end SuitLengths

namespace SuitLengths

/-! ## The order -/

/-- Whether `l` comes no later than `m`: at the first suit where they differ `l` is shorter. -/
def notAfter (l m : SuitLengths) : Bool :=
  if l.spades ≠ m.spades then l.spades < m.spades
  else if l.hearts ≠ m.hearts then l.hearts < m.hearts
  else if l.diamonds ≠ m.diamonds then l.diamonds < m.diamonds
  else l.clubs ≤ m.clubs

/-- A list without the entries that equal the one before them. -/
def dropRepeats : List SuitLengths → List SuitLengths
  | l :: m :: r => if l = m then dropRepeats (m :: r) else l :: dropRepeats (m :: r)
  | r => r

/-- The distinct entries of a list, in order. -/
def sortDistinct (l : List SuitLengths) : List SuitLengths := dropRepeats (l.mergeSort notAfter)

/-- The distributions of thirteen cards, in order. -/
def ofHands : List SuitLengths :=
  (List.range (handSize + 1)).flatMap fun s =>
    (List.range (handSize + 1 - s)).flatMap fun h =>
      (List.range (handSize + 1 - s - h)).map fun (d : Nat) =>
        ⟨s, h, d, (handSize - s - h - d : Nat)⟩

/-! ## Text -/

/-- The lengths in hexadecimal digits. -/
def shown (l : SuitLengths) : List Char := l.toList.flatMap Text.hexadecimal

end SuitLengths

/-- The suit lengths of a set of cards. -/
def CardSet.suitLengths (s : CardSet) : SuitLengths :=
  ⟨s.laneSize 0, s.laneSize 1, s.laneSize 2, s.laneSize 3⟩

end ContractBridge
