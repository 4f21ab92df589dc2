/-
Cards as numbered places.

A card is its offset, `rank + 16 · suit`, with ranks 2 to 14 (14 is the ace) and suits in
their fixed order, so comparing offsets compares suits first and ranks second. An offset may
be any integer: one that stands for no card of the deck still has a rank (its remainder by
16) and possibly a suit (its quotient), and the ranks 0, 1 and 15 belong to no card. Ranks 0
and 1 print as a question mark; rank 15 has no printed form.
-/
import ContractBridge.Suit

set_option autoImplicit false

namespace ContractBridge

/-- How many offsets a suit takes up. -/
def laneWidth : Nat := 16

/-- The number of cards in a suit, and in a hand. -/
def handSize : Nat := 13

/-- A card, named by its offset. -/
structure Card where
  offset : Int
  deriving DecidableEq, Repr

namespace Card

/-- The card of a suit number and a rank. -/
def ofSuitRank (suit : Int) (rank : Int) : Card := ⟨rank + laneWidth * suit⟩

/-- The suit number: the offset divided by the lane width, rounded down. -/
def suitIndex (c : Card) : Int := c.offset >>> (4 : Nat)

/-- The suit, where the suit number is one of 0 to 3. -/
def suit? (c : Card) : Option Suit := Suit.ofIndex? c.suitIndex

/-- The rank, 0 to 15. -/
def rank (c : Card) : Nat := (c.offset % laneWidth).toNat

/-- The bit place of a card in a set. -/
def place (c : Card) : Nat := c.offset.toNat

/-! ## Printed ranks -/

/-- The marks of the ranks 0 to 14. -/
def rankMarks : List Char :=
  ['?', '?', '2', '3', '4', '5', '6', '7', '8', '9', 'T', 'J', 'Q', 'K', 'A']

/-- The mark of a rank; rank 15 has none. -/
def rankMark? (rank : Nat) : Option Char := rankMarks[rank]?

/-- The name of a rank: its mark, but ten in digits. -/
def rankName? (rank : Nat) : Option String :=
  (rankMark? rank).map fun mark => if mark = 'T' then "10" else mark.toString

/-- The rank that a character names, letters in either case. No other letter has one of the
five rank letters as its capital. -/
def rankOfMark? : Char → Option Nat
  | '2' => some 2
  | '3' => some 3
  | '4' => some 4
  | '5' => some 5
  | '6' => some 6
  | '7' => some 7
  | '8' => some 8
  | '9' => some 9
  | 'T' | 't' => some 10
  | 'J' | 'j' => some 11
  | 'Q' | 'q' => some 12
  | 'K' | 'k' => some 13
  | 'A' | 'a' => some 14
  | _ => none

/-- A rank that a character names is a rank of the deck. -/
theorem rankOfMark?_bounds {mark : Char} {rank : Nat} (h : rankOfMark? mark = some rank) :
    2 ≤ rank ∧ rank ≤ 14 := by
  unfold rankOfMark? at h
  split at h <;> first | (injection h with h; subst h; decide) | cases h

end Card

end ContractBridge
