/-
Card sets as grids.

The grid of a set has four rows of thirteen squares, a row for each suit, from the ace down to
the two. A card of rank 15 has its square at the end of the row, where counting down from the
ace and counting on from before it meet; ranks 0 and 1 and cards past the fourth suit have no
square.
-/
import ContractBridge.Card.Token

set_option autoImplicit false

namespace ContractBridge

/-- Four rows of thirteen squares. -/
abbrev Grid := List (List Bool)

namespace CardSet

/-- The column of a rank. -/
def column? (rank : Nat) : Option Nat :=
  if rank = 15 then some 12
  else if 2 ≤ rank ∧ rank ≤ 14 then some (14 - rank)
  else none

/-- The row and the column of a card. -/
def square (c : Card) : Except Error (Suit × Nat) := do
  let suit ← c.suit
  match column? c.rank with
  | some column => return (suit, column)
  | none => .error .outOfTable

/-- The cards that get a square, lowest first. A complement has no last card, but among the cards
that begin past its magnitude one without a square is met within a lane. -/
def gridCards (s : CardSet) : List Card :=
  if 0 ≤ s.bits then s.toList else climb (Bits.width s.bits + laneWidth + 1) s.bits

/-- **The grid of a set.** -/
def toGrid (s : CardSet) : Except Error Grid := do
  let squares ← s.gridCards.mapM square
  return Suit.all.map fun suit =>
    (List.range handSize).map fun column => squares.contains (suit, column)

/-- The cards of one row, from column `column` on. -/
def ofRow (suit : Suit) : Nat → List Bool → CardSet
  | _, [] => ∅
  | column, b :: r =>
    let rest := ofRow suit (column + 1) r
    if b then rest ∪ single (14 - column + laneWidth * suit.index) else rest

/-- **The set of a grid.** Rows of different lengths form no block, and a block must be four by
thirteen. -/
def ofGrid (rows : Grid) : Except Error CardSet :=
  if rows.any fun row => row.length != (rows.headD []).length then .error .ragged
  else if rows.length = 4 ∧ (rows.headD []).length = handSize then
    .ok ((List.zipWith (fun suit row => ofRow suit 0 row) Suit.all rows).foldl (· ∪ ·) ∅)
  else .error .gridShape

end CardSet

end ContractBridge
