/-
Point counts.

A point count gives every rank a weight, from the ace down, and a set of cards the sum of the
weights of its cards. The weights and the sum are 64-bit integers. A set is counted on its grid,
column by column, so two cards on one square count once.
-/
import ContractBridge.CardSet.Grid
import ContractBridge.Block
import ContractBridge.Total

set_option autoImplicit false

namespace ContractBridge

/-- **A weight for each of the thirteen ranks,** the ace first. -/
structure PointCount where
  weights : List Int
  deriving DecidableEq, Repr

namespace PointCount

/-- The count with some weights; the ranks behind them count nothing. -/
def ofWeights (values : List Int) : PointCount :=
  ⟨values ++ List.replicate (handSize - values.length) 0⟩

/-- The count with weights given as a plain value. -/
def ofLiteral (v : Literal) : Except Error PointCount := do
  let b ← Block.wholeWords v
  if b.sizes.length = 1 ∧ b.entries.length ≤ handSize then return ofWeights b.entries
  else .error .pointValues

/-- How many squares of each column of a grid are taken. -/
def columnSizes (g : Grid) : List Nat :=
  (List.range handSize).map fun column => g.countP fun row => row.getD column false

/-- The weighted sum of the column sizes. -/
def onGrid (p : PointCount) (g : Grid) : Int :=
  wrap (total (List.zipWith (fun (n : Nat) (weight : Int) => n * weight) (columnSizes g) p.weights))

/-- **The points of a set of cards.** -/
def evaluate (p : PointCount) (s : CardSet) : Except Error Int := do
  return p.onGrid (← s.toGrid)

/-- The printed count: the weights up to the last one that counts. -/
def shown (p : PointCount) : List Char :=
  let values := (p.weights.reverse.dropWhile (· == 0)).reverse
  "Evaluator([".toList ++ List.intercalate ", ".toList (values.map Text.decimal) ++ [']', ')']

/-! ## Named counts -/

/-- The Milton count: four for an ace down to one for a jack. -/
def milton : PointCount := ofWeights [4, 3, 2, 1]

/-- Controls: two for an ace and one for a king. -/
def controls : PointCount := ofWeights [2, 1]

/-- The honours of the Zar count. -/
def zarHonours : PointCount := ofWeights [6, 4, 2, 1]

/-- The quality of a suit: two for ace and king, one each for queen, jack and ten. -/
def suitQuality : PointCount := ofWeights [2, 2, 1, 1, 1]

end PointCount

end ContractBridge
