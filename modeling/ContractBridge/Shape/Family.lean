/-
The shapes that are asked for by name.

All distributions, none, the balanced ones, those that match a pattern or all others, those
within given ranges, those with a given longest suit, and those given one by one.
-/
import ContractBridge.Shape
import ContractBridge.Shape.Place
import ContractBridge.Pattern.Expansion
import ContractBridge.Total

set_option autoImplicit false

namespace ContractBridge.Shape

/-- The shape with some distributions, all of them in the table. -/
def ofDistributions (ls : List SuitLengths) : Shape :=
  ofTable (tableOf (ls.map fun l => l.index.toNat))

/-- No distribution. -/
def empty : Shape := ofDistributions []

/-- All distributions of thirteen cards. -/
def all : Shape := ofDistributions SuitLengths.ofHands

instance : EmptyCollection Shape := ⟨empty⟩

/-! ## Patterns -/

/-- The distributions that match some patterns. -/
def matching (ps : List Pattern) : Shape := ofDistributions (Pattern.distributions ps)

/-- **The distributions that match a written pattern.** -/
def ofPattern (s : String) : Except Error Shape := do return matching (← Pattern.parse s)

/-- The distributions that match any of some written patterns. -/
def ofPatterns (texts : List String) : Except Error Shape := do
  return (← texts.mapM ofPattern).foldl (· ∪ ·) ∅

/-- The distributions that a written pattern does not match. -/
def but (s : String) : Except Error Shape := do return all \ (← ofPattern s)

/-- The distributions with four lengths, in any order. -/
def anyOrder (lengths : List Int) : Shape := matching [.group (lengths.map .exactly)]

/-- The balanced patterns. -/
def balancedPatterns : List String := ["(4333)", "(4432)", "(5332)"]

/-- The balanced distributions: no void, no singleton, and no second suit of two or five. -/
def balanced : Shape := anyOrder [4, 3, 3, 3] ∪ anyOrder [4, 4, 3, 2] ∪ anyOrder [5, 3, 3, 2]

/-! ## Lengths -/

/-- The distributions within four ranges, one per suit. -/
def ofRanges (ranges : List LengthRange) : Except Error Shape :=
  if ranges.length = 4 then
    .ok (ofDistributions (SuitLengths.ofHands.filter fun l =>
      (List.zipWith LengthRange.contains ranges l.toList).all id))
  else .error .fourRanges

/-- The distributions with five cards or more in a suit and no longer suit. -/
def withLongest (suit : Suit) : Shape :=
  ofDistributions (SuitLengths.ofHands.filter fun l =>
    5 ≤ l.get suit && l.toList.all (· ≤ l.get suit))

/-- The same for a suit number, which counts from the end if it is negative. -/
def withLongestNumber (suit : Int) : Except Error Shape := do
  return withLongest (← entry Suit.all suit)

/-! ## Distributions one by one -/

/-- Whether four numbers are a distribution of thirteen cards. -/
def isDistribution (row : List Int) : Bool :=
  row.all (fun n => 0 ≤ n && n ≤ handSize) && total row == handSize

/-- **The distributions of a block of numbers,** read in fours. -/
def ofRows (v : Literal) : Except Error Shape :=
  match v.items? with
  | some items => do
    let numbers := (← Block.wholeWords (.list items)).entries
    if numbers.length % 4 ≠ 0 then .error .ragged
    else
      let rows := Block.pieces 4 (numbers.length / 4) numbers
      if rows.all isDistribution then return ofDistributions (rows.filterMap SuitLengths.ofList?)
      else .error .badDistribution
  | none => .error .wrongKind

/-- The shape with some places of a table of a given size, and bounds of its own if both are
given. A place that is negative counts from the end. -/
def ofPlaces (size : Nat) (places : List Int) (minLengths maxLengths : Option (List Int)) :
    Except Error Shape := do
  let places ← places.mapM (placeOf size)
  if size ≠ tableSize then .error .tableSize
  else
    let s := ofTable (tableOf places)
    match minLengths, maxLengths with
    | some lo, some hi => return { s with minLengths := lo, maxLengths := hi }
    | _, _ => return s

end ContractBridge.Shape
