/-
Ranges of suit lengths.

A range keeps its ends between 0 and 13 and in order: an end outside is moved to the nearest
length that is allowed.
-/
import ContractBridge.Card
import ContractBridge.Text.Layout

set_option autoImplicit false

namespace ContractBridge

/-- **A range of suit lengths,** both ends included. -/
structure LengthRange where
  lo : Int
  hi : Int
  deriving DecidableEq, Repr

namespace LengthRange

/-- A number moved into a range. -/
def clip (lo hi n : Int) : Int := min (max n lo) hi

/-- The range with two ends, each moved to a length that is allowed. -/
def ofEnds (lo hi : Int) : LengthRange :=
  let lo := clip 0 handSize lo
  ⟨lo, clip lo handSize hi⟩

/-- The lengths from `lo` on. -/
def ofLow (lo : Int) : LengthRange := ofEnds lo handSize

/-- All lengths. -/
def full : LengthRange := ofEnds 0 handSize

/-- Whether a length is in the range. -/
def contains (r : LengthRange) (n : Int) : Bool := r.lo ≤ n && n ≤ r.hi

/-- The printed range. -/
def shown (r : LengthRange) : List Char :=
  "LenRange(".toList ++ Text.decimal r.lo ++ ", ".toList ++ Text.decimal r.hi ++ [')']

/-- The ends of a range are lengths in order. -/
theorem ofEnds_bounds (lo hi : Int) :
    0 ≤ (ofEnds lo hi).lo ∧ (ofEnds lo hi).lo ≤ (ofEnds lo hi).hi ∧ (ofEnds lo hi).hi ≤ 13 := by
  simp only [ofEnds, clip, handSize]; omega

end LengthRange

end ContractBridge
