/-
Ranges of high-card points.

A hand has between 0 and 37 points. A range keeps its ends there and in order: an end outside is
moved to the nearest number that is allowed, with a warning.
-/
import ContractBridge.Error

set_option autoImplicit false

namespace ContractBridge

/-- The most high-card points of a hand: four aces, four kings, four queens and a jack. -/
def maxHandPoints : Int := 37

/-- **A range of high-card points,** both ends included. -/
structure PointRange where
  lo : Int
  hi : Int
  deriving DecidableEq, Repr

namespace PointRange

/-- The range with two ends, each moved to a number that is allowed. -/
def ofEnds (lo hi : Int) : PointRange :=
  let low := min (max lo 0) maxHandPoints
  ⟨low, max (min hi maxHandPoints) low⟩

/-- What is said about ends that are moved. -/
def warnings (lo hi : Int) : List Warning :=
  let r := ofEnds lo hi
  if r = ⟨lo, hi⟩ then [] else [.rangeClamped lo hi r.lo r.hi]

/-- All numbers of points. -/
def full : PointRange := ofEnds 0 maxHandPoints

/-- Whether a number of points is in the range. -/
def contains (r : PointRange) (points : Int) : Bool := r.lo ≤ points && points ≤ r.hi

/-- The range in words. -/
def shown (r : PointRange) : List Char :=
  Text.decimal r.lo ++ '-' :: Text.decimal r.hi ++ " HCP".toList

/-- The range as it is built. -/
def form (r : PointRange) : List Char :=
  "HcpRange(".toList ++ Text.decimal r.lo ++ ", ".toList ++ Text.decimal r.hi ++ [')']

theorem ofEnds_bounds (lo hi : Int) :
    0 ≤ (ofEnds lo hi).lo ∧ (ofEnds lo hi).lo ≤ (ofEnds lo hi).hi ∧ (ofEnds lo hi).hi ≤ 37 := by
  simp only [ofEnds, maxHandPoints]; omega

end PointRange

end ContractBridge
