/-
The Zar count.

A hand counts its honours, the lengths of its two longest suits and the difference between its
longest and its shortest suit. It gains a point if its strength lies in its long suits, and one
more at 25 points with four spades; it loses a point for each king, queen or jack that a short
suit leaves unguarded.
-/
import ContractBridge.PointCount
import ContractBridge.Total

set_option autoImplicit false

namespace ContractBridge.Zar

/-- The four suits of a set, the shortest first; suits of one length stay in suit order. -/
def suitsByLength (s : CardSet) : List CardSet :=
  (Suit.all.map s.inSuit).mergeSort fun a b => a.size ≤ b.size

/-- Whether nearly all points of a middling hand are in its two longest suits, or of a strong
hand in its three longest. -/
def isConcentrated (points topTwo third : Int) : Bool :=
  (10 < points && points < 15 && points - 1 ≤ topTwo) ||
    (14 < points && points - 1 ≤ topTwo + third)

/-- The points for lengths. -/
def shapePoints (longest second shortest : Nat) : Int :=
  (longest : Int) + second + longest - shortest

/-- The points for length and for strength in the long suits. -/
def lengthAndConcentration (s : CardSet) : Except Error Int := do
  let total ← PointCount.milton.evaluate s
  match suitsByLength s with
  | [shortest, third, second, longest] =>
    let topTwo := (← PointCount.milton.evaluate longest) + (← PointCount.milton.evaluate second)
    let thirdPoints ← PointCount.milton.evaluate third
    let points := shapePoints longest.size second.size shortest.size
    let points := if isConcentrated total topTwo thirdPoints then points + 1 else points
    return if points = 25 ∧ 3 < (s.inSuit .spades).size then points + 1 else points
  | _ => return 0

/-- The unguarded honours of a suit: kings, queens and jacks alone, queens and jacks in a
doubleton. -/
def suitMalus (holding : CardSet) : Nat :=
  let low := (holding ∩ .queens).size + (holding ∩ .jacks).size
  if holding.size ≤ 1 then (holding ∩ .kings).size + low
  else if holding.size = 2 then low
  else 0

/-- The unguarded honours of a hand. -/
def shortHonoursMalus (s : CardSet) : Nat :=
  total (Suit.all.map fun suit => suitMalus (s.inSuit suit))

/-- **The Zar points of a hand.** -/
def points (s : CardSet) : Except Error Int := do
  return (← PointCount.zarHonours.evaluate s) + (← lengthAndConcentration s) - shortHonoursMalus s

end ContractBridge.Zar
