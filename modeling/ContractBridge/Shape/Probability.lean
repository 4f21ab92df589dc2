/-
How likely a shape is.

A distribution is held by as many hands as there are ways to choose its cards suit by suit, so
the hands of a shape are counted by products of binomial coefficients. The coefficients are
taken from the rows of the triangle in which each entry is the sum of the two above it.
-/
import ContractBridge.Shape
import ContractBridge.Double
import ContractBridge.Total

set_option autoImplicit false

namespace ContractBridge

/-- Row `n` of the triangle of binomial coefficients. -/
def binomialRow : Nat → List Nat
  | 0 => [1]
  | n + 1 =>
    let row := binomialRow n
    List.zipWith (· + ·) (0 :: row) (row ++ [0])

/-- The number of ways to choose `k` of `n` things. -/
def binomial (n k : Nat) : Nat := (binomialRow n).getD k 0

namespace Shape

/-- The number of hands with a distribution. -/
def handsOf (l : SuitLengths) : Nat :=
  (l.toList.map fun n => binomial handSize n.toNat).foldl (· * ·) 1

/-- The number of hands whose distribution is a member. -/
def handCount (s : Shape) : Nat := total (s.members.map handsOf)

/-- **The share of hands whose distribution is a member.** -/
def probability (s : Shape) : Double := .ofRatio s.handCount (binomial 52 handSize)

end Shape

end ContractBridge
