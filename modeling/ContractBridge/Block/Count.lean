/-
Counting with the numbers of a block.

A number of a block is an integer or a double, and all numbers of a block are counted in one
way. While they are signed 64-bit integers they are counted in these, and unsigned ones alike; a
single integer beyond both makes every integer of the block exact; any other mixture is counted in
doubles. Truth values count as 1 and 0 in whatever way the others need.
-/
import ContractBridge.Block
import ContractBridge.Double.Division

set_option autoImplicit false

namespace ContractBridge

/-! ## Numbers -/

/-- **A number of a block.** -/
inductive Count where
  | exact (n : Int)
  | rounded (x : Double)
  deriving DecidableEq, Repr

namespace Count

/-- The number that a plain value is. -/
def ofLiteral : Literal → Except Error Count
  | .floating x => x.double?.elim (.error .wrongKind) fun x => .ok (rounded x)
  | v => exact <$> v.integer

/-- The number as a double. -/
def toDouble : Count → Double
  | exact n => .ofInt n
  | rounded x => x

/-- The sum, exact for integers. -/
def add : Count → Count → Count
  | exact n, exact m => exact (n + m)
  | c, d => rounded (c.toDouble.add d.toDouble)

/-- So many times the number. -/
def times (k : Nat) : Count → Count
  | exact n => exact (k * n)
  | rounded x => rounded (x.mul (.ofInt k))

/-- The quotient of a floor division. -/
def quotient (b : Nat) : Count → Count
  | exact n => exact (n / b)
  | rounded x => rounded (x.quotient b)

/-- The remainder of a floor division. -/
def remainder (b : Nat) : Count → Count
  | exact n => exact (n % b)
  | rounded x => rounded (x.remainder b)

/-- The number as a signed 64-bit integer, if it is an integer. -/
def wrapped : Count → Count
  | exact n => exact (wrap n)
  | c => c

end Count

/-! ## Ways of counting -/

/-- How the numbers of a block are counted. -/
inductive Counting where
  | truths
  | signed
  | unsigned
  | doubles
  | integers
  deriving DecidableEq, Repr

namespace Counting

/-- The way that a single number needs. -/
def ofCount : Count → Counting
  | .exact n =>
    if minWord ≤ n ∧ n ≤ maxWord then signed
    else if 0 ≤ n ∧ n ≤ 2 * maxWord + 1 then unsigned
    else integers
  | .rounded _ => doubles

/-- The way that a plain value needs. -/
def ofLiteral : Literal → Except Error Counting
  | .truth _ => .ok truths
  | v => ofCount <$> Count.ofLiteral v

/-- The way that serves both of two. -/
def join : Counting → Counting → Counting
  | truths, c => c
  | c, truths => c
  | integers, _ => integers
  | _, integers => integers
  | c, d => if c = d then c else doubles

/-- **The way that serves all of some values.** -/
def ofLiterals (vs : List Literal) : Except Error Counting := do
  return (← vs.mapM ofLiteral).foldl join truths

/-- The number that is counted for a plain value. -/
def read (c : Counting) (v : Literal) : Except Error Count := do
  let n ← Count.ofLiteral v
  return if c = doubles then .rounded n.toDouble else n

end Counting

end ContractBridge
