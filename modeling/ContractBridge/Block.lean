/-
Blocks of numbers.

A block is a value, or a list of blocks of one form. It is kept as its sizes, from the outside
in, and its entries in reading order, so a function on rows of a block works on the entries cut
into rows, and the sizes say how the results are nested. The form of a block is looked at first
and its entries are read after that, in their order.
-/
import ContractBridge.Literal.Number

set_option autoImplicit false

namespace ContractBridge

/-- **A rectangular block of entries.** -/
structure Block (α : Type) where
  /-- The sizes, from the outside in; an entry by itself has none. -/
  sizes : List Nat
  /-- The entries in reading order. -/
  entries : List α
  deriving DecidableEq, Repr

/-- A number, or a list of such values. -/
inductive Nested (α : Type) where
  | value (a : α)
  | list (items : List (Nested α))
  deriving Repr, Inhabited

/-- The least and the greatest 64-bit integer. -/
def minWord : Int := -0x8000000000000000
@[inherit_doc minWord] def maxWord : Int := 0x7fffffffffffffff

/-- The 64-bit integer that equals a number up to multiples of `2 ^ 64`. -/
def wrap (n : Int) : Int := n.bmod 0x10000000000000000

namespace Block

variable {α β : Type}

/-- Blocks of one form as a block. -/
def ofList (blocks : List (Block α)) : Except Error (Block α) :=
  match blocks with
  | [] => .ok ⟨[0], []⟩
  | b :: bs =>
    if bs.all (·.sizes == b.sizes) then
      .ok ⟨(b :: bs).length :: b.sizes, (b :: bs).flatMap Block.entries⟩
    else .error .ragged

mutual

/-- **The block that a plain value is,** with entries that are no lists. -/
def ofLiteral : Literal → Except Error (Block Literal)
  | .list items => do ofList (← ofLiterals items)
  | v => .ok ⟨[], [v]⟩

/-- The blocks that plain values are. -/
def ofLiterals : List Literal → Except Error (List (Block Literal))
  | [] => .ok []
  | v :: vs => do
    let b ← ofLiteral v
    return b :: (← ofLiterals vs)

end

/-- A block with every entry read. -/
def read (entry : α → Except Error β) (b : Block α) : Except Error (Block β) := do
  return ⟨b.sizes, ← b.entries.mapM entry⟩

/-! ## Entries -/

/-- An integer of 64 bits. -/
def toWord (n : Int) : Except Error Int :=
  if minWord ≤ n ∧ n ≤ maxWord then .ok n else .error .tooLarge

/-- The block of 64-bit integers that a plain value can be cut to. -/
def wholeWords (v : Literal) : Except Error (Block Int) := do
  (← ofLiteral v).read fun entry => do toWord (← entry.whole)

/-! ## Rows -/

/-- A list cut into pieces of `k`, `k` not 0; what is left over is dropped. -/
def pieces (k : Nat) : Nat → List α → List (List α)
  | 0, _ => []
  | n + 1, l => l.take k :: pieces k n (l.drop k)

/-- Values in reading order nested by sizes. -/
def nest : List Nat → List α → Nested α
  | [], l =>
    match l with
    | [a] => .value a
    | l => .list (l.map .value)
  | size :: sizes, l =>
    .list ((pieces (sizes.foldl (· * ·) 1) size l).map (nest sizes))

end Block

end ContractBridge
