/-
Places of many distributions at once.

A block of lengths, four to a row, has a block of places, and a block of places one of
distributions. Places are counted as the numbers of the block are (`Counting`): in 64 bits they
go round, as doubles they are rounded.
-/
import ContractBridge.Shape
import ContractBridge.Block.Count

set_option autoImplicit false

namespace ContractBridge.Shape

/-! ## Places -/

/-- What a length counts in a place, suit by suit. -/
def placeValues : List Nat := [pairCount * lengthCount, pairCount, lengthCount, 1]

/-- The place of four lengths, counted in some way. -/
def placeIn (c : Counting) (row : List Count) : Count :=
  let row := if c = .unsigned then row.map fun n => .rounded n.toDouble else row
  let sum := (List.zipWith Count.times placeValues row).foldl Count.add (.exact 0)
  if c = .integers then sum else sum.wrapped

/-- The rows of four of a block, and the sizes around them. -/
def rowsOf {α : Type} (b : Block α) : Except Error (List Nat × List (List α)) :=
  match b.sizes.getLast? with
  | none => .error .outOfTable
  | some size =>
    if size = 4 then
      .ok (b.sizes.dropLast, Block.pieces 4 (b.entries.length / 4) b.entries)
    else .error .fourLengths

/-- **The places of many distributions.** -/
def indexAll (v : Literal) : Except Error (Nested Count) := do
  let b ← Block.ofLiteral v
  let (sizes, rows) ← rowsOf b
  let c ← Counting.ofLiterals b.entries
  let rows ← rows.mapM fun row => row.mapM c.read
  return Block.nest sizes (rows.map (placeIn c))

/-- The four lengths at a place. -/
def lengthsAt (n : Count) : List Count :=
  placeValues.map fun value => (n.quotient value).remainder lengthCount

/-- **The distributions at many places.** -/
def distributionsAt (v : Literal) : Except Error (Nested (List Count)) := do
  let b ← Block.ofLiteral v
  let c ← Counting.ofLiterals b.entries
  return Block.nest b.sizes ((← b.entries.mapM c.read).map lengthsAt)

/-- The place in a table that an index means, which counts from the end if it is negative. -/
def placeOf (size : Nat) (i : Int) : Except Error Nat :=
  let i := if i < 0 then i + size else i
  if 0 ≤ i ∧ i < size then .ok i.toNat else .error .outOfTable

/-! ## Membership -/

/-- The place of four lengths, in 64-bit arithmetic. -/
def wordIndex (row : List Int) : Int :=
  match SuitLengths.ofList? row with
  | some l => wrap l.index
  | none => 0

/-- **Whether many distributions are members,** by their places alone: a place from the end of
the table is taken for a negative one, and one outside of it is an error. -/
def containsAll (s : Shape) (v : Literal) : Except Error (Nested Bool) := do
  let (sizes, rows) ← rowsOf (← Block.wholeWords v)
  let found ← rows.mapM fun row => do
    return s.holds (← placeOf tableSize (wordIndex row))
  return Block.nest sizes found

end ContractBridge.Shape
