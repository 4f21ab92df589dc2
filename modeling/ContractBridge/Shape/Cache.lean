/-
Shapes kept by their patterns.

A cache keeps the shape of every written pattern that it was asked for and that could be read. A
shape that is kept carries the number of its compilation, so two answers of a cache with one
number are the same compilation. Clearing forgets the shapes but not how many there were.
-/
import ContractBridge.Shape.Family

set_option autoImplicit false

namespace ContractBridge

/-- A shape and the number of its compilation. -/
structure NumberedShape where
  shape : Shape
  number : Nat
  deriving Repr

/-- **The shapes compiled so far,** by pattern. -/
structure ShapeCache where
  entries : List (String × NumberedShape)
  /-- How many shapes were ever compiled. -/
  compiled : Nat
  deriving Repr

namespace ShapeCache

/-- The cache before its first use. -/
def new : ShapeCache := ⟨[], 0⟩

/-- The entry of a pattern. -/
def find? (c : ShapeCache) (pattern : String) : Option NumberedShape := c.entries.lookup pattern

/-- Whether a pattern has an entry. -/
def contains (c : ShapeCache) (pattern : String) : Bool := (c.find? pattern).isSome

/-- The number of entries. -/
def size (c : ShapeCache) : Nat := c.entries.length

/-- The cache without its entries. -/
def clear (c : ShapeCache) : ShapeCache := { c with entries := [] }

/-- **The shape of a pattern,** compiled at most once. A pattern that cannot be read leaves the
cache as it was. -/
def get (c : ShapeCache) (pattern : String) : Except Error NumberedShape × ShapeCache :=
  match c.find? pattern with
  | some entry => (.ok entry, c)
  | none =>
    match Shape.ofPattern pattern with
    | .ok shape =>
      let entry := ⟨shape, c.compiled⟩
      (.ok entry, ⟨(pattern, entry) :: c.entries, c.compiled + 1⟩)
    | .error e => (.error e, c)

/-- The shapes of some patterns; those before one that cannot be read are kept. -/
def getAll (c : ShapeCache) : List String → Except Error (List Shape) × ShapeCache
  | [] => (.ok [], c)
  | pattern :: patterns =>
    match c.get pattern with
    | (.error e, c) => (.error e, c)
    | (.ok entry, c) =>
      match c.getAll patterns with
      | (.ok shapes, c) => (.ok (entry.shape :: shapes), c)
      | (.error e, c) => (.error e, c)

end ShapeCache

end ContractBridge
