/-
Types of hands.

A hand type is a shape and a range of high-card points; a hand belongs to it if both fit. Types
are put together with a builder, step by step: shapes are added and taken away, and a range is
set. A builder that was given no shape stands for all distributions, and one without a range for
all points.
-/
import ContractBridge.Shape.Family
import ContractBridge.PointRange

set_option autoImplicit false

namespace ContractBridge

/-- **A shape and a range of points.** -/
structure HandType where
  shape : Shape
  points : PointRange
  deriving Repr

namespace HandType

/-- The type with a shape and a range; one that is not given is no restriction. -/
def new (shape : Option Shape) (points : Option PointRange) : HandType :=
  ⟨shape.getD .all, points.getD .full⟩

/-- Whether some cards belong to the type. -/
def accepts (t : HandType) (cards : CardSet) : Except Error Bool := do
  return (← t.shape.includes cards) && t.points.contains cards.highCardPoints

/-- The type in words. -/
def shown (t : HandType) : List Char :=
  Text.decimal t.shape.size ++ " shapes, ".toList ++ t.points.shown

/-- The type as it is built. -/
def form (t : HandType) : List Char :=
  "HandType(".toList ++ t.shape.shown ++ ", ".toList ++ t.points.form ++ [')']

end HandType

/-! ## Building a type -/

/-- **A type under construction.** -/
structure HandTypeBuilder where
  shape : Option Shape
  points : Option PointRange
  deriving Repr

namespace HandTypeBuilder

/-- The builder before its first step. -/
def new : HandTypeBuilder := ⟨none, none⟩

/-- Balanced hands with points in a range. -/
def balanced (points : PointRange) : HandTypeBuilder := ⟨some .balanced, some points⟩

/-- The builder with a shape added. -/
def add (b : HandTypeBuilder) (s : Shape) : HandTypeBuilder :=
  { b with shape := some (match b.shape with
    | none => s
    | some t => t ∪ s) }

/-- The same for a shape whose bounds may not fit together with those before. -/
def addAny (b : HandTypeBuilder) (s : Shape) : Except Error HandTypeBuilder :=
  match b.shape with
  | none => .ok (b.add s)
  | some t => do return { b with shape := some (← t.add s) }

/-- The builder with a shape taken away, at first from all distributions. -/
def remove (b : HandTypeBuilder) (s : Shape) : HandTypeBuilder :=
  { b with shape := some (b.shape.getD .all \ s) }

/-- The builder with a range in place of the one before. -/
def withPoints (b : HandTypeBuilder) (r : PointRange) : HandTypeBuilder :=
  { b with points := some r }

/-- The builder with the hands whose longest suit is given, in place of the shapes before. -/
def withLongest (b : HandTypeBuilder) (suit : Suit) : HandTypeBuilder :=
  { b with shape := some (.withLongest suit) }

/-- The same for a suit number, which counts from the end if it is negative. -/
def withLongestNumber (b : HandTypeBuilder) (suit : Int) : Except Error HandTypeBuilder := do
  return b.withLongest (← Shape.entry Suit.all suit)

/-- What is said when a longest suit replaces shapes. -/
def longestWarnings (b : HandTypeBuilder) : List Warning :=
  if b.shape.isSome then [.longestReplaces] else []

/-- The type as built so far. -/
def build (b : HandTypeBuilder) : HandType := .new b.shape b.points

end HandTypeBuilder

end ContractBridge
