/-
Patterns of suit lengths.

A suit pattern constrains the length of one suit: exactly `n`, at least `n` or at most `n`. A
pattern is a suit pattern or a group of them, which stand for as many suits in any order; a list
of patterns is read from spades to clubs. A length is any integer here. That a written pattern
describes four suits which can make up thirteen cards is checked apart, by `checkArity`.
-/
import ContractBridge.Error
import ContractBridge.Card
import ContractBridge.Total

set_option autoImplicit false

namespace ContractBridge

/-! ## One suit -/

/-- How a length is meant. -/
inductive Modifier where
  | exact
  | atLeast
  | atMost
  deriving DecidableEq, Repr

/-- What is asked of the length of one suit. -/
structure SuitPattern where
  length : Int
  modifier : Modifier
  deriving DecidableEq, Repr

namespace Modifier

/-- The mark behind a length. -/
def mark : Modifier → List Char
  | exact => []
  | atLeast => ['+']
  | atMost => ['-']

/-- The modifier with a mark. -/
def ofMark? : String → Option Modifier
  | "" => some exact
  | "+" => some atLeast
  | "-" => some atMost
  | _ => none

/-- The modifier that a plain value names by its mark. -/
def ofLiteral (v : Literal) : Except Error Modifier :=
  match v with
  | .text s =>
    match ofMark? s with
    | some m => .ok m
    | none => .error (.notAModifier v)
  | _ => .error (.notAModifier v)

end Modifier

namespace SuitPattern

/-- The length `n` and no other. -/
def exactly (n : Int) : SuitPattern := ⟨n, .exact⟩

/-- The length `n` or more. -/
def atLeast (n : Int) : SuitPattern := ⟨n, .atLeast⟩

/-- The length `n` or less. -/
def atMost (n : Int) : SuitPattern := ⟨n, .atMost⟩

/-- Any length. -/
def joker : SuitPattern := ⟨0, .atLeast⟩

/-- **Whether a length fits.** -/
def contains (p : SuitPattern) (n : Int) : Bool :=
  match p.modifier with
  | .exact => n == p.length
  | .atLeast => p.length ≤ n
  | .atMost => n ≤ p.length

/-- The cards that the pattern takes in any case. -/
def minimum (p : SuitPattern) : Int :=
  match p.modifier with
  | .atMost => 0
  | _ => p.length

/-- The most cards that the pattern takes. -/
def maximum (p : SuitPattern) : Int :=
  match p.modifier with
  | .atLeast => handSize
  | _ => p.length

/-- The written pattern: the length as a hexadecimal digit with the mark behind it, and `x` for
any length. -/
def shown (p : SuitPattern) : List Char :=
  if p = joker then ['x'] else Text.hexadecimal p.length ++ p.modifier.mark

@[simp] theorem contains_exact (n m : Int) : contains ⟨n, .exact⟩ m = true ↔ m = n := by
  simp [contains]

@[simp] theorem contains_atLeast (n m : Int) : contains ⟨n, .atLeast⟩ m = true ↔ n ≤ m := by
  simp [contains]

@[simp] theorem contains_atMost (n m : Int) : contains ⟨n, .atMost⟩ m = true ↔ m ≤ n := by
  simp [contains]

/-- A length that is not negative and fits is at least the minimum. -/
theorem minimum_le {p : SuitPattern} {n : Int} (hn : 0 ≤ n) (h : p.contains n = true) :
    p.minimum ≤ n := by
  match p, h with
  | ⟨m, .exact⟩, h => have := (contains_exact m n).1 h; simp only [minimum]; omega
  | ⟨m, .atLeast⟩, h => exact (contains_atLeast m n).1 h
  | ⟨m, .atMost⟩, _ => exact hn

end SuitPattern

/-! ## Suits and groups -/

/-- **One suit, or several in any order.** -/
inductive Pattern where
  | suit (p : SuitPattern)
  | group (members : List SuitPattern)
  deriving DecidableEq, Repr

namespace Pattern

/-- Whether a length fits the pattern of a single suit. A group has no length of its own. -/
def contains : Pattern → Int → Bool
  | suit p, n => p.contains n
  | group _, _ => false

/-- The suits of the pattern, as written. -/
def suits : Pattern → List SuitPattern
  | suit p => [p]
  | group members => members

/-- The number of suits of the pattern. -/
def length (p : Pattern) : Nat := p.suits.length

/-- The written pattern, a group in parentheses. -/
def shown : Pattern → List Char
  | suit p => p.shown
  | group members => '(' :: members.flatMap SuitPattern.shown ++ [')']

/-- The suits of several patterns, in their order. -/
def flatten (ps : List Pattern) : List SuitPattern := ps.flatMap suits

/-- The cards that several patterns take in any case. -/
def fixedMinimum (ps : List Pattern) : Int := total ((flatten ps).map SuitPattern.minimum)

@[simp] theorem flatten_cons (p : Pattern) (ps : List Pattern) :
    flatten (p :: ps) = p.suits ++ flatten ps := rfl

@[simp] theorem flatten_append (ps qs : List Pattern) :
    flatten (ps ++ qs) = flatten ps ++ flatten qs := List.flatMap_append

/-! ## Four suits of thirteen cards -/

/-- Whether there are four suits. -/
def checkCount (count : Nat) : Except PatternFault Unit :=
  if count < 4 then .error (.arity (.fewSuits count))
  else if 4 < count then .error (.arity (.manySuits count))
  else .ok ()

/-- Whether suits can hold thirteen cards together: not more in any case, and, unless one of
them is open above, not fewer. -/
def checkCards (suits : List SuitPattern) : Except PatternFault Unit :=
  let least := total (suits.map SuitPattern.minimum)
  let most := total (suits.map SuitPattern.maximum)
  if handSize < least then .error (.arity (.atLeast least))
  else if suits.all (·.modifier != .atLeast) && most < handSize then .error (.arity (.atMost most))
  else .ok ()

/-- **Whether patterns describe four suits of thirteen cards.** -/
def checkArity (ps : List Pattern) : Except PatternFault Unit := do
  checkCount (flatten ps).length
  checkCards (flatten ps)

end Pattern

end ContractBridge
