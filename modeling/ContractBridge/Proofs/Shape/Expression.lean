/-
Expressions of shapes.

Shapes are built from the named ones by unions, differences and intersections, to any depth. An
expression (`ShapeExpr`) is such a construction before it is carried out. It is carried out with
a cache at hand (`eval`), and what it means is a set of distributions, by the operations on sets
alone (`meaning`).

The two are held together in two steps. First the cache is taken out of the picture: the outcome
is that of the same construction with every pattern compiled anew (`computes_eval`). Then the
laws of building are put together along the expression (`builds_value`), so that no part of an
expression, not even one that leaves nothing, has a say in the bounds beyond its members.
-/
import ContractBridge.Proofs.Shape.Building
import ContractBridge.Proofs.Shape.Caching

set_option autoImplicit false

namespace ContractBridge

/-! ## Expressions -/

/-- **A shape built from named ones.** -/
inductive ShapeExpr where
  | pattern (text : String)
  | tuples (rows : Literal)
  | all
  | empty
  | balanced
  | but (text : String)
  | ranges (ranges : List LengthRange)
  | longest (suit : Int)
  /-- The sum of two shapes, written `a + b` or `a | b`. -/
  | union (a b : ShapeExpr)
  | diff (a b : ShapeExpr)
  | inter (a b : ShapeExpr)

namespace ShapeExpr

open Caching

/-- **An expression carried out with a cache at hand,** from left to right. -/
def eval : ShapeExpr → Caching Shape
  | pattern text => Caching.ofPattern text
  | tuples rows => liftM (Shape.ofRows rows)
  | all => return .all
  | empty => return ∅
  | balanced => do return (← Caching.ofPatterns Shape.balancedPatterns).foldl (· ∪ ·) ∅
  | but text => do return .all \ (← Caching.ofPattern text)
  | ranges rs => liftM (Shape.ofRanges rs)
  | longest suit => liftM (Shape.withLongestNumber suit)
  | union a b => do
    let s ← a.eval
    s.add (← b.eval)
  | diff a b => do
    let s ← a.eval
    return s \ (← b.eval)
  | inter a b => do
    let s ← a.eval
    return s ∩ (← b.eval)

/-- The same with every pattern compiled anew. -/
def value : ShapeExpr → Except Error Shape
  | pattern text => Shape.ofPattern text
  | tuples rows => Shape.ofRows rows
  | all => return .all
  | empty => return ∅
  | balanced => Shape.ofPatterns Shape.balancedPatterns
  | but text => Shape.but text
  | ranges rs => Shape.ofRanges rs
  | longest suit => Shape.withLongestNumber suit
  | union a b => do
    let s ← a.value
    s.add (← b.value)
  | diff a b => do
    let s ← a.value
    return s \ (← b.value)
  | inter a b => do
    let s ← a.value
    return s ∩ (← b.value)

theorem computes_eval (e : ShapeExpr) : Computes e.eval e.value := by
  induction e with
  | pattern text => exact computes_ofPattern text
  | tuples rows => exact .lift _
  | all => exact .lift (.ok _)
  | empty => exact .lift (.ok _)
  | balanced => exact (computes_ofPatterns _).bind fun _ => .lift (.ok _)
  | but text => exact (computes_ofPattern text).bind fun _ => .lift (.ok _)
  | ranges rs => exact .lift _
  | longest suit => exact .lift _
  | union a b iha ihb => exact iha.bind fun _ => ihb.bind fun _ => .lift _
  | diff a b iha ihb => exact iha.bind fun _ => ihb.bind fun _ => .lift (.ok _)
  | inter a b iha ihb => exact iha.bind fun _ => ihb.bind fun _ => .lift (.ok _)

/-! ## What expressions mean -/

/-- **The set of distributions that an expression stands for.** -/
def meaning : ShapeExpr → Set SuitLengths
  | pattern text => Shape.matched text
  | tuples rows => {l | ∃ numbers, Shape.HasNumbers rows numbers ∧ Shape.StandsIn l numbers}
  | all => {l | l.IsOfHand}
  | empty => ∅
  | balanced =>
    {l | ∃ lengths ∈ [[4, 3, 3, 3], [4, 4, 3, 2], [5, 3, 3, 2]], l.toList.Perm lengths}
  | but text => {l | l.IsOfHand} \ Shape.matched text
  | ranges rs =>
    {l | l.IsOfHand ∧ List.Forall₂ (fun r n => r.lo ≤ n ∧ n ≤ r.hi) rs l.toList}
  | longest k =>
    {l | l.IsOfHand ∧ ∃ suit : Suit, suit.HasNumber k ∧ 5 ≤ l.get suit ∧
      ∀ other, l.get other ≤ l.get suit}
  | union a b => a.meaning ∪ b.meaning
  | diff a b => a.meaning \ b.meaning
  | inter a b => a.meaning ∩ b.meaning

/-- **Whether all named shapes of an expression exist:** its patterns can be read, its
distributions are hands', its ranges are four, and its suits are numbers of suits. -/
def Accepted : ShapeExpr → Prop
  | pattern text | but text => ∃ ps, Pattern.parse text = .ok ps
  | tuples rows => ∃ numbers, Shape.Lists rows numbers
  | all | empty | balanced => True
  | ranges rs => rs.length = 4
  | longest k => -4 ≤ k ∧ k < 4
  | union a b | diff a b | inter a b => a.Accepted ∧ b.Accepted

open Shape in
/-- An expression builds the shape of the set that it stands for. -/
theorem builds_value (e : ShapeExpr) : Builds e.value e.Accepted e.meaning := by
  induction e with
  | pattern text => exact builds_ofPattern text
  | tuples rows => exact builds_ofRows rows
  | all => exact .of_represents represents_all
  | empty => exact .of_represents represents_empty
  | balanced => exact builds_balanced
  | but text => exact (builds_ofPattern text).map fun s hs => .of_represents (represents_all.diff hs)
  | ranges rs => exact builds_ofRanges rs
  | longest suit => exact builds_withLongestNumber suit
  | union a b iha ihb =>
    refine iha.bind fun s hs => ihb.map fun t ht => ?_
    rw [add_eq_union hs.tight ht.tight]
    exact .of_represents (hs.union ht)
  | diff a b iha ihb =>
    refine iha.bind fun s hs => ihb.map fun t ht => ?_
    exact .of_represents (hs.diff ht)
  | inter a b iha ihb =>
    refine iha.bind fun s hs => ihb.map fun t ht => ?_
    exact .of_represents (hs.inter ht)

variable {c : ShapeCache}

/-- What comes of an expression is the shape of the set that it stands for. -/
theorem represents_of_eval {e : ShapeExpr} {s : Shape} (hc : c.Reached)
    (h : (e.eval c).1 = .ok s) : s.Represents e.meaning :=
  (builds_value e).represents s ((computes_eval e c hc).1 ▸ h)

/-- **Shapes are the sets that their expressions stand for, within bounds that are attained.**
An expression of named shapes that exist gives a shape, whatever its cache was asked before. The
members of the shape are the distributions that the expression stands for; each of them has four
lengths from 0 to 13 that add up to 13; and the bounds of each suit are the least and the
greatest length of a member, or 0 and 13 if there is no member. -/
theorem eval_represents (e : ShapeExpr) (hc : c.Reached) :
    ((∃ s, (e.eval c).1 = .ok s) ↔ e.Accepted) ∧
    ∀ s, (e.eval c).1 = .ok s →
      (∀ l, l ∈ s.members ↔ l ∈ e.meaning) ∧
      (∀ l ∈ s.members, (∀ suit, 0 ≤ l.get suit ∧ l.get suit ≤ 13) ∧
        l.spades + l.hearts + l.diamonds + l.clubs = 13) ∧
      (s.members ≠ [] → ∃ lo hi : SuitLengths,
        s.minLengths = lo.toList ∧ s.maxLengths = hi.toList ∧
        ∀ suit, IsLeast {n | ∃ l ∈ s.members, l.get suit = n} (lo.get suit) ∧
          IsGreatest {n | ∃ l ∈ s.members, l.get suit = n} (hi.get suit)) ∧
      (s.members = [] →
        s.minLengths = [0, 0, 0, 0] ∧ s.maxLengths = [13, 13, 13, 13]) := by
  have hvalue := (computes_eval e c hc).1
  refine ⟨by rw [hvalue]; exact (builds_value e).isOk_iff, fun s hs => ?_⟩
  have hrep := represents_of_eval hc hs
  refine ⟨hrep.mem_iff, fun l hl => ?_, hrep.tight.of_member, hrep.tight.of_isEmpty⟩
  have hhand := hrep.isOfHand l hl
  exact ⟨SuitLengths.forall_mem_toList.1 hhand.bounds, hhand.total⟩

/-- At a sum whose first part leaves nothing: the bounds are those of the only member. -/
theorem eval_represents_fiveFourThreeOne :
    ∃ s : Shape, ShapeCache.Reached .new ∧
      ((union (inter balanced empty) (tuples (Shape.rowsOfNumbers [⟨5, 4, 3, 1⟩]))).eval .new).1 =
        .ok s ∧
      (∀ l, l ∈ s.members ↔ l = ⟨5, 4, 3, 1⟩) ∧
      s.minLengths = [5, 4, 3, 1] ∧ s.maxLengths = [5, 4, 3, 1] := by
  have hhand : ∀ l ∈ [(⟨5, 4, 3, 1⟩ : SuitLengths)], l.IsOfHand := by
    intro l hl
    rw [List.mem_singleton.1 hl]
    exact ⟨by decide, by decide⟩
  obtain ⟨hok, hall⟩ := eval_represents
    (union (inter balanced empty) (tuples (Shape.rowsOfNumbers [⟨5, 4, 3, 1⟩]))) .new
  obtain ⟨s, hs⟩ := hok.2 ⟨⟨trivial, trivial⟩, _, Shape.lists_rowsOfNumbers hhand⟩
  obtain ⟨hmem, -, hbounds, -⟩ := hall s hs
  have honly : ∀ l, l ∈ s.members ↔ l = ⟨5, 4, 3, 1⟩ := by
    intro l
    rw [hmem, ← List.mem_singleton, ← Shape.exists_standsIn_rowsOfNumbers_iff hhand]
    simp [meaning]
  obtain ⟨lo, hi, hlo, hhi, hextreme⟩ := hbounds (List.ne_nil_of_mem ((honly _).2 rfl))
  -- a bound that is attained is a length of the only member
  have hleast : lo = ⟨5, 4, 3, 1⟩ := SuitLengths.ext_get fun suit => by
    obtain ⟨l, hl, hget⟩ := (hextreme suit).1.1
    rw [← hget, (honly l).1 hl]
  have hgreatest : hi = ⟨5, 4, 3, 1⟩ := SuitLengths.ext_get fun suit => by
    obtain ⟨l, hl, hget⟩ := (hextreme suit).2.1
    rw [← hget, (honly l).1 hl]
  refine ⟨s, .new, hs, honly, ?_, ?_⟩
  · rw [hlo, hleast]
    rfl
  · rw [hhi, hgreatest]
    rfl

end ShapeExpr

end ContractBridge
