/-
The Lavazza three no trump.

A hand is asked for a long major and then for its Zar points, which are never counted without the
long major. The distributions are written down as three patterns, one for each length of the major.
The shape of several patterns starts from the empty one, which has bounds of its own, but these do
not outlast the first union (`Represents.empty_union`); so what the patterns compile to is the shape
that is asked for, bounds and all.
-/
import ContractBridge.Opening
import ContractBridge.Proofs.HandDescriptor
import ContractBridge.Proofs.Shape.Order
import ContractBridge.Proofs.Zar

set_option autoImplicit false

namespace ContractBridge

/-- The distributions with a major of seven to nine cards. -/
def SuitLengths.HasLongMajor (l : SuitLengths) : Prop :=
  (7 ≤ l.spades ∧ l.spades ≤ 9) ∨ (7 ≤ l.hearts ∧ l.hearts ≤ 9)

instance : DecidablePred SuitLengths.HasLongMajor := fun _ => inferInstanceAs (Decidable (_ ∨ _))

namespace Opening

variable {l : SuitLengths} {hand : Hand} {n : Int} {c : ShapeCache}

open Shape Pattern

/-! ## The shape -/

/-- A major of some length is the spades or the hearts. -/
theorem mem_withMajor (hn : 0 ≤ n) (hl : l.IsOfHand) :
    l ∈ (withMajor n).members ↔ l.spades = n ∨ l.hearts = n := by
  have hproper : ∀ p ∈ [group [.exactly n, .joker], suit .joker, suit .joker], p.IsProper := by
    simp [IsProper, SuitPattern.exactly, SuitPattern.joker, hn]
  obtain ⟨hs, hh, hd, hc⟩ := hl.nonneg
  rw [withMajor, mem_matching_iff_fits hproper, and_iff_right hl, SuitLengths.toList, fits_pair,
    fits_suit, fits_suit, fits_nil]
  simp only [SuitPattern.exactly, SuitPattern.joker, SuitPattern.contains_exact,
    SuitPattern.contains_atLeast, and_true]
  omega

/-- **The long majors are those of seven, eight or nine cards.** -/
theorem mem_longMajor (hl : l.IsOfHand) : l ∈ longMajor.members ↔ l.HasLongMajor := by
  simp (disch := decide) only [longMajor, mem_union, mem_withMajor _ hl]
  rw [SuitLengths.HasLongMajor]
  omega

/-- The patterns of the long majors. -/
def longMajorPatterns : List String := ["(8x)xx", "(7x)xx", "(9x)xx"]

/-- **The patterns compile to the shape.** -/
theorem ofPatterns_longMajorPatterns : ofPatterns longMajorPatterns = .ok longMajor := by
  have height : parse "(8x)xx" = .ok [.group [.exactly 8, .joker], .suit .joker, .suit .joker] :=
    parse_eq_of_decide (by decide +kernel)
  have hseven : parse "(7x)xx" = .ok [.group [.exactly 7, .joker], .suit .joker, .suit .joker] :=
    parse_eq_of_decide (by decide +kernel)
  have hnine : parse "(9x)xx" = .ok [.group [.exactly 9, .joker], .suit .joker, .suit .joker] :=
    parse_eq_of_decide (by decide +kernel)
  have hfirst : ∅ ∪ withMajor 8 = withMajor 8 :=
    (ofPattern_of_parse height).2.empty_union
  rw [longMajorPatterns, ofPatterns_of_parse (.cons height (.cons hseven (.cons hnine .nil)))]
  show Except.ok (∅ ∪ withMajor 8 ∪ withMajor 7 ∪ withMajor 9) = _
  rw [hfirst, longMajor]

/-- **The shape from its patterns,** which are compiled with a cache at hand. -/
def writtenLongMajor : Caching Shape := do
  return (← Caching.ofPatterns longMajorPatterns).foldl (· ∪ ·) ∅

theorem computes_writtenLongMajor : Caching.Computes writtenLongMajor (.ok longMajor) := by
  rw [← ofPatterns_longMajorPatterns]
  exact (Caching.computes_ofPatterns _).bind fun _ => .lift (.ok _)

/-! ## The opening -/

section Hands

variable (hand) (hdeck : hand.cards.subset .deck = true) (hsize : hand.cards.size = handSize)
include hdeck hsize

/-- **A Lavazza three no trump is opened by the hands that it is said to be opened by.** The shape
that is asked for is what its patterns make of it, with whatever cache. Every hand of thirteen deck
cards has Zar points and gets an answer: it opens three no trump exactly if it has a major of seven
to nine cards and 26 to 32 Zar points. -/
theorem isLavazza_eq (hc : c.Reached) : (writtenLongMajor c).1 = .ok longMajor ∧
    ∃ points, Zar.points hand.cards = .ok points ∧ isLavazza hand =
      .ok (decide (hand.cards.suitLengths.HasLongMajor ∧ 26 ≤ points ∧ points ≤ 32)) := by
  refine ⟨(computes_writtenLongMajor c hc).1, ?_⟩
  have hl := SuitLengths.isOfHand_suitLengths hdeck hsize
  obtain ⟨_, _, _, _, horder⟩ := Zar.exists_lengthOrder hand.cards
  have hpoints := Zar.points_of_order hdeck horder
  have hincludes : longMajor.includes hand.cards =
      .ok (decide hand.cards.suitLengths.HasLongMajor) := by
    rw [includes_eq_mem _ hdeck]
    simp only [mem_longMajor hl]
  refine ⟨_, hpoints, ?_⟩
  rw [isLavazza, hincludes, hpoints]
  by_cases hlong : hand.cards.suitLengths.HasLongMajor
  · rw [decide_eq_true hlong]
    simp only [hlong, true_and, Bool.decide_and]
    rfl
  · rw [decide_eq_false hlong, decide_eq_false fun h => hlong h.1]
    rfl

end Hands

end Opening

end ContractBridge
