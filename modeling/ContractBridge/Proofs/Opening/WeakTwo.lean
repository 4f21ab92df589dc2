/-
Weak twos.

Four questions are asked about a hand that may open two of a major: its lengths are looked up in a
compiled pattern, its points are counted in the set of cards, and its controls and the quality of its
suits on grids, by weights. All of them come down to sizes, of the suits and of the ranks of the hand,
and the two majors that are tried one after the other are the two in which it may have the six cards.
-/
import ContractBridge.Opening
import ContractBridge.Proofs.HandDescriptor
import ContractBridge.Proofs.PointCount

set_option autoImplicit false

namespace ContractBridge

/-- **What is asked of a weak two:** six cards in one major and more than three points of quality
there, at most three cards in the other major and four in each minor, 5 to 10 high-card points, and
fewer than four controls. -/
def Hand.IsWeakTwo (h : Hand) : Prop :=
  (∃ majors ∈ [(Suit.spades, Suit.hearts), (Suit.hearts, Suit.spades)],
    h.cards.suitLengths.get majors.1 = 6 ∧ h.cards.suitLengths.get majors.2 ≤ 3 ∧
      3 < (h.cards.inSuit majors.1).quality) ∧
  (h.cards.suitLengths.diamonds ≤ 4 ∧ h.cards.suitLengths.clubs ≤ 4) ∧
  (5 ≤ h.points ∧ h.points ≤ 10) ∧ h.cards.controls < 4

instance : DecidablePred Hand.IsWeakTwo := fun _ => inferInstanceAs (Decidable (_ ∧ _))

namespace Opening

variable {l : SuitLengths} {hand : Hand} {s : CardSet} {c : ShapeCache}

open Shape Pattern HandTypeBuilder

/-! ## The type -/

/-- **The distributions of the type,** with six cards in one major or in the other. -/
theorem mem_weakTwoType (hl : l.IsOfHand) : l ∈ weakTwoType.shape.members ↔
    (l.spades = 6 ∧ l.hearts ≤ 3 ∨ l.hearts = 6 ∧ l.spades ≤ 3) ∧ l.diamonds ≤ 4 ∧ l.clubs ≤ 4 := by
  have hshape : weakTwoType.shape =
      matching [.group [.exactly 6, .atMost 3], .suit (.atMost 4), .suit (.atMost 4)] := rfl
  rw [hshape, mem_matching_iff_fits (by decide), and_iff_right hl, SuitLengths.toList, fits_pair,
    fits_suit, fits_suit, fits_nil]
  simp only [SuitPattern.exactly, SuitPattern.atMost, SuitPattern.contains_exact,
    SuitPattern.contains_atMost, and_true]
  omega

/-- **The type from its pattern,** which is compiled with a cache at hand. -/
def writtenWeakTwo : Caching HandType := do
  let b ← HandTypeBuilder.runAll .new [.add (.pattern "(63-)4-4-"), .points 5 10]
  return b.build

theorem computes_writtenWeakTwo : Caching.Computes writtenWeakTwo (.ok weakTwoType) := by
  have hparse : parse "(63-)4-4-" =
      .ok [.group [.exactly 6, .atMost 3], .suit (.atMost 4), .suit (.atMost 4)] :=
    parse_eq_of_decide (by decide +kernel)
  have hmade := isMadeBy_new.add hparse |>.withPoints 5 10
  exact hmade.computes.bind fun b => .lift (.ok b.build)

/-! ## The questions -/

/-- Whether a suit is a good six can be told for every set of deck cards. -/
theorem isGoodSix_eq (hs : s.subset .deck = true) :
    isGoodSix s = .ok (decide (s.size = 6 ∧ 3 < s.quality)) := by
  unfold isGoodSix
  rw [PointCount.evaluate_suitQuality hs]
  by_cases hsix : s.size = 6
  · have hquality : decide (3 < (s.quality : Int)) = decide (s.size = 6 ∧ 3 < s.quality) :=
      decide_eq_decide.2 (by omega)
    rw [if_pos hsix]
    exact congrArg Except.ok hquality
  · rw [if_neg hsix, decide_eq_false fun h => hsix h.1]
    rfl

/-- **The questions are asked one after the other,** and the hearts only where the spades will not
do. -/
theorem isWeakTwo_of_answers {fits spades hearts : Bool} {controls : Int}
    (hfits : weakTwoType.accepts hand.cards = .ok fits)
    (hcontrols : PointCount.controls.evaluate hand.cards = .ok controls)
    (hspades : isGoodSix (hand.cards.inSuit .spades) = .ok spades)
    (hhearts : isGoodSix (hand.cards.inSuit .hearts) = .ok hearts) :
    isWeakTwo hand = .ok (fits && decide (controls < 4) && (spades || hearts)) := by
  unfold isWeakTwo
  rw [hfits, hcontrols, hspades, hhearts]
  cases fits with
  | false => rfl
  | true =>
    show (if 4 ≤ controls then Except.ok false
      else if spades = true then Except.ok true else Except.ok hearts) = _
    by_cases hmany : 4 ≤ controls
    · rw [if_pos hmany, decide_eq_false (not_lt.2 hmany)]
      rfl
    · rw [if_neg hmany, decide_eq_true (not_le.1 hmany)]
      cases spades <;> rfl

section Hands

variable (hand) (hdeck : hand.cards.subset .deck = true) (hsize : hand.cards.size = handSize)
include hdeck hsize

/-- **A weak two is opened by the hands that it is said to be opened by.** The type that is asked for
is what its pattern makes of it, with whatever cache, and there is an answer for every hand of thirteen
deck cards: a hand opens a weak two exactly if it meets what is asked of one. -/
theorem isWeakTwo_eq (hc : c.Reached) : (writtenWeakTwo c).1 = .ok weakTwoType ∧
    isWeakTwo hand = .ok (decide hand.IsWeakTwo) := by
  refine ⟨(computes_writtenWeakTwo c hc).1, ?_⟩
  have hl := SuitLengths.isOfHand_suitLengths hdeck hsize
  have hpoints := HandType.points_le hdeck hsize
  have hlengths := CardSet.get_suitLengths_eq_size (CardSet.isFinite_deck.of_subset hdeck)
  have hspades : hand.cards.suitLengths.spades = (hand.cards.inSuit .spades).size :=
    hlengths .spades
  have hhearts : hand.cards.suitLengths.hearts = (hand.cards.inSuit .hearts).size :=
    hlengths .hearts
  have hrange : weakTwoType.points.contains hand.points = true ↔
      5 ≤ (hand.points : Int) ∧ (hand.points : Int) ≤ 10 :=
    PointRange.contains_ofEnds_iff (by decide) (by decide) (by decide) hpoints
  rw [isWeakTwo_of_answers (HandType.accepts_eq hdeck _) (PointCount.evaluate_controls hdeck)
    (isGoodSix_eq (CardSet.inSuit_subset hdeck _)) (isGoodSix_eq (CardSet.inSuit_subset hdeck _)),
    Except.ok.injEq, Bool.eq_iff_iff]
  simp only [Bool.and_eq_true, Bool.or_eq_true, decide_eq_true_iff, mem_weakTwoType hl, hrange,
    Hand.IsWeakTwo, List.exists_mem_cons_iff, List.not_mem_nil, false_and, exists_false, or_false,
    SuitLengths.get, hspades, hhearts]
  omega

end Hands

/-- At a hand with six good hearts, and at one with six poor ones. -/
theorem isWeakTwo_eq_hearts : ShapeCache.Reached .new ∧
    isWeakTwo ⟨⟨0x000c001c381c1004⟩⟩ = .ok true ∧ isWeakTwo ⟨⟨0x2004400c0b1c1004⟩⟩ = .ok false := by
  have hgood := isWeakTwo_eq ⟨⟨0x000c001c381c1004⟩⟩ (by decide) (by decide) .new
  have hpoor := isWeakTwo_eq ⟨⟨0x2004400c0b1c1004⟩⟩ (by decide) (by decide) .new
  refine ⟨.new, hgood.2.trans ?_, hpoor.2.trans ?_⟩
  · rw [decide_eq_true (by decide)]
  · rw [decide_eq_false (by decide)]

end Opening

end ContractBridge
