/-
Ranges of points.

The ends of a range are moved to numbers of points that a hand can have. A hand of thirteen deck
cards has between 0 and 37 points, so for hands it makes no difference, as long as the range had one
of these numbers in it: such a range accepts the hands whose points lie between the ends as they were
given. A type without a shape asks for nothing else, because every hand has a distribution of hands.
-/
import ContractBridge.Hand
import ContractBridge.HandType
import ContractBridge.Proofs.CardSet.Honours
import ContractBridge.Proofs.Shape.Members

set_option autoImplicit false

namespace ContractBridge

namespace PointRange

variable {lo hi : Int} {points : Nat}

theorem contains_iff {r : PointRange} {n : Int} : r.contains n = true ↔ r.lo ≤ n ∧ n ≤ r.hi := by
  rw [contains, Bool.and_eq_true, decide_eq_true_iff, decide_eq_true_iff]

/-- **The ends of a range may be moved unnoticed,** if some number of points lies between them. -/
theorem contains_ofEnds_iff (hends : lo ≤ hi) (hhi : 0 ≤ hi) (hlo : lo ≤ 37)
    (hpoints : points ≤ 37) : (ofEnds lo hi).contains points = true ↔ lo ≤ points ∧ points ≤ hi := by
  rw [contains_iff]
  simp only [ofEnds, maxHandPoints]
  omega

/-- The range of all points has the points of every hand. -/
theorem contains_full (hpoints : points ≤ 37) : full.contains points = true := by
  rw [contains_iff]
  exact ⟨Int.natCast_nonneg _, Int.ofNat_le.2 hpoints⟩

end PointRange

namespace HandType

variable {hand : Hand} {lo hi : Int}

/-- **A type looks at the distribution of a hand and at its points.** -/
theorem accepts_eq (hdeck : hand.cards.subset .deck = true) (t : HandType) :
    t.accepts hand.cards = .ok (decide (hand.cards.suitLengths ∈ t.shape.members) &&
      t.points.contains hand.points) :=
  except_bind_eq_ok_iff.2 ⟨_, Shape.includes_eq_mem _ hdeck, rfl⟩

section Hands

variable (hdeck : hand.cards.subset .deck = true) (hsize : hand.cards.size = handSize)
include hdeck hsize

theorem points_le : hand.points ≤ 37 :=
  CardSet.highCardPoints_le (CardSet.isFinite_deck.of_subset hdeck) (Nat.le_of_eq hsize)

/-- A type without a shape looks at the points alone. -/
theorem accepts_of_no_shape (range : Option PointRange) :
    (new none range).accepts hand.cards = .ok ((range.getD .full).contains hand.points) := by
  have hmem : hand.cards.suitLengths ∈ Shape.all.members :=
    Shape.mem_all.2 (SuitLengths.isOfHand_suitLengths hdeck hsize)
  have hshape : (new none range).shape = .all := rfl
  rw [accepts_eq hdeck, hshape, decide_eq_true hmem, Bool.true_and]
  rfl

/-- A type without restrictions accepts every hand. -/
theorem accepts_unrestricted : (new none none).accepts hand.cards = .ok true := by
  rw [accepts_of_no_shape hdeck hsize, Option.getD_none,
    PointRange.contains_full (points_le hdeck hsize)]

/-- **A range of points means its ends as they were given.** If the ends are in order and some
number from 0 to 37 lies between them, a hand of thirteen deck cards has the type of that range
exactly if its points lie between the ends. A hand has no more than 37 points, and it has the type
without restrictions, given as such or from a builder without steps. -/
theorem accepts_range_iff (hends : lo ≤ hi) (hhi : 0 ≤ hi) (hlo : lo ≤ 37) :
    (new none (some (.ofEnds lo hi))).accepts hand.cards =
        .ok (decide (lo ≤ hand.points ∧ hand.points ≤ hi)) ∧
      0 ≤ hand.points ∧ hand.points ≤ 37 ∧
      (new none none).accepts hand.cards = .ok true ∧
      HandTypeBuilder.new.build.accepts hand.cards = .ok true := by
  have hpoints := points_le hdeck hsize
  have hall := accepts_unrestricted hdeck hsize
  refine ⟨?_, Nat.zero_le _, hpoints, hall, hall⟩
  rw [accepts_of_no_shape hdeck hsize, Option.getD_some, Except.ok.injEq, Bool.eq_iff_iff,
    decide_eq_true_iff]
  exact PointRange.contains_ofEnds_iff hends hhi hlo hpoints

end Hands

/-- At the hand with the most points, four aces, kings and queens and the jack of spades, and ranges
with an end that is moved. -/
theorem accepts_range_mostPoints :
    (⟨⟨0x7000700070007800⟩⟩ : Hand).points = 37 ∧
      (new none (some (.ofEnds (-3) 40))).accepts ⟨0x7000700070007800⟩ = .ok true ∧
      (new none (some (.ofEnds (-3) 36))).accepts ⟨0x7000700070007800⟩ = .ok false := by
  have hdeck : (⟨⟨0x7000700070007800⟩⟩ : Hand).cards.subset .deck = true := by decide
  have hsize : (⟨⟨0x7000700070007800⟩⟩ : Hand).cards.size = handSize := by decide
  have hpoints : (⟨⟨0x7000700070007800⟩⟩ : Hand).points = 37 := by decide
  obtain ⟨hwide, -⟩ := accepts_range_iff hdeck hsize (show (-3 : Int) ≤ 40 by decide)
    (by decide) (by decide)
  obtain ⟨hnarrow, -⟩ := accepts_range_iff hdeck hsize (show (-3 : Int) ≤ 36 by decide)
    (by decide) (by decide)
  rw [hpoints] at hwide hnarrow
  exact ⟨hpoints, hwide, hnarrow⟩

end HandType

end ContractBridge
