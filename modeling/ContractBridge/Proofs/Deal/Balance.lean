/-
Balanced hands.

The summary of a deal sorts the lengths of a hand and looks the sorted list up. The balanced shape
is made from patterns, which are read, expanded and put into a table, and a strong no trump asks
for that shape. All of them say of a hand that its lengths are, in some order, one of three lists
(`SuitLengths.IsBalanced`): a sorted list is determined by what it is a rearrangement of, and a
group of four exact lengths matches these lengths in any order.
-/
import Mathlib.Data.List.Sort
import ContractBridge.Deal.Summary
import ContractBridge.Opening
import ContractBridge.Proofs.Deal.Division
import ContractBridge.Proofs.HandType.Points
import ContractBridge.Proofs.Shape.Expression

set_option autoImplicit false

namespace ContractBridge

namespace SuitLengths

/-- **Whether a distribution is balanced:** one of three choices of lengths in any order. -/
def IsBalanced (l : SuitLengths) : Prop :=
  ∃ lengths ∈ [[4, 3, 3, 3], [4, 4, 3, 2], [5, 3, 3, 2]], l.toList.Perm lengths

instance : DecidablePred IsBalanced := fun _ => List.decidableBEx _ _

end SuitLengths

variable {lengths sorted : List Int} {l : SuitLengths}

/-! ## The summary of a hand -/

/-- Sorting gives a sorted list exactly if that is a rearrangement. -/
theorem mergeSort_eq_iff_perm (hsorted : sorted.Pairwise (· ≤ ·)) :
    lengths.mergeSort (· ≤ ·) = sorted ↔ lengths.Perm sorted := by
  have hperm : (lengths.mergeSort (· ≤ ·)).Perm lengths := List.mergeSort_perm _ _
  constructor
  · rintro rfl
    exact hperm.symm
  · intro h
    exact (hperm.trans h).eq_of_pairwise' (List.pairwise_mergeSort' (· ≤ ·) lengths) hsorted

theorem mem_balancedLengths_iff :
    l.toList.mergeSort (· ≤ ·) ∈ balancedLengths ↔ l.IsBalanced := by
  have hsorted : ∀ m ∈ balancedLengths, m.Pairwise (· ≤ ·) := by decide
  have hreverse : balancedLengths =
      [[4, 3, 3, 3], [4, 4, 3, 2], [5, 3, 3, 2]].map List.reverse := rfl
  calc l.toList.mergeSort (· ≤ ·) ∈ balancedLengths
      ↔ ∃ m ∈ balancedLengths, l.toList.Perm m := by
        constructor
        · intro h
          exact ⟨_, h, (mergeSort_eq_iff_perm (hsorted _ h)).1 rfl⟩
        · rintro ⟨m, hm, hperm⟩
          rwa [(mergeSort_eq_iff_perm (hsorted m hm)).2 hperm]
    _ ↔ l.IsBalanced := by
        simp only [hreverse, SuitLengths.IsBalanced, List.mem_map, exists_exists_and_eq_and,
          List.perm_reverse]

/-- The summary counts a hand as balanced if its distribution is. -/
theorem balanced_summary (h : Hand) :
    h.summary.balanced = (decide h.cards.suitLengths.IsBalanced).toNat := by
  have hlookup : balancedLengths.contains (h.cards.suitLengths.toList.mergeSort (· ≤ ·)) =
      decide h.cards.suitLengths.IsBalanced := by
    rw [Bool.eq_iff_iff, List.contains_iff_mem, decide_eq_true_iff, mem_balancedLengths_iff]
  show (if balancedLengths.contains _ = true then 1 else 0) = _
  rw [hlookup]
  cases decide h.cards.suitLengths.IsBalanced <;> rfl

/-! ## The balanced shape -/

namespace Shape

theorem mem_anyOrder (hlength : 2 ≤ lengths.length) (hpos : ∀ n ∈ lengths, 0 ≤ n)
    (htotal : total lengths = handSize) :
    l ∈ (anyOrder lengths).members ↔ l.toList.Perm lengths := by
  have hproper : ∀ p ∈ [Pattern.group (lengths.map .exactly)], p.IsProper := by
    rw [List.forall_mem_singleton]
    exact ⟨by rwa [List.length_map], List.forall_mem_map.2 hpos⟩
  rw [anyOrder, mem_matching hproper, matches_group_iff]
  exact and_iff_right_of_imp (isOfHand_of_perm hpos htotal)

theorem mem_balanced : l ∈ balanced.members ↔ l.IsBalanced := by
  simp (disch := decide) only [balanced, mem_union, mem_anyOrder, or_assoc]
  simp only [SuitLengths.IsBalanced, List.exists_mem_cons_iff, List.not_mem_nil, false_and,
    exists_false, or_false]

end Shape

/-! ## A strong no trump -/

section Hands

variable {hand : Hand} (hdeck : hand.cards.subset .deck = true) (hsize : hand.cards.size = handSize)
include hdeck hsize

/-- With all numbers of points allowed, a type looks at its shape alone. -/
theorem accepts_of_all_points (s : Shape) :
    (⟨s, .ofEnds 0 37⟩ : HandType).accepts hand.cards = s.includes hand.cards := by
  have hpoints : (PointRange.ofEnds 0 37).contains hand.cards.highCardPoints = true :=
    PointRange.contains_full (HandType.points_le hdeck hsize)
  simp only [HandType.accepts, hpoints, Bool.and_true]
  exact bind_pure _

/-- A no trump of any strength is opened by the hands that the balanced shape includes. -/
theorem accepts_strongNoTrump : (Opening.strongNoTrump (.ofEnds 0 37)).accepts hand.cards =
    Shape.balanced.includes hand.cards := by
  have htype : (HandTypeBuilder.balanced (.ofEnds 0 37)).build.accepts hand.cards =
      Shape.balanced.includes hand.cards := accepts_of_all_points hdeck hsize .balanced
  rw [Opening.strongNoTrump, HandDescriptor.accepts, List.anyM, htype,
    Shape.includes_eq_mem _ hdeck]
  cases decide (hand.cards.suitLengths ∈ Shape.balanced.members) <;> rfl

end Hands

namespace Deal

/-- **A hand is balanced, whoever is asked.** At every seat of a division the summary has one
balanced hand or none, and it has one exactly if the lengths of the hand are, in some order, 4333,
4432 or 5332. The shape that is compiled from the balanced patterns, with whatever cache, includes
the hand exactly then, and so does the balanced shape itself; and exactly then the hand opens a
strong no trump that may have from 0 to 37 points. -/
theorem balanced_agrees {d : Deal} (h : d.hands.IsDivision) (seat : Seat) {c : ShapeCache}
    (hc : c.Reached) :
    ((d.summary.get seat).balanced = 1 ↔ (d.hands.get seat).cards.suitLengths.IsBalanced) ∧
      ((d.summary.get seat).balanced = 0 ↔ ¬ (d.hands.get seat).cards.suitLengths.IsBalanced) ∧
      ∃ s, (ShapeExpr.balanced.eval c).1 = .ok s ∧
        s.includes (d.hands.get seat).cards =
          .ok (decide ((d.summary.get seat).balanced = 1)) ∧
        Shape.balanced.includes (d.hands.get seat).cards =
          .ok (decide ((d.summary.get seat).balanced = 1)) ∧
        (Opening.strongNoTrump (.ofEnds 0 37)).accepts (d.hands.get seat).cards =
          .ok (decide ((d.summary.get seat).balanced = 1)) := by
  have hdeck : (d.hands.get seat).cards.subset .deck = true :=
    CardSet.subset_iff.2 fun _ => h.has_deck
  have hsummary : (d.summary.get seat).balanced =
      (decide (d.hands.get seat).cards.suitLengths.IsBalanced).toNat := by
    rw [summary, Seats.get_map, balanced_summary]
  have hone : decide ((d.summary.get seat).balanced = 1) =
      decide (d.hands.get seat).cards.suitLengths.IsBalanced := by
    rw [hsummary]
    cases decide (d.hands.get seat).cards.suitLengths.IsBalanced <;> rfl
  have hshape : Shape.balanced.includes (d.hands.get seat).cards =
      .ok (decide ((d.summary.get seat).balanced = 1)) := by
    rw [Shape.includes_eq_mem _ hdeck, hone]
    simp only [Shape.mem_balanced]
  obtain ⟨s, hs⟩ : ∃ s, (ShapeExpr.balanced.eval c).1 = .ok s := by
    rw [(ShapeExpr.computes_eval .balanced c hc).1]
    exact (ShapeExpr.builds_value .balanced).isOk_iff.2 trivial
  have hmem : ∀ l, l ∈ s.members ↔ l.IsBalanced := (ShapeExpr.represents_of_eval hc hs).mem_iff
  refine ⟨decide_eq_decide.1 hone, ?_, s, hs, ?_, hshape, ?_⟩
  · rw [hsummary]
    by_cases hbalanced : (d.hands.get seat).cards.suitLengths.IsBalanced <;> simp [hbalanced]
  · rw [Shape.includes_eq_mem _ hdeck, hone]
    simp only [hmem]
  · rw [accepts_strongNoTrump hdeck (h.size_eq seat), hshape]

/-- Four cards of one suit and three of each other at every seat, the top ones going round. -/
def fourThreesEach : Hands :=
  ⟨⟨⟨0x001c00e007007800⟩⟩, ⟨⟨0x7800001c00e00700⟩⟩, ⟨⟨0x07007800001c00e0⟩⟩,
    ⟨⟨0x00e007007800001c⟩⟩⟩

theorem isDivision_fourThreesEach : fourThreesEach.IsDivision where
  size_eq seat := by cases seat <;> decide
  apart seat other hne := by
    cases seat <;> cases other <;> first | exact absurd rfl hne | rfl
  covers := rfl

/-- At a deal of balanced hands. -/
theorem balanced_agrees_fourThreesEach :
    ShapeCache.Reached .new ∧ fourThreesEach.IsDivision ∧
      ((⟨fourThreesEach, .none, 1⟩ : Deal).summary.get .east).balanced = 1 ∧
      (∃ s, (ShapeExpr.balanced.eval .new).1 = .ok s ∧
        s.includes (fourThreesEach.get .east).cards = .ok true) ∧
      (Opening.strongNoTrump (.ofEnds 0 37)).accepts (fourThreesEach.get .east).cards =
        .ok true := by
  have hdivision : (⟨fourThreesEach, .none, 1⟩ : Deal).hands.IsDivision := isDivision_fourThreesEach
  obtain ⟨hone, -, s, hs, hcompiled, -, hopens⟩ := balanced_agrees hdivision .east .new
  have hbalanced : ((⟨fourThreesEach, .none, 1⟩ : Deal).summary.get .east).balanced = 1 :=
    hone.2 ⟨[4, 3, 3, 3], by decide, by decide⟩
  rw [decide_eq_true hbalanced] at hcompiled hopens
  exact ⟨.new, isDivision_fourThreesEach, hbalanced, ⟨s, hs, hcompiled⟩, hopens⟩

end Deal

end ContractBridge
