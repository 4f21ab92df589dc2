/-
The Polish club.

Three types of hands open one club, and each of them is written down as a chain of patterns that are
put in and taken out again. What the chains leave is said of the lengths of a hand
(`IsWeakNoTrump`, `IsLongClub`): the patterns are read off suit by suit, and what is taken out
of the weak no trumps are just the five-card majors, since of the distributions that were put in no
other has a suit of five with two cards in each minor.
-/
import ContractBridge.Opening
import ContractBridge.Proofs.Deal.Balance
import ContractBridge.Proofs.HandDescriptor

set_option autoImplicit false

namespace ContractBridge

/-! ## Distributions -/

namespace SuitLengths

/-- The distributions of a weak no trump: 4333, 4432 or 4441 in any order, or 5332 with the five
cards in a minor. -/
def IsWeakNoTrump (l : SuitLengths) : Prop :=
  (∃ lengths ∈ [[4, 3, 3, 3], [4, 4, 3, 2], [4, 4, 4, 1]], l.toList.Perm lengths) ∨
    l.toList.Perm [5, 3, 3, 2] ∧ (l.diamonds = 5 ∨ l.clubs = 5)

instance : DecidablePred IsWeakNoTrump := fun _ =>
  inferInstanceAs (Decidable ((∃ lengths ∈ _, _) ∨ _))

/-- The distributions with long clubs: five or more and no longer suit, but not five beside a major of
four, and not six or more beside suits that all have five at most. -/
def IsLongClub (l : SuitLengths) : Prop :=
  (5 ≤ l.clubs ∧ l.spades ≤ l.clubs ∧ l.hearts ≤ l.clubs ∧ l.diamonds ≤ l.clubs) ∧
    ¬ (l.clubs = 5 ∧ (l.spades = 4 ∨ l.hearts = 4)) ∧
    ¬ (6 ≤ l.clubs ∧ l.spades ≤ 5 ∧ l.hearts ≤ 5 ∧ l.diamonds ≤ 5)

instance : DecidablePred IsLongClub := fun _ => inferInstanceAs (Decidable (_ ∧ _))

end SuitLengths

namespace Opening

variable {l : SuitLengths} {hand : Hand} {c : ShapeCache}

open Shape Pattern HandTypeBuilder

/-! ## The shapes of the three types -/

/-- What is put into the weak no trumps. -/
theorem mem_noTrumpDistributions : l ∈ (anyOrder [4, 4, 3, 2] ∪ anyOrder [4, 3, 3, 3] ∪
    anyOrder [4, 4, 1, 4] ∪ anyOrder [5, 3, 3, 2]).members ↔
      (∃ lengths ∈ [[4, 3, 3, 3], [4, 4, 3, 2], [4, 4, 4, 1]], l.toList.Perm lengths) ∨
        l.toList.Perm [5, 3, 3, 2] := by
  have h4441 : l.toList.Perm [4, 4, 1, 4] ↔ l.toList.Perm [4, 4, 4, 1] :=
    List.Perm.congr_right (by decide) _
  simp (disch := decide) only [mem_union, mem_anyOrder, h4441, List.exists_mem_cons_iff]
  simp only [List.not_mem_nil, false_and, exists_false, or_false]
  tauto

/-- What is taken out of them: a major of five beside two cards in each minor. -/
theorem mem_fiveCardMajor (hl : l.IsOfHand) :
    l ∈ (matching [.group [.exactly 5, .joker], .group [.atLeast 2, .atLeast 2]]).members ↔
      (l.spades = 5 ∨ l.hearts = 5) ∧ 2 ≤ l.diamonds ∧ 2 ≤ l.clubs := by
  obtain ⟨hs, hh, -, -⟩ := hl.nonneg
  rw [mem_matching_iff_fits (by decide), and_iff_right hl, SuitLengths.toList, fits_pair, fits_pair]
  simp only [fits_nil, SuitPattern.exactly, SuitPattern.joker, SuitPattern.atLeast,
    SuitPattern.contains_exact, SuitPattern.contains_atLeast, or_self, and_true]
  omega

/-- Without a suit of five there is no major of five. -/
theorem not_fiveCardMajor_of_perm
    (h : ∃ lengths ∈ [[4, 3, 3, 3], [4, 4, 3, 2], [4, 4, 4, 1]], l.toList.Perm lengths) :
    ¬ (l.spades = 5 ∨ l.hearts = 5) := by
  obtain ⟨lengths, hlengths, hperm⟩ := h
  have hno : ∀ lengths ∈ [[4, 3, 3, 3], [4, 4, 3, 2], [4, 4, 4, 1]], (5 : Int) ∉ lengths := by
    decide
  intro hfive
  refine hno lengths hlengths (hperm.mem_iff.1 ?_)
  simp only [SuitLengths.toList, List.mem_cons]
  omega

/-- The suit of five in a 5332 is a major or a minor: with two suits of five, and two cards in each
other suit, there would be fourteen cards. -/
theorem fiveCardMajor_iff_of_perm (hl : l.IsOfHand) (hperm : l.toList.Perm [5, 3, 3, 2]) :
    (l.spades = 5 ∨ l.hearts = 5) ∧ 2 ≤ l.diamonds ∧ 2 ≤ l.clubs ↔
      ¬ (l.diamonds = 5 ∨ l.clubs = 5) := by
  have hfive : (5 : Int) ∈ l.toList := hperm.mem_iff.2 (by decide)
  have htwo : ∀ n ∈ [5, 3, 3, 2], (2 : Int) ≤ n := by decide
  have hlow : ∀ suit, 2 ≤ l.get suit :=
    SuitLengths.forall_mem_toList.1 fun n hn => htwo n (hperm.mem_iff.1 hn)
  have hs : 2 ≤ l.spades := hlow .spades
  have hh : 2 ≤ l.hearts := hlow .hearts
  have hd : 2 ≤ l.diamonds := hlow .diamonds
  have hc : 2 ≤ l.clubs := hlow .clubs
  have htotal := hl.total
  simp only [SuitLengths.toList, List.mem_cons, List.not_mem_nil, or_false] at hfive
  simp only [SuitLengths.total, handSize] at htotal
  omega

/-- **The weak no trumps are 4333, 4432, 4441, and 5332 with the five cards in a minor.** -/
theorem mem_weakNoTrump (hl : l.IsOfHand) : l ∈ weakNoTrump.shape.members ↔ l.IsWeakNoTrump := by
  have hshape : weakNoTrump.shape = (anyOrder [4, 4, 3, 2] ∪ anyOrder [4, 3, 3, 3] ∪
      anyOrder [4, 4, 1, 4] ∪ anyOrder [5, 3, 3, 2]) \
        matching [.group [.exactly 5, .joker], .group [.atLeast 2, .atLeast 2]] := rfl
  rw [hshape, mem_diff, mem_noTrumpDistributions, mem_fiveCardMajor hl, or_and_right,
    SuitLengths.IsWeakNoTrump]
  refine or_congr (and_iff_left_of_imp fun h hmajor => ?_) (and_congr_right fun hperm => ?_)
  · exact not_fiveCardMajor_of_perm h hmajor.1
  · rw [fiveCardMajor_iff_of_perm hl hperm, not_not]

/-- **The hands with clubs are those with long clubs.** -/
theorem mem_clubHand (hl : l.IsOfHand) : l ∈ clubHand.shape.members ↔ l.IsLongClub := by
  have hshape : clubHand.shape = (withLongest .clubs \
      matching [.group [.exactly 4, .joker], .suit .joker, .suit (.exactly 5)]) \
        matching [.group (List.replicate 3 (.atMost 5)), .suit (.atLeast 6)] := rfl
  have hlongest : (∀ other, l.get other ≤ l.get .clubs) ↔ ∀ n ∈ l.toList, n ≤ l.clubs :=
    (SuitLengths.forall_mem_toList (P := fun n => n ≤ l.clubs)).symm
  have hthree : Fits [.group (List.replicate 3 (.atMost 5)), .suit (.atLeast 6)] l.toList ↔
      (∀ n ∈ [l.spades, l.hearts, l.diamonds], (SuitPattern.atMost 5).contains n = true) ∧
        Fits [.suit (.atLeast 6)] [l.clubs] := fits_replicate [l.spades, l.hearts, l.diamonds]
  obtain ⟨hs, hh, hd, -⟩ := hl.nonneg
  rw [hshape, mem_diff, mem_diff, mem_withLongest, mem_matching_iff_fits (by decide),
    mem_matching_iff_fits (by decide), hthree, hlongest, SuitLengths.toList, fits_pair]
  simp only [fits_suit, fits_nil, SuitPattern.exactly, SuitPattern.joker, SuitPattern.atLeast,
    SuitPattern.atMost, SuitPattern.contains_exact, SuitPattern.contains_atLeast,
    SuitPattern.contains_atMost, List.forall_mem_cons, List.not_mem_nil, false_imp_iff, implies_true,
    SuitLengths.IsLongClub, SuitLengths.get, hl, true_and, and_true]
  omega

/-- Any distribution will do for a strong hand. -/
theorem mem_strongHand (hl : l.IsOfHand) : l ∈ strongHand.shape.members := by
  have hshape : strongHand.shape =
      matching [.suit .joker, .suit .joker, .suit .joker, .suit .joker] := rfl
  obtain ⟨hs, hh, hd, hc⟩ := hl.nonneg
  rw [hshape, mem_matching_iff_fits (by decide), SuitLengths.toList]
  simp only [fits_suit, fits_nil, SuitPattern.joker, SuitPattern.contains_atLeast]
  exact ⟨hl, hs, hh, hd, hc, trivial⟩

/-! ## The descriptor -/

/-- **The descriptor from its patterns,** which are compiled with a cache at hand. -/
def writtenPolishClub : Caching HandDescriptor := do
  let weak ← HandTypeBuilder.runAll .new
    [.add (.pattern "(4432)"), .add (.pattern "(4333)"), .add (.pattern "(4414)"),
      .add (.pattern "(5332)"), .remove (.pattern "(5x)(2+2+)"), .points 11 14]
  let clubs ← HandTypeBuilder.runAll .new
    [.longest .clubs, .remove (.pattern "(4x)x5"), .remove (.pattern "(5-5-5-)6+"), .points 11 14]
  let strong ← HandTypeBuilder.runAll .new [.add (.pattern "xxxx"), .points 18 37]
  return ⟨[weak.build, strong.build, clubs.build]⟩

theorem computes_writtenPolishClub : Caching.Computes writtenPolishClub (.ok polishClub) := by
  have h4432 : parse "(4432)" = .ok [.group ([4, 4, 3, 2].map .exactly)] :=
    parse_eq_of_decide (by decide +kernel)
  have h4333 : parse "(4333)" = .ok [.group ([4, 3, 3, 3].map .exactly)] :=
    parse_eq_of_decide (by decide +kernel)
  have h4414 : parse "(4414)" = .ok [.group ([4, 4, 1, 4].map .exactly)] :=
    parse_eq_of_decide (by decide +kernel)
  have h5332 : parse "(5332)" = .ok [.group ([5, 3, 3, 2].map .exactly)] :=
    parse_eq_of_decide (by decide +kernel)
  have hmajor : parse "(5x)(2+2+)" =
      .ok [.group [.exactly 5, .joker], .group [.atLeast 2, .atLeast 2]] :=
    parse_eq_of_decide (by decide +kernel)
  have hfive : parse "(4x)x5" =
      .ok [.group [.exactly 4, .joker], .suit .joker, .suit (.exactly 5)] :=
    parse_eq_of_decide (by decide +kernel)
  have hsix : parse "(5-5-5-)6+" =
      .ok [.group [.atMost 5, .atMost 5, .atMost 5], .suit (.atLeast 6)] :=
    parse_eq_of_decide (by decide +kernel)
  have hany : parse "xxxx" = .ok [.suit .joker, .suit .joker, .suit .joker, .suit .joker] :=
    parse_eq_of_decide (by decide +kernel)
  have hweak := isMadeBy_new.add h4432 |>.add h4333 |>.add h4414 |>.add h5332
    |>.remove hmajor |>.withPoints 11 14
  have hclubs := isMadeBy_new.withLongest .clubs |>.remove hfive |>.remove hsix
    |>.withPoints 11 14
  have hstrong := isMadeBy_new.add hany |>.withPoints 18 37
  exact hweak.computes.bind fun weak => hclubs.computes.bind fun clubs =>
    hstrong.computes.bind fun strong =>
      .lift (.ok (⟨[weak.build, strong.build, clubs.build]⟩ : HandDescriptor))

section Hands

variable (hand) (hdeck : hand.cards.subset .deck = true) (hsize : hand.cards.size = handSize)
include hdeck hsize

/-- **The Polish club is opened by the hands that it is said to be opened by.** The descriptor is what
its patterns make of it, with whatever cache, and it has an answer for every hand of thirteen deck
cards. It accepts the hand exactly if it has 18 points or more, or 11 to 14 points and the distribution
of a weak no trump or long clubs. -/
theorem polishClub_accepts_eq (hc : c.Reached) :
    (writtenPolishClub c).1 = .ok polishClub ∧
      polishClub.accepts hand.cards = .ok (decide (18 ≤ hand.points ∨
        (11 ≤ hand.points ∧ hand.points ≤ 14) ∧
          (hand.cards.suitLengths.IsWeakNoTrump ∨ hand.cards.suitLengths.IsLongClub))) := by
  refine ⟨(computes_writtenPolishClub c hc).1, ?_⟩
  have hl := SuitLengths.isOfHand_suitLengths hdeck hsize
  have hpoints := HandType.points_le hdeck hsize
  have hmiddle : (PointRange.ofEnds 11 14).contains hand.points = true ↔
      11 ≤ hand.points ∧ hand.points ≤ 14 := by
    rw [PointRange.contains_ofEnds_iff (by decide) (by decide) (by decide) hpoints]
    omega
  have hhigh : (PointRange.ofEnds 18 37).contains hand.points = true ↔ 18 ≤ hand.points := by
    rw [PointRange.contains_ofEnds_iff (by decide) (by decide) (by decide) hpoints]
    omega
  have hweak : weakNoTrump.points = .ofEnds 11 14 := rfl
  have hstrong : strongHand.points = .ofEnds 18 37 := rfl
  have hclub : clubHand.points = .ofEnds 11 14 := rfl
  rw [HandDescriptor.accepts_eq_any hdeck, polishClub, Except.ok.injEq, Bool.eq_iff_iff,
    decide_eq_true_iff, List.any_eq_true]
  simp only [List.exists_mem_cons_iff, List.not_mem_nil, false_and, exists_false, or_false,
    Bool.and_eq_true, decide_eq_true_iff, mem_weakNoTrump hl, mem_clubHand hl, hweak, hstrong, hclub,
    hmiddle, hhigh, mem_strongHand hl, true_and]
  rw [or_left_comm, ← or_and_right]
  exact or_congr_right and_comm

end Hands

/-- At a balanced hand with five clubs, which opens one club, and one with five spades, which does
not. -/
theorem polishClub_accepts_eq_fives : ShapeCache.Reached .new ∧
    polishClub.accepts ⟨0x481c4004100c200c⟩ = .ok true ∧
    polishClub.accepts ⟨0x001c1004200c6824⟩ = .ok false := by
  have hclubs := polishClub_accepts_eq ⟨⟨0x481c4004100c200c⟩⟩ (by decide) (by decide) .new
  have hspades := polishClub_accepts_eq ⟨⟨0x001c1004200c6824⟩⟩ (by decide) (by decide) .new
  refine ⟨.new, hclubs.2.trans ?_, hspades.2.trans ?_⟩
  · rw [decide_eq_true (by decide)]
  · rw [decide_eq_false (by decide)]

end Opening

end ContractBridge
