/-
What shapes say about hands.

A shape includes a hand if the distribution of the hand is a member, so shapes with the same members
include the same hands. Conversely every distribution that a hand could have is that of a hand,
namely of so many lowest cards of each suit (`suitLengths_lowestHand`), so a member of only one of
two shapes shows as a hand that only one of them includes.

Sets of deck cards of another size lie in the table as well, but their lengths do not add up to
thirteen, and no member of a shape that an expression gives is like that.
-/
import ContractBridge.Proofs.CardSet.Signs
import ContractBridge.Proofs.Shape.Expression

set_option autoImplicit false

namespace ContractBridge

/-- The lowest cards of a suit, so many of them. -/
def Suit.lowest (suit : Suit) (n : Nat) : List Card :=
  (List.range n).map fun (k : Nat) => .ofSuitRank suit.index (k + 2 : Nat)

namespace CardSet

/-- **A hand of a distribution:** the lowest cards of each suit. -/
def lowestHand (l : SuitLengths) : CardSet :=
  ofCards (Suit.all.flatMap fun suit => suit.lowest (l.get suit).toNat)

variable {suit : Suit} {n i : Nat} {card : Card} {l : SuitLengths}

/-! ## The lowest cards of a suit -/

theorem length_lowest : (suit.lowest n).length = n := by
  rw [Suit.lowest, List.length_map, List.length_range]

theorem nodup_lowest : (suit.lowest n).Nodup := by
  refine List.Nodup.map (fun j k h => ?_) List.nodup_range
  have hoffset := congrArg Card.offset h
  simp only [Card.ofSuitRank] at hoffset
  omega

theorem isOfDeck_of_mem_lowest (hn : n ≤ handSize) (h : card ∈ suit.lowest n) : card.IsOfDeck := by
  obtain ⟨k, hk, rfl⟩ := List.mem_map.1 h
  rw [List.mem_range] at hk
  exact ⟨suit, k + 2, by omega, by simp only [handSize] at hn; omega, rfl⟩

/-- The places of the lowest cards of a suit are the first ones of its lane, from the third on. -/
theorem has_ofCards_lowest : (ofCards (suit.lowest n)).has i = true ↔
    laneWidth * suit.index + 2 ≤ i ∧ i < laneWidth * suit.index + 2 + n := by
  simp only [has_ofCards, Suit.lowest, List.mem_map, List.mem_range, exists_exists_and_eq_and,
    Card.place_ofSuitRank]
  constructor
  · rintro ⟨k, hk, rfl⟩
    omega
  · rintro ⟨hlo, hhi⟩
    exact ⟨i - (laneWidth * suit.index + 2), by omega, by omega⟩

/-! ## A hand of every distribution -/

theorem has_lowestHand : (lowestHand l).has i = true ↔
    ∃ suit : Suit, (ofCards (suit.lowest (l.get suit).toNat)).has i = true := by
  simp only [lowestHand, has_ofCards, List.mem_flatMap]
  constructor
  · rintro ⟨card, ⟨suit, -, hcard⟩, hplace⟩
    exact ⟨suit, card, hcard, hplace⟩
  · rintro ⟨suit, card, hcard, hplace⟩
    exact ⟨card, ⟨suit, by cases suit <;> decide, hcard⟩, hplace⟩

section inTable

variable (hl : l.isInTable = true)
include hl

theorem toNat_get_le (suit : Suit) : (l.get suit).toNat ≤ handSize := by
  have hbounds := SuitLengths.forall_mem_toList.1 (SuitLengths.isInTable_iff.1 hl) suit
  omega

theorem lowestHand_subset : (lowestHand l).subset deck = true := by
  refine subset_iff.2 fun i hi => ?_
  obtain ⟨suit, hi⟩ := has_lowestHand.1 hi
  obtain ⟨card, hcard, rfl⟩ := has_ofCards.1 hi
  exact (isOfDeck_of_mem_lowest (toNat_get_le hl suit) hcard).has_deck

/-- The cards of a suit in the hand are the lowest ones of that suit. -/
theorem lane_lowestHand (suit : Suit) :
    (lowestHand l).lane suit.index = ofCards (suit.lowest (l.get suit).toNat) := by
  apply ext
  intro i
  rw [Bool.eq_iff_iff, has_lane, Bool.and_eq_true, decide_eq_true_iff, has_lowestHand]
  simp only [has_ofCards_lowest, laneWidth]
  have hle : ∀ suit, (l.get suit).toNat ≤ 13 := toNat_get_le hl
  constructor
  · rintro ⟨⟨other, hi⟩, hlane⟩
    -- the lowest cards of another suit lie in another lane
    have hother : other = suit := Suit.index_inj (by have := hle other; omega)
    exact hother ▸ hi
  · intro hi
    have := hle suit
    exact ⟨⟨suit, hi⟩, by omega⟩

theorem laneSize_lowestHand (suit : Suit) :
    (lowestHand l).laneSize suit.index = (l.get suit).toNat := by
  rw [laneSize_eq_size_lane (isFinite_deck.of_subset (lowestHand_subset hl)), lane_lowestHand hl,
    size_ofCards (fun card => isOfDeck_of_mem_lowest (toNat_get_le hl suit)) nodup_lowest,
    length_lowest]

/-- **The hand of a distribution has that distribution.** -/
theorem suitLengths_lowestHand : (lowestHand l).suitLengths = l := by
  apply SuitLengths.ext_get
  intro suit
  have hbounds := SuitLengths.forall_mem_toList.1 (SuitLengths.isInTable_iff.1 hl) suit
  rw [get_suitLengths, laneSize_lowestHand hl]
  omega

end inTable

/-- **Distributions of hands are those that hands have.** -/
theorem isOfHand_iff_exists_hand : l.IsOfHand ↔
    ∃ hand : CardSet, hand.subset deck = true ∧ hand.size = handSize ∧ hand.suitLengths = l := by
  constructor
  · intro hl
    have hdeck := lowestHand_subset hl.isInTable
    have hlengths := suitLengths_lowestHand hl.isInTable
    have hsize : ((lowestHand l).size : Int) = handSize := by
      rw [← suitLengths_total hdeck, hlengths, hl.total]
    exact ⟨_, hdeck, Int.ofNat.inj hsize, hlengths⟩
  · rintro ⟨hand, hdeck, hsize, rfl⟩
    exact SuitLengths.isOfHand_suitLengths hdeck hsize

end CardSet

namespace Shape

variable {s t : Shape} {cards : CardSet}

/-- Shapes of hands' distributions have the same members if they include the same hands. -/
theorem sameMembers_iff_hands (hs : ∀ l ∈ s.members, l.IsOfHand)
    (ht : ∀ l ∈ t.members, l.IsOfHand) :
    s.sameMembers t = true ↔ ∀ hand : CardSet, hand.subset .deck = true → hand.size = handSize →
      s.includes hand = t.includes hand := by
  rw [sameMembers_iff]
  constructor
  · intro h hand hdeck _
    simp only [includes_eq_mem _ hdeck, h]
  · intro h l
    -- a distribution that no hand has is a member of neither shape
    by_cases hl : l.IsOfHand
    · obtain ⟨hand, hdeck, hsize, rfl⟩ := CardSet.isOfHand_iff_exists_hand.1 hl
      have hsame := h hand hdeck hsize
      rwa [includes_eq_mem s hdeck, includes_eq_mem t hdeck, Except.ok.injEq, decide_eq_decide]
        at hsame
    · exact ⟨fun hmem => absurd (hs l hmem) hl, fun hmem => absurd (ht l hmem) hl⟩

/-- Only sets of thirteen cards have a distribution of a hand. -/
theorem size_of_suitLengths_mem (hs : ∀ l ∈ s.members, l.IsOfHand)
    (hdeck : cards.subset .deck = true) (hmem : cards.suitLengths ∈ s.members) :
    cards.size = handSize := by
  have htotal := (hs _ hmem).total
  rw [CardSet.suitLengths_total hdeck] at htotal
  exact Int.ofNat.inj htotal

end Shape

namespace ShapeExpr

open Shape

variable {e f : ShapeExpr} {c d : ShapeCache} {s t : Shape}

/-- **Shapes are told apart by hands, and by nothing else.** Two shapes that expressions give, with
whatever caches, are equal exactly if they answer alike for every hand of thirteen deck cards. They
have an answer for every set of deck cards, and for one of another size the answer is no. -/
theorem sameMembers_iff_includes (hc : c.Reached) (hd : d.Reached) (hs : (e.eval c).1 = .ok s)
    (ht : (f.eval d).1 = .ok t) :
    (s.sameMembers t = true ↔ ∀ hand : CardSet, hand.subset .deck = true → hand.size = handSize →
      s.includes hand = t.includes hand) ∧
    ∀ cards : CardSet, cards.subset .deck = true → ∃ member, s.includes cards = .ok member ∧
      (cards.size ≠ handSize → member = false) := by
  have hshand := (represents_of_eval hc hs).isOfHand
  have hthand := (represents_of_eval hd ht).isOfHand
  refine ⟨sameMembers_iff_hands hshand hthand, fun cards hdeck => ⟨_, includes_eq_mem s hdeck, ?_⟩⟩
  exact fun hsize => decide_eq_false fun hmem => hsize (size_of_suitLengths_mem hshand hdeck hmem)

/-- At the hands whose longest suit is hearts and at all hands: thirteen spades tell them apart, and
the empty set is no hand. -/
theorem sameMembers_iff_includes_thirteenSpades :
    ∃ s : Shape, ShapeCache.Reached .new ∧ ((longest 1).eval .new).1 = .ok s ∧
      ((all).eval .new).1 = .ok Shape.all ∧ (CardSet.suitCards .spades).size = handSize ∧
      s.includes (CardSet.suitCards .spades) = .ok false ∧
      Shape.all.includes (CardSet.suitCards .spades) = .ok true ∧
      s.sameMembers .all = false ∧ s.includes ∅ = .ok false := by
  have hdeck : (CardSet.suitCards .spades).subset .deck = true := by decide
  have hsize : (CardSet.suitCards .spades).size = handSize := by decide
  have hspades : (CardSet.suitCards .spades).suitLengths = ⟨13, 0, 0, 0⟩ := by decide
  have hhearts : ((longest 1).eval .new).1 = .ok (withLongest .hearts) := rfl
  have hall : ((all).eval .new).1 = .ok Shape.all := rfl
  have hout : (withLongest .hearts).includes (CardSet.suitCards .spades) = .ok false := by
    rw [includes_eq_mem _ hdeck, hspades, decide_eq_false]
    exact fun hmem => absurd (mem_withLongest.1 hmem).2.1 (by decide)
  have hin : Shape.all.includes (CardSet.suitCards .spades) = .ok true := by
    rw [includes_eq_mem _ hdeck, hspades, decide_eq_true (mem_all.2 (by decide))]
  obtain ⟨hsame, hanswers⟩ := sameMembers_iff_includes .new .new hhearts hall
  obtain ⟨member, hmember, hsmall⟩ := hanswers ∅ (by decide)
  rw [hsmall (by decide)] at hmember
  refine ⟨_, .new, hhearts, hall, hsize, hout, hin, ?_, hmember⟩
  rw [← Bool.not_eq_true, hsame]
  intro hhands
  have halike := hhands _ hdeck hsize
  rw [hout, hin] at halike
  cases halike

end ShapeExpr

end ContractBridge
