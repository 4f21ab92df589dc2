/-
The squares of deck cards.

A grid is filled card by card, while it is read row by row and column by column. The cards of the
deck and the squares of the grid correspond one to one (`has_deck_iff_square`), so for a set of deck
cards the two meet: every card finds its square, and a square is taken exactly if its card is in the
set (`toGrid_eq`). Sums over the cards of such a set may be taken over the squares instead
(`sum_places`).
-/
import Mathlib.Algebra.BigOperators.Group.Finset.Sigma
import ContractBridge.CardSet.Grid
import ContractBridge.Proofs.CardSet.Climbing
import ContractBridge.Proofs.CardSet.Counting
import ContractBridge.Proofs.CardSet.Signs

set_option autoImplicit false

namespace ContractBridge.CardSet

variable {s : CardSet} {suit : Suit} {column i : Nat}

/-! ## Squares and places -/

/-- The place of the card on a square. -/
def squarePlace (suit : Suit) (column : Nat) : Nat := 14 - column + laneWidth * suit.index

/-- **The places of the deck are those of the squares.** -/
theorem has_deck_iff_square :
    deck.has i = true ↔ ∃ suit column, column < handSize ∧ squarePlace suit column = i := by
  rw [has_deck, decide_eq_true_iff]
  simp only [squarePlace, laneWidth, handSize]
  constructor
  · rintro ⟨hi, hlo, hhi⟩
    obtain ⟨suit, hsuit⟩ := Suit.exists_index_eq (n := i / 16) (by omega)
    exact ⟨suit, 14 - i % 16, by omega, by omega⟩
  · rintro ⟨suit, column, hcolumn, rfl⟩
    have := suit.index_lt_four
    omega

/-- Different squares have different places. -/
theorem squarePlace_inj {other : Suit} {column' : Nat} (hcolumn : column < handSize)
    (hcolumn' : column' < handSize) (h : squarePlace suit column = squarePlace other column') :
    suit = other ∧ column = column' := by
  simp only [squarePlace, laneWidth, handSize] at hcolumn hcolumn' h
  exact ⟨Suit.index_inj (by omega), by omega⟩

/-- The square is in the lane of its suit and in no other. -/
theorem squarePlace_lane_iff {other : Suit} (hcolumn : column < handSize) :
    (laneWidth * suit.index ≤ squarePlace other column ∧
      squarePlace other column < laneWidth * suit.index + laneWidth) ↔ other = suit := by
  simp only [squarePlace, laneWidth, handSize] at hcolumn ⊢
  constructor
  · intro h
    exact Suit.index_inj (by omega)
  · rintro rfl
    omega

/-- The square of a card of the deck. -/
def squareOf (c : Card) : Suit × Nat := (c.suit?.getD .spades, 14 - c.rank)

/-- The card at the place of a square has that square. -/
theorem square_squarePlace (hcolumn : column < handSize) :
    square ⟨squarePlace suit column⟩ = .ok (suit, column) ∧
      squareOf ⟨squarePlace suit column⟩ = (suit, column) := by
  simp only [handSize] at hcolumn
  have hcard : (⟨squarePlace suit column⟩ : Card) =
      .ofSuitRank suit.index (14 - column : Nat) := rfl
  have hback : 14 - (14 - column) = column := by omega
  have hsuit : (Card.ofSuitRank suit.index (14 - column : Nat)).suit? = some suit :=
    Card.suit?_ofSuitRank (Nat.sub_le 14 column)
  have hrank : (Card.ofSuitRank suit.index (14 - column : Nat)).rank = 14 - column :=
    Card.rank_ofSuitRank (by omega) (Nat.sub_le 14 column)
  have hcolumn? : column? (14 - column) = some column := by
    rw [column?, if_neg (by omega), if_pos (by omega), hback]
  constructor
  · rw [square, hcard, Card.suit, hsuit, hrank, hcolumn?]
    rfl
  · rw [squareOf, hcard, hsuit, hrank, hback]
    rfl

/-! ## The grid of a set -/

/-- The squares that a set takes. -/
def squares (s : CardSet) : Grid :=
  Suit.all.map fun suit => (List.range handSize).map fun column => s.has (squarePlace suit column)

section deckCards

variable (hs : s.subset deck = true)
include hs

theorem mapM_square : s.gridCards.mapM square = .ok (s.toList.map squareOf) := by
  have hfinite : s.IsFinite := isFinite_deck.of_subset hs
  have hcards : s.gridCards = s.toList := if_pos hfinite
  rw [hcards]
  refine mapM_eq_pure_map fun c hc => ?_
  obtain ⟨i, hi, rfl⟩ := ((listsUp_toList hfinite).mem_iff c).1 hc
  obtain ⟨suit, column, hcolumn, rfl⟩ := has_deck_iff_square.1 (subset_iff.1 hs i hi)
  rw [(square_squarePlace hcolumn).1, (square_squarePlace hcolumn).2]
  rfl

theorem mem_map_squareOf (hcolumn : column < handSize) :
    (suit, column) ∈ s.toList.map squareOf ↔ s.has (squarePlace suit column) = true := by
  have hlists := listsUp_toList (isFinite_deck.of_subset hs)
  rw [List.mem_map]
  constructor
  · rintro ⟨c, hc, hsquare⟩
    obtain ⟨i, hi, rfl⟩ := (hlists.mem_iff c).1 hc
    obtain ⟨other, column', hcolumn', rfl⟩ := has_deck_iff_square.1 (subset_iff.1 hs i hi)
    rw [(square_squarePlace hcolumn').2] at hsquare
    cases hsquare
    exact hi
  · intro hi
    exact ⟨_, (hlists.mem_iff _).2 ⟨_, hi, rfl⟩, (square_squarePlace hcolumn).2⟩

/-- **A square of the grid is taken exactly if the set has its card.** -/
theorem toGrid_eq : s.toGrid = .ok s.squares := by
  refine except_bind_eq_ok_iff.2 ⟨_, mapM_square hs, congrArg Except.ok ?_⟩
  refine List.map_congr_left fun suit _ => List.map_congr_left fun column hcolumn => ?_
  rw [Bool.eq_iff_iff, List.contains_iff_mem]
  exact mem_map_squareOf hs (List.mem_range.1 hcolumn)

/-- **A sum over the cards of a set is one over the squares that it takes.** -/
theorem sum_places (f : Nat → Int) : ∑ i ∈ s.places, f i =
    ∑ column ∈ Finset.range handSize, ∑ suit : Suit,
      if s.has (squarePlace suit column) = true then f (squarePlace suit column) else 0 := by
  have hfinite : s.IsFinite := isFinite_deck.of_subset hs
  rw [← Finset.sum_product', ← Finset.sum_filter]
  symm
  refine Finset.sum_nbij (fun q => squarePlace q.2 q.1) ?_ ?_ ?_ fun _ _ => rfl
  · intro q hq
    exact (mem_places hfinite).2 (Finset.mem_filter.1 hq).2
  · rintro ⟨column, suit⟩ hq ⟨column', other⟩ hq' h
    simp only [Finset.coe_filter, Finset.mem_product, Finset.mem_range, Set.mem_ofPred_eq] at hq hq'
    obtain ⟨rfl, rfl⟩ := squarePlace_inj hq.1.1 hq'.1.1 h
    rfl
  · intro i hi
    have hi := (mem_places hfinite).1 hi
    obtain ⟨suit, column, hcolumn, rfl⟩ := has_deck_iff_square.1 (subset_iff.1 hs i hi)
    refine ⟨(column, suit), ?_, rfl⟩
    simp only [Finset.coe_filter, Finset.mem_product, Finset.mem_range, Finset.mem_univ,
      Set.mem_ofPred_eq]
    exact ⟨⟨hcolumn, trivial⟩, hi⟩

end deckCards

end ContractBridge.CardSet
