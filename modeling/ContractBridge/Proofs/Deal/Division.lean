/-
Four hands that divide the deck.

`Hands.IsDivision` is what "a deal" means on the table: thirteen cards at every seat, no card at
two seats, and all cards of the deck and no others. Four hands of thirteen deck cards without a
common card are already a division, because fifty-two deck cards are all of them; so the last
clause costs a producer of hands nothing (`isDivision_of_apart`).

The hands are taken up seat by seat, as making a deal checks them: `Hands.before` is what was seen
when it comes to a seat. Hands of thirteen that have no card of the seats before pass the check
(`check_eq_ok`), whether or not their cards are deck cards; so a division passes it.
-/
import ContractBridge.Deal
import ContractBridge.Proofs.CardSet.Lengths
import ContractBridge.Proofs.Sequence

set_option autoImplicit false

namespace ContractBridge

theorem Seat.exists_iff {p : Seat → Prop} :
    (∃ seat, p seat) ↔ p .north ∨ p .east ∨ p .south ∨ p .west := by
  constructor
  · rintro ⟨seat, h⟩
    match seat, h with
    | .north, h => exact .inl h
    | .east, h => exact .inr (.inl h)
    | .south, h => exact .inr (.inr (.inl h))
    | .west, h => exact .inr (.inr (.inr h))
  · rintro (h | h | h | h) <;> exact ⟨_, h⟩

namespace Hands

variable {hands : Hands}

/-! ## Seat by seat -/

/-- The cards of the seats before a seat. -/
def before (hands : Hands) : Seat → CardSet
  | .north => ∅
  | .east => ∅ ∪ hands.north.cards
  | .south => ∅ ∪ hands.north.cards ∪ hands.east.cards
  | .west => ∅ ∪ hands.north.cards ∪ hands.east.cards ∪ hands.south.cards

theorem has_before_iff {seat : Seat} {i : Nat} : (hands.before seat).has i = true ↔
    ∃ other, other.index < seat.index ∧ (hands.get other).cards.has i = true := by
  rw [Seat.exists_iff]
  cases seat <;>
    simp only [before, CardSet.has_union, CardSet.has_empty, Bool.or_eq_true, Seat.index,
      Seats.get] <;> simp [or_assoc]

/-- Hands that have no card of the seats before are apart, whichever seat comes first. -/
theorem apart_of_before (h : ∀ seat i, (hands.before seat).has i = true →
      (hands.get seat).cards.has i = false) {seat other : Seat} (hne : seat ≠ other) {i : Nat}
    (hi : (hands.get seat).cards.has i = true) : (hands.get other).cards.has i = false := by
  -- whichever of the two comes later has none of the other's cards
  rcases Nat.lt_trichotomy seat.index other.index with hlt | heq | hgt
  · exact h other i (has_before_iff.2 ⟨seat, hlt, hi⟩)
  · exact absurd (Seat.index_inj heq) hne
  · rw [← Bool.not_eq_true]
    intro hother
    rw [h seat i (has_before_iff.2 ⟨other, hgt, hother⟩)] at hi
    cases hi

theorem before_of_apart (h : ∀ seat other, seat ≠ other →
      ∀ i, (hands.get seat).cards.has i = true → (hands.get other).cards.has i = false)
    (seat : Seat) (i : Nat) (hi : (hands.before seat).has i = true) :
    (hands.get seat).cards.has i = false := by
  obtain ⟨other, hlt, hother⟩ := has_before_iff.1 hi
  exact h other seat (by rintro rfl; omega) i hother

/-- The cards of all seats. -/
def cards (hands : Hands) : CardSet := hands.before .west ∪ hands.west.cards

theorem has_cards_iff {i : Nat} :
    hands.cards.has i = true ↔ ∃ seat, (hands.get seat).cards.has i = true := by
  rw [Seat.exists_iff]
  simp only [cards, before, CardSet.has_union, CardSet.has_empty, Bool.or_eq_true, Seats.get]
  simp [or_assoc]

/-- Hands that have no card of the seats before hold as many cards together as one by one. -/
theorem size_cards (hfinite : ∀ seat, (hands.get seat).cards.IsFinite)
    (hapart : ∀ seat i, (hands.before seat).has i = true →
      (hands.get seat).cards.has i = false) :
    hands.cards.size = (hands.get .north).cards.size + (hands.get .east).cards.size +
      (hands.get .south).cards.size + (hands.get .west).cards.size := by
  have hbefore : ∀ seat, (hands.before seat).IsFinite := by
    intro seat
    have hempty : (∅ : CardSet).IsFinite := by decide
    have hnorth := hempty.union (hfinite .north)
    have heast := hnorth.union (hfinite .east)
    cases seat with
    | north => exact hempty
    | east => exact hnorth
    | south => exact heast
    | west => exact heast.union (hfinite .south)
  -- each seat adds its cards to those of the seats before it
  have hadd : ∀ seat, (hands.before seat ∪ (hands.get seat).cards).size =
      (hands.before seat).size + (hands.get seat).cards.size :=
    fun seat => CardSet.size_union (hbefore seat) (hfinite seat) (hapart seat)
  have hnorth : (hands.before .north).size = 0 := CardSet.size_empty
  have heast : (hands.before .east).size = _ := hadd .north
  have hsouth : (hands.before .south).size = _ := hadd .east
  have hwest : (hands.before .west).size = _ := hadd .south
  have hall : hands.cards.size = _ := hadd .west
  omega

/-! ## Divisions -/

/-- **The hands divide the deck** into four times thirteen cards. -/
structure IsDivision (hands : Hands) : Prop where
  size_eq : ∀ seat, (hands.get seat).cards.size = handSize
  apart : ∀ seat other, seat ≠ other → (hands.get seat).cards ∩ (hands.get other).cards = ∅
  covers : hands.cards = CardSet.deck

theorem IsDivision.has_deck_iff (h : hands.IsDivision) {i : Nat} :
    CardSet.deck.has i = true ↔ ∃ seat, (hands.get seat).cards.has i = true := by
  rw [← h.covers]
  exact has_cards_iff

theorem IsDivision.has_deck (h : hands.IsDivision) {seat : Seat} {i : Nat}
    (hi : (hands.get seat).cards.has i = true) : CardSet.deck.has i = true :=
  h.has_deck_iff.2 ⟨seat, hi⟩

theorem IsDivision.isFinite (h : hands.IsDivision) (seat : Seat) :
    (hands.get seat).cards.IsFinite :=
  CardSet.isFinite_deck.of_has_imp fun _ hi => h.has_deck hi

/-- Nobody else holds a card that a seat holds. -/
theorem IsDivision.has_eq_false (h : hands.IsDivision) {seat other : Seat} (hne : seat ≠ other)
    {i : Nat} (hi : (hands.get seat).cards.has i = true) :
    (hands.get other).cards.has i = false := by
  have hempty := CardSet.isEmpty_iff.2 (h.apart seat other hne)
  exact CardSet.inter_isEmpty_iff.1 hempty i hi

/-- **Four times thirteen deck cards, none of them twice, are the whole deck.** -/
theorem isDivision_of_apart (hsize : ∀ seat, (hands.get seat).cards.size = handSize)
    (hdeck : ∀ seat i, (hands.get seat).cards.has i = true → CardSet.deck.has i = true)
    (hapart : ∀ seat other, seat ≠ other →
      ∀ i, (hands.get seat).cards.has i = true → (hands.get other).cards.has i = false) :
    hands.IsDivision where
  size_eq := hsize
  apart seat other hne :=
    CardSet.isEmpty_iff.1 (CardSet.inter_isEmpty_iff.2 (hapart seat other hne))
  covers := by
    have hfinite : ∀ seat, (hands.get seat).cards.IsFinite :=
      fun seat => CardSet.isFinite_deck.of_has_imp (hdeck seat)
    have hall := size_cards hfinite (before_of_apart hapart)
    rw [hsize, hsize, hsize, hsize] at hall
    apply CardSet.eq_of_subset_of_size_le CardSet.isFinite_deck
    · intro i hi
      obtain ⟨seat, hseat⟩ := has_cards_iff.1 hi
      exact hdeck seat i hseat
    · rw [CardSet.size_deck, hall]
      decide

/-! ## The checks of a deal -/

theorem checkSeat_eq_ok {seat : Seat} (hsize : (hands.get seat).cards.size = handSize)
    (hapart : ∀ i, (hands.before seat).has i = true → (hands.get seat).cards.has i = false) :
    checkSeat seat (hands.get seat) (hands.before seat) =
      .ok (hands.before seat ∪ (hands.get seat).cards) := by
  rw [checkSeat, if_neg (not_not_intro hsize), if_pos (CardSet.inter_isEmpty_iff.2 hapart)]

/-- **Hands of thirteen cards that have no card of the seats before can be a deal.** -/
theorem check_eq_ok (hsize : ∀ seat, (hands.get seat).cards.size = handSize)
    (hapart : ∀ seat i, (hands.before seat).has i = true →
      (hands.get seat).cards.has i = false) : hands.check = .ok () := by
  refine except_bind_eq_ok_iff.2 ⟨_, checkSeat_eq_ok (hsize .north) (hapart .north), ?_⟩
  refine except_bind_eq_ok_iff.2 ⟨_, checkSeat_eq_ok (hsize .east) (hapart .east), ?_⟩
  refine except_bind_eq_ok_iff.2 ⟨_, checkSeat_eq_ok (hsize .south) (hapart .south), ?_⟩
  exact except_bind_eq_ok_iff.2 ⟨_, checkSeat_eq_ok (hsize .west) (hapart .west), rfl⟩

/-- **A division is a deal.** -/
theorem IsDivision.check_eq_ok (h : hands.IsDivision) : hands.check = .ok () :=
  Hands.check_eq_ok h.size_eq (before_of_apart fun _ _ hne _ hi => h.has_eq_false hne hi)

end Hands

end ContractBridge
