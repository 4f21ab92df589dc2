/-
The hands that are refused, and what for.

Making a deal never looks at the whole deck. It counts the cards of each seat and compares them with
those of the seats before, and stops at the first seat where that goes wrong (`IsFirstRefused`). If
it stops nowhere, four times thirteen deck cards were seen and none of them twice, so the hands
divide the deck (`isDivision_iff_not_refused`).

A seat is counted before it is compared: where both go wrong, it is refused for its number of cards
(`IsRefusedFor`). The cards that are named otherwise are all those that were dealt before, and the
message lists them in a form that is read as the same cards.
-/
import ContractBridge.Proofs.CardSet.Forms
import ContractBridge.Proofs.Deal.Session

set_option autoImplicit false

namespace ContractBridge

/-- Cards that all have a mark are named in the refusal of them. -/
theorem Error.ofSharedCards_eq {s : CardSet}
    (hs : ∀ i, s.has i = true → CardSet.deck.has i = true) : ofSharedCards s = .dealtTwice s := by
  rw [ofSharedCards, CardSet.text?_eq_some hs]
  rfl

theorem Error.message?_dealtTwice {s : CardSet}
    (hs : ∀ i, s.has i = true → CardSet.deck.has i = true) :
    ∃ listed, (dealtTwice s).message? = some ("card dealt twice: ".toList ++ listed) ∧
      CardSet.read listed = .ok s := by
  refine ⟨_, ?_, CardSet.read_text hs (CardSet.text_eq_ok hs)⟩
  rw [message?, cardsShown, CardSet.text?_eq_some hs]
  rfl

namespace Hands

variable {hands : Hands} {seat : Seat} {i : Nat}

/-! ## Refused seats -/

/-- A card of a seat that a seat before it has as well. -/
def HasAgain (hands : Hands) (seat : Seat) (i : Nat) : Prop :=
  (hands.get seat).cards.has i = true ∧
    ∃ other, other.index < seat.index ∧ (hands.get other).cards.has i = true

/-- Whether a seat has a wrong number of cards or a card again. -/
def IsRefused (hands : Hands) (seat : Seat) : Prop :=
  (hands.get seat).cards.size ≠ handSize ∨ ∃ i, hands.HasAgain seat i

/-- **The first seat that is refused.** -/
structure IsFirstRefused (hands : Hands) (seat : Seat) : Prop where
  refused : hands.IsRefused seat
  not_before : ∀ other, other.index < seat.index → ¬ hands.IsRefused other

/-- **What a seat is refused for:** the number of its cards, and if that is right, the cards that it
has again, all of them, which the message lists. -/
inductive IsRefusedFor (hands : Hands) (seat : Seat) : Error → Prop
  | size (hsize : (hands.get seat).cards.size ≠ handSize) :
      IsRefusedFor hands seat (.wrongSeatSize seat (hands.get seat).cards.size)
  | again {shared : CardSet} {listed : List Char}
      (hsize : (hands.get seat).cards.size = handSize)
      (hshared : ∀ i, shared.has i = true ↔ hands.HasAgain seat i)
      (hlisted : (Error.dealtTwice shared).message? =
        some ("card dealt twice: ".toList ++ listed))
      (hread : CardSet.read listed = .ok shared) :
      IsRefusedFor hands seat (.dealtTwice shared)

theorem hasAgain_iff : hands.HasAgain seat i ↔
    (hands.before seat ∩ (hands.get seat).cards).has i = true := by
  rw [HasAgain, ← has_before_iff, CardSet.has_inter, Bool.and_eq_true, and_comm]

/-- A seat is refused for one thing only. -/
theorem IsRefusedFor.unique {e e' : Error} (h : hands.IsRefusedFor seat e)
    (h' : hands.IsRefusedFor seat e') : e = e' := by
  cases h with
  | size hsize =>
    cases h' with
    | size => rfl
    | again hsize' => exact absurd hsize' hsize
  | @again shared _ hsize hshared =>
    cases h' with
    | size hsize' => exact absurd hsize hsize'
    | @again shared' _ _ hshared' =>
      have hsame : shared = shared' := by
        ext i
        rw [Bool.eq_iff_iff, hshared, hshared']
      rw [hsame]

theorem exists_isFirstRefused (h : hands.IsRefused seat) : ∃ first, hands.IsFirstRefused first := by
  induction hindex : seat.index using Nat.strongRecOn generalizing seat with
  | ind n ih =>
    by_cases hearlier : ∃ other, other.index < seat.index ∧ hands.IsRefused other
    · obtain ⟨other, hlt, hother⟩ := hearlier
      exact ih _ (hindex ▸ hlt) hother rfl
    · exact ⟨seat, h, fun other hlt hother => hearlier ⟨other, hlt, hother⟩⟩

/-! ## One seat -/

theorem checkSeat_of_not_refused (h : ¬ hands.IsRefused seat) :
    checkSeat seat (hands.get seat) (hands.before seat) =
      .ok (hands.before seat ∪ (hands.get seat).cards) := by
  obtain ⟨hsize, hagain⟩ := not_or.1 h
  refine checkSeat_eq_ok (not_not.1 hsize) fun i hi => ?_
  rw [← Bool.not_eq_true]
  exact fun hhas => hagain ⟨i, hhas, has_before_iff.1 hi⟩

section deckCards

variable (hdeck : ∀ seat i, (hands.get seat).cards.has i = true → CardSet.deck.has i = true)
include hdeck

theorem checkSeat_of_refused (h : hands.IsRefused seat) :
    ∃ e, hands.IsRefusedFor seat e ∧
      checkSeat seat (hands.get seat) (hands.before seat) = .error e := by
  by_cases hsize : (hands.get seat).cards.size = handSize
  · have hshared : ∀ i, (hands.before seat ∩ (hands.get seat).cards).has i = true →
        CardSet.deck.has i = true := fun i hi => hdeck seat i (hasAgain_iff.2 hi).1
    have hsome : ¬ (hands.before seat ∩ (hands.get seat).cards).isEmpty = true := by
      intro hempty
      obtain ⟨i, hi⟩ := h.resolve_left (not_not_intro hsize)
      have hfree := CardSet.inter_isEmpty_iff.1 hempty i (has_before_iff.2 hi.2)
      exact absurd hi.1 (ne_true_of_eq_false hfree)
    obtain ⟨listed, hlisted, hread⟩ := Error.message?_dealtTwice hshared
    refine ⟨_, .again hsize (fun _ => hasAgain_iff.symm) hlisted hread, ?_⟩
    rw [checkSeat, if_neg (not_not_intro hsize), if_neg hsome, Error.ofSharedCards_eq hshared]
  · exact ⟨_, .size hsize, if_pos hsize⟩

/-! ## All seats -/

/-- Hands that are refused nowhere divide the deck. -/
theorem isDivision_iff_not_refused : hands.IsDivision ↔ ∀ seat, ¬ hands.IsRefused seat := by
  constructor
  · rintro h seat (hsize | ⟨i, hi, other, hlt, hother⟩)
    · exact hsize (h.size_eq seat)
    · have hne : other ≠ seat := by
        rintro rfl
        omega
      exact absurd hi (ne_true_of_eq_false (h.has_eq_false hne hother))
  · intro h
    have hbefore : ∀ seat i, (hands.before seat).has i = true →
        (hands.get seat).cards.has i = false := by
      intro seat i hi
      rw [← Bool.not_eq_true]
      exact fun hhas => h seat (.inr ⟨i, hhas, has_before_iff.1 hi⟩)
    exact isDivision_of_apart (fun seat => not_not.1 (not_or.1 (h seat)).1) hdeck
      fun _ _ hne _ hi => apart_of_before hbefore hne hi

/-- **The check stops at the first seat that is refused.** -/
theorem IsFirstRefused.check_eq_error (h : hands.IsFirstRefused seat) :
    ∃ e, hands.IsRefusedFor seat e ∧ hands.check = .error e := by
  obtain ⟨e, hfor, hseat⟩ := checkSeat_of_refused hdeck h.refused
  refine ⟨e, hfor, ?_⟩
  have hpassed : ∀ other, other.index < seat.index →
      checkSeat other (hands.get other) (hands.before other) =
        .ok (hands.before other ∪ (hands.get other).cards) :=
    fun other hlt => checkSeat_of_not_refused (h.not_before other hlt)
  -- the seats before pass, and what they add up to is what the seat is compared with
  cases seat with
  | north => exact except_bind_eq_error_iff.2 (.inl hseat)
  | east =>
    refine except_bind_eq_error_iff.2 (.inr ⟨_, hpassed .north (by decide), ?_⟩)
    exact except_bind_eq_error_iff.2 (.inl hseat)
  | south =>
    refine except_bind_eq_error_iff.2 (.inr ⟨_, hpassed .north (by decide), ?_⟩)
    refine except_bind_eq_error_iff.2 (.inr ⟨_, hpassed .east (by decide), ?_⟩)
    exact except_bind_eq_error_iff.2 (.inl hseat)
  | west =>
    refine except_bind_eq_error_iff.2 (.inr ⟨_, hpassed .north (by decide), ?_⟩)
    refine except_bind_eq_error_iff.2 (.inr ⟨_, hpassed .east (by decide), ?_⟩)
    refine except_bind_eq_error_iff.2 (.inr ⟨_, hpassed .south (by decide), ?_⟩)
    exact except_bind_eq_error_iff.2 (.inl hseat)

theorem check_cases : hands.IsDivision ∧ hands.check = .ok () ∨
    ∃ seat e, hands.IsFirstRefused seat ∧ hands.IsRefusedFor seat e ∧ hands.check = .error e := by
  by_cases hall : ∀ seat, ¬ hands.IsRefused seat
  · have hdivision := (isDivision_iff_not_refused hdeck).2 hall
    exact .inl ⟨hdivision, hdivision.check_eq_ok⟩
  · obtain ⟨seat, hseat⟩ := not_forall.1 hall
    obtain ⟨first, hfirst⟩ := exists_isFirstRefused (not_not.1 hseat)
    obtain ⟨e, hfor, hcheck⟩ := hfirst.check_eq_error hdeck
    exact .inr ⟨first, e, hfirst, hfor, hcheck⟩

/-- Hands of deck cards pass the check exactly if they divide the deck. -/
theorem check_eq_ok_iff : hands.check = .ok () ↔ hands.IsDivision := by
  refine ⟨fun h => ?_, fun h => h.check_eq_ok⟩
  rcases check_cases hdeck with ⟨hdivision, -⟩ | ⟨_, _, -, -, hcheck⟩
  · exact hdivision
  · cases h.symm.trans hcheck

theorem check_eq_error_iff {e : Error} : hands.check = .error e ↔
    ∃ seat, hands.IsFirstRefused seat ∧ hands.IsRefusedFor seat e := by
  constructor
  · intro h
    rcases check_cases hdeck with ⟨-, hcheck⟩ | ⟨seat, e', hfirst, hfor, hcheck⟩
    · cases h.symm.trans hcheck
    · cases h.symm.trans hcheck
      exact ⟨seat, hfirst, hfor⟩
  · rintro ⟨seat, hfirst, hfor⟩
    obtain ⟨e', hfor', hcheck⟩ := hfirst.check_eq_error hdeck
    rw [hcheck, hfor.unique hfor']

end deckCards

end Hands

namespace Deal

/-- **A deal is made of exactly the divisions of the deck.** Four sets of deck cards that are none
are refused at the first seat with a wrong number of cards or a card again. -/
theorem ofHands_iff_isDivision (cards : Seats CardSet)
    (h : ∀ seat, (cards.get seat).subset CardSet.deck = true) (v : Vulnerability) (number : Int) :
    ∃ hands, Hands.ofList (cards.toList.map some) = .ok hands ∧
      (∀ seat, (hands.get seat).cards = cards.get seat) ∧
      (∀ d, ofHands hands v number = .ok d ↔ hands.IsDivision ∧ d = ⟨hands, v, number⟩) ∧
      ∀ e, ofHands hands v number = .error e ↔
        ∃ seat, hands.IsFirstRefused seat ∧ hands.IsRefusedFor seat e := by
  refine ⟨cards.map Hand.mk, rfl, fun seat => by rw [Seats.get_map], ?_, ?_⟩
  all_goals
    have hdeck : ∀ seat i, ((cards.map Hand.mk).get seat).cards.has i = true →
        CardSet.deck.has i = true := by
      intro seat i hi
      rw [Seats.get_map] at hi
      exact CardSet.subset_iff.1 (h seat) i hi
  · intro d
    rw [ofHands, except_bind_pure_eq_ok_iff, ← Hands.check_eq_ok_iff hdeck]
    constructor
    · rintro ⟨⟨⟩, hcheck, rfl⟩
      exact ⟨hcheck, rfl⟩
    · rintro ⟨hcheck, rfl⟩
      exact ⟨(), hcheck, rfl⟩
  · intro e
    rw [ofHands, except_bind_eq_error_iff, ← Hands.check_eq_error_iff hdeck]
    constructor
    · rintro (hcheck | ⟨_, -, hpure⟩)
      · exact hcheck
      · cases hpure
    · exact .inl

/-- The spades for north and for south, the hearts for east and nothing for west. -/
def spadesTwice : Seats CardSet := ⟨.suitCards .spades, .suitCards .hearts, .suitCards .spades, ∅⟩

/-- At these hands the first seat that is refused is refused for all the spades, which were dealt
before. -/
theorem ofHands_spadesTwice : (∀ seat, (spadesTwice.get seat).subset CardSet.deck = true) ∧
    ∃ seat, Hands.IsFirstRefused (spadesTwice.map Hand.mk) seat ∧
      Hands.IsRefusedFor (spadesTwice.map Hand.mk) seat (.dealtTwice (.suitCards .spades)) := by
  have hdeck : ∀ seat, (spadesTwice.get seat).subset CardSet.deck = true := by
    intro seat
    cases seat <;> decide
  obtain ⟨_, hlist, -, -, herror⟩ := ofHands_iff_isDivision spadesTwice hdeck .none 1
  cases hlist
  exact ⟨hdeck, (herror _).1 rfl⟩

end Deal

end ContractBridge
