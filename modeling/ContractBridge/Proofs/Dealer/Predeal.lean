/-
Predealing to a dealer under construction.

Every card of the deck is either still in the builder's deck or predealt to a seat. That no card is
in two of these places is another matter: a call that predeals a seat again returns the cards of
the seat to the deck before it looks at the new ones, and if the new ones are refused they stay
there, although the seat still holds them. `FreesCards` names these calls.

So two things are proved of the builder after any calls. The hands and the deck together are the
whole deck, whatever was refused (`IsComplete`); and no card is in two places as long as no call
has freed cards (`IsApart`). Each is a step lemma over one call, then the run. A refused call that
frees no cards changes nothing.
-/
import ContractBridge.Dealer.Builder
import ContractBridge.Proofs.Deal.Division

set_option autoImplicit false

namespace ContractBridge

namespace DealerBuilder

variable {b b' : DealerBuilder} {seat : Seat} {cards : CardSet} {e : Error} {i : Nat}

/-! ## What is predealt -/

/-- The cards that a seat is predealt. -/
def held (b : DealerBuilder) (seat : Seat) : CardSet := (b.hands.get seat).getD ∅

/-- The predealt cards, laid out as hands. -/
def heldHands (b : DealerBuilder) : Hands := .ofFn fun seat => ⟨b.held seat⟩

@[simp] theorem get_heldHands (b : DealerBuilder) (seat : Seat) :
    (b.heldHands.get seat).cards = b.held seat := by
  rw [heldHands, Seats.get_ofFn]

theorem has_heldHands_iff : b.heldHands.cards.has i = true ↔ ∃ s, (b.held s).has i = true := by
  rw [Hands.has_cards_iff]
  simp only [get_heldHands]

theorem has_returned_iff :
    (b.returned seat).has i = true ↔ b.deck.has i = true ∨ (b.held seat).has i = true := by
  rw [returned, held]
  cases b.hands.get seat with
  | none => simp only [Option.getD_none, CardSet.has_empty, Bool.false_eq_true, or_false]
  | some old => rw [Option.getD_some, CardSet.has_union, Bool.or_eq_true]

/-- A seat without cards returns none. -/
theorem returned_of_get_eq_none (h : b.hands.get seat = none) : b.returned seat = b.deck := by
  rw [returned, h]

/-! ## One call -/

/-- The builder with the cards of a seat in its deck again. -/
def withReturned (b : DealerBuilder) (seat : Seat) : DealerBuilder :=
  { b with deck := b.returned seat }

/-- The builder with some cards moved from its deck, or from what the seat held, to the seat. -/
def withPredeal (b : DealerBuilder) (seat : Seat) (cards : CardSet) : DealerBuilder :=
  { b with deck := b.returned seat \ cards, hands := b.hands.set seat (some cards) }

theorem predeal_of_lt (h : handSize < cards.size) :
    predeal seat cards b = .error (.predealTooLarge seat cards.size) b := by
  rw [predeal, if_pos h]

theorem predeal_of_subset (hsize : cards.size ≤ handSize)
    (h : cards.subset (b.returned seat) = true) :
    predeal seat cards b = .ok () (b.withPredeal seat cards) := by
  rw [predeal, if_neg (Nat.not_lt.2 hsize)]
  exact if_pos h

theorem predeal_of_not_subset (hsize : cards.size ≤ handSize)
    (h : cards.subset (b.returned seat) = false) :
    predeal seat cards b =
      .error (.ofSharedCards (cards \ b.returned seat)) (b.withReturned seat) := by
  rw [predeal, if_neg (Nat.not_lt.2 hsize)]
  exact if_neg (ne_true_of_eq_false h)

/-- A call: the seat and the cards as they are handed over. -/
structure Call where
  seat : Literal
  cards : Option CardSet

/-- **A call made.** What names no seat, or is no card set, is refused before the builder is
touched. -/
def Call.run (c : Call) : EStateM Error DealerBuilder Unit := fun b =>
  match neededCards c.seat c.cards with
  | .error e => .error e b
  | .ok (seat, cards) => predeal seat cards b

/-- The builder after a call, refused or not. -/
def after (b : DealerBuilder) (c : Call) : DealerBuilder :=
  match c.run b with
  | .ok _ b' => b'
  | .error _ b' => b'

/-- **Whether a call frees cards that the seat keeps:** the seat has been predealt, and the new
cards are refused because they are not to be had. -/
def FreesCards (b : DealerBuilder) (c : Call) : Prop :=
  ∃ seat cards, neededCards c.seat c.cards = .ok (seat, cards) ∧ b.replaces seat cards = true ∧
    cards.subset (b.returned seat) = false

theorem Call.run_of_error {c : Call} (h : neededCards c.seat c.cards = .error e) :
    c.run b = .error e b := by
  unfold Call.run
  rw [h]

theorem Call.run_of_ok {c : Call} (h : neededCards c.seat c.cards = .ok (seat, cards)) :
    c.run b = predeal seat cards b := by
  unfold Call.run
  rw [h]

theorem freesCards_iff {c : Call} (h : neededCards c.seat c.cards = .ok (seat, cards)) :
    b.FreesCards c ↔
      b.replaces seat cards = true ∧ cards.subset (b.returned seat) = false := by
  constructor
  · rintro ⟨_, _, hok, hfreed⟩
    rw [h] at hok
    cases hok
    exact hfreed
  · exact fun hfreed => ⟨seat, cards, h, hfreed⟩

/-- **What a call does.** It is refused and changes nothing; or the seat has the new cards; or it is
refused and the old cards of the seat are freed. -/
theorem run_cases (b : DealerBuilder) (c : Call) :
    (¬ b.FreesCards c ∧ ∃ e, c.run b = .error e b) ∨
      (∃ seat cards, cards.size ≤ handSize ∧ cards.subset (b.returned seat) = true ∧
        c.run b = .ok () (b.withPredeal seat cards)) ∨
      b.FreesCards c ∧ ∃ seat cards e, neededCards c.seat c.cards = .ok (seat, cards) ∧
        c.run b = .error e (b.withReturned seat) := by
  cases hneeded : neededCards c.seat c.cards with
  | error e =>
    refine .inl ⟨?_, e, Call.run_of_error hneeded⟩
    rintro ⟨_, _, hok, -⟩
    rw [hneeded] at hok
    cases hok
  | ok needed =>
    obtain ⟨seat, cards⟩ := needed
    rw [Call.run_of_ok hneeded, freesCards_iff hneeded, replaces, Bool.and_eq_true,
      decide_eq_true_eq]
    rcases Nat.lt_or_ge handSize cards.size with hlt | hsize
    · exact .inl ⟨fun hfreed => absurd hfreed.1.1 (Nat.not_le.2 hlt), _, predeal_of_lt hlt⟩
    · cases hsubset : cards.subset (b.returned seat) with
      | true => exact .inr (.inl ⟨seat, cards, hsize, hsubset, predeal_of_subset hsize hsubset⟩)
      | false =>
        have hrun := predeal_of_not_subset hsize hsubset
        cases hget : b.hands.get seat with
        | none =>
          -- a seat without cards has none to free
          rw [withReturned, returned_of_get_eq_none hget] at hrun
          exact .inl ⟨fun hfreed => Bool.noConfusion hfreed.1.2, _, hrun⟩
        | some _ => exact .inr (.inr ⟨⟨⟨hsize, rfl⟩, rfl⟩, seat, cards, _, rfl, hrun⟩)

/-- What a call makes of the builder. -/
theorem after_cases (b : DealerBuilder) (c : Call) :
    b.after c = b ∨
      (∃ seat cards, cards.size ≤ handSize ∧ cards.subset (b.returned seat) = true ∧
        b.after c = b.withPredeal seat cards) ∨
      b.FreesCards c ∧ ∃ seat, b.after c = b.withReturned seat := by
  unfold after
  rcases run_cases b c with ⟨-, e, h⟩ | ⟨seat, cards, hsize, hsubset, h⟩ |
    ⟨hfrees, seat, cards, e, -, h⟩
  · rw [h]
    exact .inl rfl
  · rw [h]
    exact .inr (.inl ⟨seat, cards, hsize, hsubset, rfl⟩)
  · rw [h]
    exact .inr (.inr ⟨hfrees, seat, rfl⟩)

/-! ## No card is lost -/

/-- **The deck and the predealt cards are the whole deck together,** and no seat has more than
thirteen. -/
structure IsComplete (b : DealerBuilder) : Prop where
  size_le : ∀ s, (b.held s).size ≤ handSize
  has_deck_iff : ∀ i, CardSet.deck.has i = true ↔
    b.deck.has i = true ∨ ∃ s, (b.held s).has i = true

/-- **No card is in two places:** it is in the deck or predealt to one seat. -/
structure IsApart (b : DealerBuilder) : Prop where
  held_apart : ∀ s o, s ≠ o → ∀ i, (b.held s).has i = true → (b.held o).has i = false
  deck_apart : ∀ s i, (b.held s).has i = true → b.deck.has i = false

theorem held_withPredeal (b : DealerBuilder) (seat s : Seat) (cards : CardSet) :
    (b.withPredeal seat cards).held s = if s = seat then cards else b.held s := by
  rw [held, withPredeal, Seats.get_set]
  by_cases h : s = seat
  · rw [if_pos h, if_pos h, Option.getD_some]
  · rw [if_neg h, if_neg h, held]

theorem held_withPredeal_self (b : DealerBuilder) (seat : Seat) (cards : CardSet) :
    (b.withPredeal seat cards).held seat = cards := by
  rw [held_withPredeal, if_pos rfl]

theorem held_withPredeal_of_ne {s : Seat} (h : s ≠ seat) :
    (b.withPredeal seat cards).held s = b.held s := by
  rw [held_withPredeal, if_neg h]

theorem has_deck_withPredeal_iff : (b.withPredeal seat cards).deck.has i = true ↔
    (b.returned seat).has i = true ∧ cards.has i = false := by
  rw [withPredeal, CardSet.has_diff, Bool.and_eq_true, Bool.not_eq_true']

theorem IsComplete.has_deck_of_returned (h : b.IsComplete)
    (hi : (b.returned seat).has i = true) : CardSet.deck.has i = true := by
  rw [h.has_deck_iff]
  rcases has_returned_iff.1 hi with hi | hi
  · exact .inl hi
  · exact .inr ⟨seat, hi⟩

theorem IsComplete.withReturned (h : b.IsComplete) (seat : Seat) :
    (b.withReturned seat).IsComplete where
  size_le := h.size_le
  has_deck_iff i := by
    constructor
    · intro hi
      rcases (h.has_deck_iff i).1 hi with hi | hi
      · exact .inl (has_returned_iff.2 (.inl hi))
      · exact .inr hi
    · rintro (hi | hi)
      · exact h.has_deck_of_returned hi
      · exact (h.has_deck_iff i).2 (.inr hi)

theorem IsComplete.withPredeal (h : b.IsComplete) (hsize : cards.size ≤ handSize)
    (hsubset : cards.subset (b.returned seat) = true) :
    (b.withPredeal seat cards).IsComplete where
  size_le s := by
    by_cases hs : s = seat
    · rw [hs, held_withPredeal_self]
      exact hsize
    · rw [held_withPredeal_of_ne hs]
      exact h.size_le s
  has_deck_iff i := by
    rw [has_deck_withPredeal_iff]
    constructor
    · intro hi
      -- a card of the new hand is with the seat; any other stays, or returns to the deck
      cases hcards : cards.has i with
      | true =>
        refine .inr ⟨seat, ?_⟩
        rw [held_withPredeal_self]
        exact hcards
      | false =>
        rcases (h.has_deck_iff i).1 hi with hi | ⟨s, hi⟩
        · exact .inl ⟨has_returned_iff.2 (.inl hi), rfl⟩
        · by_cases hs : s = seat
          · exact .inl ⟨has_returned_iff.2 (.inr (hs ▸ hi)), rfl⟩
          · refine .inr ⟨s, ?_⟩
            rw [held_withPredeal_of_ne hs]
            exact hi
    · rintro (⟨hi, -⟩ | ⟨s, hi⟩)
      · exact h.has_deck_of_returned hi
      · by_cases hs : s = seat
        · rw [hs, held_withPredeal_self] at hi
          exact h.has_deck_of_returned (CardSet.subset_iff.1 hsubset i hi)
        · rw [held_withPredeal_of_ne hs] at hi
          exact (h.has_deck_iff i).2 (.inr ⟨s, hi⟩)

theorem IsApart.withPredeal (h : b.IsApart) (hsubset : cards.subset (b.returned seat) = true) :
    (b.withPredeal seat cards).IsApart where
  held_apart := by
    -- the others have none of the cards that come from the deck or from the seat itself
    have hothers : ∀ o, o ≠ seat → ∀ i, cards.has i = true → (b.held o).has i = false := by
      intro o ho i hi
      rcases has_returned_iff.1 (CardSet.subset_iff.1 hsubset i hi) with hdeck | hseat
      · cases hheld : (b.held o).has i with
        | false => rfl
        | true => rw [h.deck_apart o i hheld] at hdeck; cases hdeck
      · exact h.held_apart seat o (Ne.symm ho) i hseat
    -- either seat may be the one that is predealt
    intro s o hne i hi
    by_cases hs : s = seat
    · rw [hs, held_withPredeal_self] at hi
      rw [held_withPredeal_of_ne (hs ▸ Ne.symm hne)]
      exact hothers o (hs ▸ Ne.symm hne) i hi
    · rw [held_withPredeal_of_ne hs] at hi
      by_cases ho : o = seat
      · rw [ho, held_withPredeal_self]
        cases hcards : cards.has i with
        | false => rfl
        | true => rw [hothers s hs i hcards] at hi; cases hi
      · rw [held_withPredeal_of_ne ho]
        exact h.held_apart s o hne i hi
  deck_apart s i hi := by
    rw [← Bool.not_eq_true, has_deck_withPredeal_iff]
    rintro ⟨hreturned, hcards⟩
    by_cases hs : s = seat
    · rw [hs, held_withPredeal_self, hcards] at hi
      cases hi
    · rw [held_withPredeal_of_ne hs] at hi
      rcases has_returned_iff.1 hreturned with hdeck | hseat
      · rw [h.deck_apart s i hi] at hdeck
        cases hdeck
      · rw [h.held_apart seat s (Ne.symm hs) i hseat] at hi
        cases hi

/-! ## Any calls -/

/-- The builder after some calls, refused or not. -/
def afterAll (b : DealerBuilder) : List Call → DealerBuilder
  | [] => b
  | c :: calls => (b.after c).afterAll calls

/-- Whether no call frees cards that a seat keeps. -/
def NoneFrees (b : DealerBuilder) : List Call → Prop
  | [] => True
  | c :: calls => ¬ b.FreesCards c ∧ (b.after c).NoneFrees calls

theorem held_new (s : Seat) : new.held s = ∅ := by
  cases s <;> rfl

theorem isComplete_new : new.IsComplete where
  size_le s := by
    rw [held_new, CardSet.size_empty]
    exact Nat.zero_le _
  has_deck_iff i := by
    simp only [held_new, CardSet.has_empty, Bool.false_eq_true, exists_false, or_false]
    rfl

theorem isApart_new : new.IsApart where
  held_apart s o _ i hi := by
    rw [held_new, CardSet.has_empty] at hi
    cases hi
  deck_apart s i hi := by
    rw [held_new, CardSet.has_empty] at hi
    cases hi

theorem IsComplete.after (h : b.IsComplete) (c : Call) : (b.after c).IsComplete := by
  rcases after_cases b c with hb | ⟨seat, cards, hsize, hsubset, hb⟩ | ⟨-, seat, hb⟩
  · rwa [hb]
  · rw [hb]
    exact h.withPredeal hsize hsubset
  · rw [hb]
    exact h.withReturned seat

theorem IsApart.after {c : Call} (h : b.IsApart) (hfrees : ¬ b.FreesCards c) :
    (b.after c).IsApart := by
  rcases after_cases b c with hb | ⟨seat, cards, -, hsubset, hb⟩ | ⟨hfreed, -⟩
  · rwa [hb]
  · rw [hb]
    exact h.withPredeal hsubset
  · exact absurd hfreed hfrees

theorem IsComplete.afterAll (h : b.IsComplete) (calls : List Call) :
    (b.afterAll calls).IsComplete := by
  induction calls generalizing b with
  | nil => exact h
  | cons c calls ih => exact ih (h.after c)

theorem IsApart.afterAll {calls : List Call} (h : b.IsApart) (hnone : b.NoneFrees calls) :
    (b.afterAll calls).IsApart := by
  induction calls generalizing b with
  | nil => exact h
  | cons c calls ih => exact ih (h.after hnone.1) hnone.2

/-- The deck of a builder with every card in one place is what is left of the whole deck. -/
theorem IsComplete.deck_eq (h : b.IsComplete) (hapart : b.IsApart) :
    b.deck = CardSet.deck \ b.heldHands.cards := by
  apply CardSet.ext
  intro i
  rw [Bool.eq_iff_iff, CardSet.has_diff, Bool.and_eq_true, Bool.not_eq_true', h.has_deck_iff,
    ← Bool.not_eq_true, has_heldHands_iff]
  constructor
  · intro hi
    refine ⟨.inl hi, ?_⟩
    rintro ⟨s, hs⟩
    rw [hapart.deck_apart s i hs] at hi
    cases hi
  · rintro ⟨hi | hi, hnone⟩
    · exact hi
    · exact absurd hi hnone

/-- **What any calls leave.** A refused call changes nothing but the deck, and the deck only if it
frees cards: then the cards of its seat are back in the deck while the seat keeps them. Whatever was
refused, the deck and the hands are the whole deck together. As long as no call frees cards, the
predealt hands are apart and the deck is what is left of the whole deck. -/
theorem predeal_effects (calls : List Call) :
    (∀ (c : Call) e b', c.run (new.afterAll calls) = .error e b' →
      ¬ (new.afterAll calls).FreesCards c ∧ b' = new.afterAll calls ∨
        (new.afterAll calls).FreesCards c ∧ ∃ seat cards,
          neededCards c.seat c.cards = .ok (seat, cards) ∧
          b' = { new.afterAll calls with
            deck := (new.afterAll calls).deck ∪ (new.afterAll calls).held seat }) ∧
    CardSet.deck = (new.afterAll calls).deck ∪ (new.afterAll calls).heldHands.cards ∧
    (new.NoneFrees calls →
      (∀ s o, s ≠ o → (new.afterAll calls).held s ∩ (new.afterAll calls).held o = ∅) ∧
      (new.afterAll calls).deck = CardSet.deck \ (new.afterAll calls).heldHands.cards) := by
  have hcomplete : (new.afterAll calls).IsComplete := isComplete_new.afterAll calls
  refine ⟨fun c e b' h => ?_, ?_, fun hnone => ?_⟩
  · rcases run_cases (new.afterAll calls) c with ⟨hfrees, _, hrun⟩ | ⟨_, _, -, -, hrun⟩ |
      ⟨hfrees, seat, cards, _, hneeded, hrun⟩
    · cases hrun.symm.trans h
      exact .inl ⟨hfrees, rfl⟩
    · cases hrun.symm.trans h
    · refine .inr ⟨hfrees, seat, cards, hneeded, ?_⟩
      have hreturned : (new.afterAll calls).returned seat =
          (new.afterAll calls).deck ∪ (new.afterAll calls).held seat := by
        apply CardSet.ext
        intro i
        rw [Bool.eq_iff_iff, has_returned_iff, CardSet.has_union, Bool.or_eq_true]
      cases hrun.symm.trans h
      rw [withReturned, hreturned]
  · apply CardSet.ext
    intro i
    rw [Bool.eq_iff_iff, hcomplete.has_deck_iff, CardSet.has_union, Bool.or_eq_true,
      has_heldHands_iff]
  · have hapart : (new.afterAll calls).IsApart := isApart_new.afterAll hnone
    refine ⟨fun s o hne => ?_, hcomplete.deck_eq hapart⟩
    exact CardSet.isEmpty_iff.1 (CardSet.inter_isEmpty_iff.2 (hapart.held_apart s o hne))

/-- North is predealt the ace of spades, place 14, and east the king, place 13. -/
def honoursDealt : List Call := [⟨.text "N", some (.single 14)⟩, ⟨.text "E", some (.single 13)⟩]

/-- North asks for the king, which east has. -/
def kingAsked : Call := ⟨.text "N", some (.single 13)⟩

theorem noneFrees_honoursDealt : new.NoneFrees honoursDealt := by
  have hnorth : neededCards (.text "N") (some (.single 14)) = .ok (.north, .single 14) := rfl
  have heast : neededCards (.text "E") (some (.single 13)) = .ok (.east, .single 13) := rfl
  refine ⟨?_, ?_, trivial⟩
  · rw [freesCards_iff hnorth]
    decide
  · rw [freesCards_iff heast]
    decide

/-- Before north asks for the king every card is in one place; asking for it is refused, and the ace
is in the deck then although north keeps it. -/
theorem predeal_effects_honours :
    new.NoneFrees honoursDealt ∧
      (new.afterAll honoursDealt).deck =
        CardSet.deck \ (new.afterAll honoursDealt).heldHands.cards ∧
      ∃ e b', kingAsked.run (new.afterAll honoursDealt) = .error e b' ∧
        b'.deck.has 14 = true ∧ (b'.held .north).has 14 = true := by
  refine ⟨noneFrees_honoursDealt, ((predeal_effects honoursDealt).2.2 noneFrees_honoursDealt).2, ?_⟩
  have hneeded : neededCards kingAsked.seat kingAsked.cards = .ok (.north, .single 13) := rfl
  have hrefused : ∃ e b', kingAsked.run (new.afterAll honoursDealt) = .error e b' := ⟨_, _, rfl⟩
  obtain ⟨e, b', hrefused⟩ := hrefused
  refine ⟨e, b', hrefused, ?_⟩
  rcases (predeal_effects honoursDealt).1 kingAsked e b' hrefused with
    ⟨hfrees, -⟩ | ⟨-, seat, cards, hof, rfl⟩
  · rw [freesCards_iff hneeded] at hfrees
    exact absurd (by decide) hfrees
  · cases hneeded.symm.trans hof
    exact ⟨by decide, by decide⟩

/-- **A refused call can change the deck, and then a card can be predealt twice.** North has the
ace and asks for the king: that is refused, the ace is in the deck all the same, and south gets it
too. -/
theorem predeal_refused_frees_ace :
    ¬ (∀ calls (c : Call) e b', c.run (new.afterAll calls) = .error e b' →
        b'.hands = (new.afterAll calls).hands ∧ b'.deck = (new.afterAll calls).deck) ∧
      ¬ ∀ calls, (∀ s o, s ≠ o →
          (new.afterAll calls).held s ∩ (new.afterAll calls).held o = ∅) ∧
        (new.afterAll calls).deck = CardSet.deck \ (new.afterAll calls).heldHands.cards := by
  refine ⟨fun h => ?_, fun h => ?_⟩
  · have hrefused : ∃ e, kingAsked.run (new.afterAll honoursDealt) =
        .error e ((new.afterAll honoursDealt).withReturned .north) := ⟨_, rfl⟩
    obtain ⟨e, hrefused⟩ := hrefused
    have hdeck := (h honoursDealt kingAsked e _ hrefused).2
    exact absurd hdeck (by decide)
  · have hapart := (h (honoursDealt ++ [kingAsked, ⟨.text "S", some (.single 14)⟩])).1 .north .south
      (by decide)
    exact absurd hapart (by decide)

end DealerBuilder

end ContractBridge
