/-
The hands that a dealer draws.

Four seats are filled one after the other from one deck. Two things make the result hands that
can be a deal, and neither is checked while the hands are drawn: the cards held from the start
are apart from each other and from the dealer's deck (`IsSpread`, which holds of every dealer that
can be made of sets that end), and each seat takes its cards out of the deck that the next seat
draws from (`IsFilled`, with the deck written as what the seats before have left).

If the cards held are deck cards (`IsReady`), the hands divide the deck.
-/
import ContractBridge.Dealer
import ContractBridge.Proofs.CardSet.Draw
import ContractBridge.Proofs.Deal.Division

set_option autoImplicit false

namespace ContractBridge

namespace Dealer

variable {d : Dealer}

/-! ## The settings -/

/-- The cards that a seat is sure to hold. -/
def held (d : Dealer) (seat : Seat) : CardSet := (d.predeal.get seat).getD ∅

/-- The held cards, laid out as hands. -/
def heldHands (d : Dealer) : Hands := .ofFn fun seat => ⟨d.held seat⟩

@[simp] theorem get_heldHands (d : Dealer) (seat : Seat) :
    (d.heldHands.get seat).cards = d.held seat := by
  rw [heldHands, Seats.get_ofFn]

/-- **The held cards are sets that end, at most thirteen to a seat and none of them twice,** and
the dealer's deck has the deck cards that nobody holds. -/
structure IsSpread (d : Dealer) : Prop where
  held_size : ∀ seat, (d.held seat).size ≤ handSize
  held_isFinite : ∀ seat, (d.held seat).IsFinite
  held_apart : ∀ seat i, (d.heldHands.before seat).has i = true → (d.held seat).has i = false
  deck_eq : d.deck = CardSet.deck \ d.heldHands.cards

/-- **The held cards are deck cards, at most thirteen to a seat and none of them twice,** and the
dealer's deck has the others. -/
structure IsReady (d : Dealer) : Prop where
  held_size : ∀ seat, (d.held seat).size ≤ handSize
  held_deck : ∀ seat i, (d.held seat).has i = true → CardSet.deck.has i = true
  held_apart : ∀ seat i, (d.heldHands.before seat).has i = true → (d.held seat).has i = false
  deck_eq : d.deck = CardSet.deck \ d.heldHands.cards

theorem useSeat_eq_ok {seat : Seat} {cards : Option CardSet} {used used' : CardSet}
    (h : useSeat seat cards used = .ok used') :
    (cards.getD ∅).size ≤ handSize ∧
      (∀ i, used.has i = true → (cards.getD ∅).has i = false) ∧ used' = used ∪ cards.getD ∅ := by
  match cards with
  | none =>
    cases h
    refine ⟨by decide, fun i _ => CardSet.has_empty i, ?_⟩
    apply CardSet.ext
    intro i
    rw [Option.getD_none, CardSet.has_union, CardSet.has_empty, Bool.or_false]
  | some cards =>
    rw [useSeat] at h
    by_cases hsize : handSize < cards.size
    · rw [if_pos hsize] at h
      cases h
    · rw [if_neg hsize] at h
      by_cases hapart : (used ∩ cards).isEmpty = true
      · rw [if_pos hapart] at h
        cases h
        exact ⟨Nat.not_lt.1 hsize, CardSet.inter_isEmpty_iff.1 hapart, rfl⟩
      · rw [if_neg hapart] at h
        cases h

/-- The predealt cards of the seats, laid out as hands. -/
def laidOut (predeal : Seats (Option CardSet)) : Hands :=
  .ofFn fun seat => ⟨(predeal.get seat).getD ∅⟩

@[simp] theorem get_laidOut (predeal : Seats (Option CardSet)) (seat : Seat) :
    ((laidOut predeal).get seat).cards = (predeal.get seat).getD ∅ := by
  rw [laidOut, Seats.get_ofFn]

theorem useSeat_of_apart {seat : Seat} {cards : Option CardSet} {used : CardSet}
    (hsize : (cards.getD ∅).size ≤ handSize)
    (hapart : ∀ i, used.has i = true → (cards.getD ∅).has i = false) :
    useSeat seat cards used = .ok (used ∪ cards.getD ∅) := by
  cases cards with
  | none =>
    have hunion : used ∪ ∅ = used := by
      ext i
      simp
    rw [Option.getD_none, hunion]
    rfl
  | some cards =>
    rw [Option.getD_some] at hsize hapart ⊢
    rw [useSeat, if_neg (Nat.not_lt.2 hsize), if_pos (CardSet.inter_isEmpty_iff.2 hapart)]

/-- **The check of a dealer's predealt cards:** at most thirteen to a seat, and none that a seat
before has. -/
theorem usedCards_eq_ok_iff {predeal : Seats (Option CardSet)} {used : CardSet} :
    usedCards predeal = .ok used ↔
      (∀ seat, ((predeal.get seat).getD ∅).size ≤ handSize) ∧
      (∀ seat i, ((laidOut predeal).before seat).has i = true →
        ((predeal.get seat).getD ∅).has i = false) ∧
      used = (laidOut predeal).cards := by
  constructor
  · intro h
    obtain ⟨_, hnorth, h⟩ := except_bind_eq_ok_iff.1 h
    obtain ⟨_, heast, h⟩ := except_bind_eq_ok_iff.1 h
    obtain ⟨_, hsouth, hwest⟩ := except_bind_eq_ok_iff.1 h
    obtain ⟨hn, hnone, rfl⟩ := useSeat_eq_ok hnorth
    obtain ⟨he, hne, rfl⟩ := useSeat_eq_ok heast
    obtain ⟨hs, hnes, rfl⟩ := useSeat_eq_ok hsouth
    obtain ⟨hw, hnesw, rfl⟩ := useSeat_eq_ok hwest
    refine ⟨?_, ?_, rfl⟩
    · intro seat
      cases seat <;> assumption
    · intro seat
      cases seat <;> assumption
  · rintro ⟨hsize, hapart, rfl⟩
    refine except_bind_eq_ok_iff.2 ⟨_, useSeat_of_apart (hsize .north) (hapart .north), ?_⟩
    refine except_bind_eq_ok_iff.2 ⟨_, useSeat_of_apart (hsize .east) (hapart .east), ?_⟩
    refine except_bind_eq_ok_iff.2 ⟨_, useSeat_of_apart (hsize .south) (hapart .south), ?_⟩
    exact useSeat_of_apart (hsize .west) (hapart .west)

section New

variable {predeal : Seats (Option CardSet)} {descriptors : Seats (Option HandDescriptor)}
  {accept : Option NamedRule} {vulnerability : Literal} {maxAttempts : Option Int}
  {source : SourceSetting}

/-- What a dealer holds is what it was made with, and it was checked. -/
theorem usedCards_of_new
    (h : Dealer.new predeal descriptors accept vulnerability maxAttempts source = .ok d) :
    d.predeal = predeal ∧ usedCards d.predeal = .ok d.heldHands.cards ∧
      d.deck = CardSet.deck \ d.heldHands.cards := by
  obtain ⟨_, -, h⟩ := except_bind_eq_ok_iff.1 h
  obtain ⟨_, -, h⟩ := except_bind_eq_ok_iff.1 h
  obtain ⟨_, -, h⟩ := except_bind_eq_ok_iff.1 h
  obtain ⟨used, hused, h⟩ := except_bind_eq_ok_iff.1 h
  cases h
  obtain ⟨-, -, rfl⟩ := usedCards_eq_ok_iff.1 hused
  exact ⟨rfl, hused, rfl⟩

theorem held_eq_of_get {seat : Seat} {cards : CardSet} (h : d.predeal.get seat = some cards) :
    d.held seat = cards := by
  rw [held, h, Option.getD_some]

/-- **A dealer made from sets that end is spread.** -/
theorem isSpread_of_new
    (h : Dealer.new predeal descriptors accept vulnerability maxAttempts source = .ok d)
    (hfinite : ∀ seat cards, predeal.get seat = some cards → cards.IsFinite) : d.IsSpread := by
  obtain ⟨hpredeal, hused, hdeck⟩ := usedCards_of_new h
  obtain ⟨hsize, hapart, -⟩ := usedCards_eq_ok_iff.1 hused
  refine ⟨hsize, fun seat => ?_, hapart, hdeck⟩
  cases hcards : d.predeal.get seat with
  | none =>
    rw [held, hcards]
    decide
  | some cards =>
    rw [held_eq_of_get hcards]
    exact hfinite seat cards (hpredeal ▸ hcards)

/-- **A dealer made from deck cards is ready.** -/
theorem isReady_of_new
    (h : Dealer.new predeal descriptors accept vulnerability maxAttempts source = .ok d)
    (hdeck : ∀ seat cards, predeal.get seat = some cards → cards.subset CardSet.deck = true) :
    d.IsReady := by
  have hspread := isSpread_of_new h fun seat cards hcards =>
    CardSet.isFinite_deck.of_subset (hdeck seat cards hcards)
  refine ⟨hspread.held_size, fun seat i hi => ?_, hspread.held_apart, hspread.deck_eq⟩
  cases hcards : d.predeal.get seat with
  | none =>
    rw [held, hcards, Option.getD_none, CardSet.has_empty] at hi
    cases hi
  | some cards =>
    rw [held_eq_of_get hcards] at hi
    rw [(usedCards_of_new h).1] at hcards
    exact CardSet.subset_iff.1 (hdeck seat cards hcards) i hi

end New

theorem IsReady.isSpread (hd : d.IsReady) : d.IsSpread :=
  ⟨hd.held_size, fun seat => CardSet.isFinite_deck.of_has_imp (hd.held_deck seat), hd.held_apart,
    hd.deck_eq⟩

theorem IsSpread.deck_iff (hd : d.IsSpread) {i : Nat} : d.deck.has i = true ↔
    CardSet.deck.has i = true ∧ ∀ seat, (d.held seat).has i = false := by
  rw [hd.deck_eq, CardSet.has_diff, Bool.and_eq_true, Bool.not_eq_true', ← Bool.not_eq_true,
    Hands.has_cards_iff]
  simp only [get_heldHands, not_exists, Bool.not_eq_true]

theorem IsSpread.deck_has_deck (hd : d.IsSpread) {i : Nat} (hi : d.deck.has i = true) :
    CardSet.deck.has i = true := (hd.deck_iff.1 hi).1

theorem IsSpread.deck_isFinite (hd : d.IsSpread) : d.deck.IsFinite :=
  CardSet.isFinite_deck.of_has_imp fun _ hi => hd.deck_has_deck hi

/-- No held card is in the dealer's deck. -/
theorem IsSpread.deck_apart (hd : d.IsSpread) {seat : Seat} {i : Nat}
    (hi : (d.held seat).has i = true) : d.deck.has i = false := by
  rw [← Bool.not_eq_true]
  intro hdeck
  rw [(hd.deck_iff.1 hdeck).2 seat] at hi
  cases hi

/-! ## One seat -/

/-- **A hand filled up from a deck:** the held cards and as many of the deck as are missing. -/
structure IsFilled (held deck : CardSet) (hand : Hand) : Prop where
  held_imp : ∀ i, held.has i = true → hand.cards.has i = true
  hand_imp : ∀ i, hand.cards.has i = true → held.has i = true ∨ deck.has i = true
  size_eq : hand.cards.size = handSize

/-- A seat without held cards is filled like one that holds an empty set. -/
theorem fillSeat_eq (held : Option CardSet) (deck : CardSet) : fillSeat held deck =
    if (held.getD ∅).size < handSize then do
      let drawn ← deck.draw (handSize - (held.getD ∅).size : Nat)
      return (⟨held.getD ∅ ∪ drawn.given⟩, drawn.rest)
    else return (⟨held.getD ∅⟩, deck) := by
  match held with
  | some cards => rfl
  | none =>
    have hunion : ∀ c : CardSet, ∅ ∪ c = c := by
      intro c
      apply CardSet.ext
      intro i
      rw [CardSet.has_union, CardSet.has_empty, Bool.false_or]
    rw [Option.getD_none, CardSet.size_empty, if_pos (by decide)]
    simp only [hunion]
    rfl

theorem isFilled_of_fillSeat {cards : Option CardSet} {deck rest : CardSet} {hand : Hand}
    {src src' : MaskSource} (hheld : (cards.getD ∅).IsFinite) (hdeck : deck.IsFinite)
    (hsize : (cards.getD ∅).size ≤ handSize)
    (hapart : ∀ i, (cards.getD ∅).has i = true → deck.has i = false)
    (h : fillSeat cards deck src = .ok (hand, rest) src') :
    IsFilled (cards.getD ∅) deck hand ∧ rest = deck \ hand.cards := by
  rw [fillSeat_eq] at h
  generalize cards.getD ∅ = held at hheld hsize hapart h
  by_cases hlt : held.size < handSize
  · rw [if_pos hlt] at h
    obtain ⟨drawn, mid, hdraw, hpure⟩ := estate_bind_eq_ok_iff.1 h
    cases hpure
    have hdrawn := CardSet.isOf_of_draw hdeck hdraw
    refine ⟨⟨?_, ?_, ?_⟩, ?_⟩
    · intro i hi
      rw [CardSet.has_union, hi, Bool.true_or]
    · intro i hi
      rw [CardSet.has_union, Bool.or_eq_true] at hi
      exact hi.imp_right (hdrawn.given_imp i)
    · show (held ∪ drawn.given).size = handSize
      rw [CardSet.size_union hheld (hdeck.of_has_imp hdrawn.given_imp), hdrawn.given_size]
      · omega
      · intro i hi
        rw [← Bool.not_eq_true]
        intro hgiven
        have hon := hdrawn.given_imp i hgiven
        rw [hapart i hi] at hon
        cases hon
    · rw [hdrawn.rest_eq]
      apply CardSet.ext
      intro i
      rw [CardSet.has_diff, CardSet.has_diff, CardSet.has_union]
      cases hi : held.has i with
      | false => rw [Bool.false_or]
      | true => rw [hapart i hi]; rfl
  · rw [if_neg hlt] at h
    cases h
    refine ⟨⟨fun _ hi => hi, fun _ hi => .inl hi, by show held.size = handSize; omega⟩, ?_⟩
    apply CardSet.ext
    intro i
    rw [CardSet.has_diff]
    cases hi : held.has i with
    | false => rw [Bool.not_false, Bool.and_true]
    | true => rw [hapart i hi]; rfl

/-- A seat filled up from what others have left of the dealer's deck, and what it leaves. -/
theorem IsSpread.isFilled_of_fillSeat (hd : d.IsSpread) (seat : Seat) {cards rest : CardSet}
    {hand : Hand} {src src' : MaskSource}
    (h : fillSeat (d.predeal.get seat) (d.deck \ cards) src = .ok (hand, rest) src') :
    IsFilled (d.held seat) (d.deck \ cards) hand ∧ rest = d.deck \ (cards ∪ hand.cards) := by
  have hapart : ∀ i, (d.held seat).has i = true → (d.deck \ cards).has i = false := by
    intro i hi
    rw [CardSet.has_diff, hd.deck_apart hi, Bool.false_and]
  obtain ⟨hfilled, hrest⟩ := Dealer.isFilled_of_fillSeat (hd.held_isFinite seat)
    hd.deck_isFinite.diff (hd.held_size seat) hapart h
  refine ⟨hfilled, hrest.trans ?_⟩
  apply CardSet.ext
  intro i
  simp only [CardSet.has_diff, CardSet.has_union, Bool.not_or, Bool.and_assoc]

/-! ## Four seats -/

/-- Four hands are drawn by four seats, each from the deck and the masks that the seat before has
left. -/
theorem drawHands_eq_ok {hands : Hands} {src src' : MaskSource}
    (h : d.drawHands src = .ok hands src') :
    ∃ deck₁ deck₂ deck₃ deck₄ src₁ src₂ src₃,
      fillSeat (d.predeal.get .north) d.deck src = .ok (hands.north, deck₁) src₁ ∧
      fillSeat (d.predeal.get .east) deck₁ src₁ = .ok (hands.east, deck₂) src₂ ∧
      fillSeat (d.predeal.get .south) deck₂ src₂ = .ok (hands.south, deck₃) src₃ ∧
      fillSeat (d.predeal.get .west) deck₃ src₃ = .ok (hands.west, deck₄) src' := by
  obtain ⟨⟨north, deck₁⟩, src₁, hnorth, h⟩ := estate_bind_eq_ok_iff.1 h
  obtain ⟨⟨east, deck₂⟩, src₂, heast, h⟩ := estate_bind_eq_ok_iff.1 h
  obtain ⟨⟨south, deck₃⟩, src₃, hsouth, h⟩ := estate_bind_eq_ok_iff.1 h
  obtain ⟨⟨west, deck₄⟩, src₄, hwest, h⟩ := estate_bind_eq_ok_iff.1 h
  cases h
  exact ⟨deck₁, deck₂, deck₃, deck₄, src₁, src₂, src₃, hnorth, heast, hsouth, hwest⟩

/-- **The hands that are drawn, seat by seat:** each is filled up from what the seats before have
left of the deck. -/
theorem isFilled_of_drawHands {hands : Hands} {src src' : MaskSource} (hd : d.IsSpread)
    (h : d.drawHands src = .ok hands src') (seat : Seat) :
    IsFilled (d.held seat) (d.deck \ hands.before seat) (hands.get seat) := by
  obtain ⟨deck₁, deck₂, deck₃, deck₄, src₁, src₂, src₃, hnorth, heast, hsouth, hwest⟩ :=
    drawHands_eq_ok h
  -- north draws from the whole deck, which is what nobody before has left
  have hnone : d.deck = d.deck \ ∅ := by
    apply CardSet.ext
    intro i
    rw [CardSet.has_diff, CardSet.has_empty, Bool.not_false, Bool.and_true]
  rw [hnone] at hnorth
  obtain ⟨hn, rfl⟩ := hd.isFilled_of_fillSeat .north hnorth
  obtain ⟨he, rfl⟩ := hd.isFilled_of_fillSeat .east heast
  obtain ⟨hs, rfl⟩ := hd.isFilled_of_fillSeat .south hsouth
  obtain ⟨hw, rfl⟩ := hd.isFilled_of_fillSeat .west hwest
  cases seat <;> assumption

section Drawn

variable {hands : Hands} {src src' : MaskSource}

/-- A card in a drawn hand comes from the held ones or from what the seats before have left. -/
theorem held_or_deck_of_drawHands (hd : d.IsSpread) (h : d.drawHands src = .ok hands src')
    {seat : Seat} {i : Nat} (hi : (hands.get seat).cards.has i = true) :
    (d.held seat).has i = true ∨ (d.deck.has i = true ∧ (hands.before seat).has i = false) := by
  rcases (isFilled_of_drawHands hd h seat).hand_imp i hi with hheld | hdeck
  · exact .inl hheld
  · rw [CardSet.has_diff, Bool.and_eq_true, Bool.not_eq_true'] at hdeck
    exact .inr hdeck

/-- No card is drawn twice. -/
theorem before_apart_of_drawHands (hd : d.IsSpread) (h : d.drawHands src = .ok hands src')
    (seat : Seat) (i : Nat) (hbefore : (hands.before seat).has i = true) :
    (hands.get seat).cards.has i = false := by
  rw [← Bool.not_eq_true]
  intro hi
  rcases held_or_deck_of_drawHands hd h hi with hheld | ⟨-, hfresh⟩
  · -- a held card is with nobody else: not held there, and not drawn from the deck either
    obtain ⟨other, hlt, hother⟩ := Hands.has_before_iff.1 hbefore
    rcases held_or_deck_of_drawHands hd h hother with hheld' | ⟨hdeck, -⟩
    · have hbefore' : (d.heldHands.before seat).has i = true :=
        Hands.has_before_iff.2 ⟨other, hlt, by rw [get_heldHands]; exact hheld'⟩
      rw [hd.held_apart seat i hbefore'] at hheld
      cases hheld
    · rw [hd.deck_apart hheld] at hdeck
      cases hdeck
  · rw [hfresh] at hbefore
    cases hbefore

/-- **The hands that a dealer draws pass the check of a deal.** -/
theorem check_of_drawHands (hd : d.IsSpread) (h : d.drawHands src = .ok hands src') :
    hands.check = .ok () :=
  Hands.check_eq_ok (fun seat => (isFilled_of_drawHands hd h seat).size_eq)
    (before_apart_of_drawHands hd h)

/-- **The hands that a dealer of deck cards draws divide the deck,** and nothing has to check that
they do. -/
theorem isDivision_of_drawHands (hd : d.IsReady) (h : d.drawHands src = .ok hands src') :
    hands.IsDivision := by
  refine Hands.isDivision_of_apart (fun seat => (isFilled_of_drawHands hd.isSpread h seat).size_eq)
    ?_ fun seat other hne i hi =>
      Hands.apart_of_before (before_apart_of_drawHands hd.isSpread h) hne hi
  intro seat i hi
  rcases held_or_deck_of_drawHands hd.isSpread h hi with hheld | ⟨hdeck, -⟩
  · exact hd.held_deck seat i hheld
  · exact hd.isSpread.deck_has_deck hdeck

end Drawn

end Dealer

end ContractBridge
