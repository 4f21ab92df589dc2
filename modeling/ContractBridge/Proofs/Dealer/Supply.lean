/-
A dealer does not run out of cards.

Each seat draws what it is missing from the deck that the seats before have left, and no seat asks
how much is left. It is always enough: what the four seats are missing together is what the
dealer's deck has (`IsReady.size_deck`), each draw takes out what its seat was missing, and so the
deck is used up exactly. The masks may run out before.

What is left to stop a dealer is then its own settings: the limit, a cancellation, the masks that
it was given, and what the descriptors and the rule say.
-/
import ContractBridge.Proofs.Dealer.Outcome

set_option autoImplicit false

namespace ContractBridge

open Drawing

namespace Dealer

variable {d : Dealer} {watched : Bool} {s t : DealerSession} {number : Int} {hands : Hands}
  {e : Error}

/-! ## The deck -/

/-- How many cards a seat is still to be dealt. -/
def missing (d : Dealer) (seat : Seat) : Nat := handSize - (d.held seat).size

/-- **The dealer's deck has what the seats are missing.** -/
theorem IsReady.size_deck (hd : d.IsReady) : d.deck.size =
    d.missing .north + d.missing .east + d.missing .south + d.missing .west := by
  have hfinite : ∀ seat, (d.heldHands.get seat).cards.IsFinite := by
    intro seat
    rw [get_heldHands]
    exact hd.isSpread.held_isFinite seat
  have hheld := Hands.size_cards hfinite fun seat i hi => by
    rw [get_heldHands]
    exact hd.held_apart seat i hi
  simp only [get_heldHands] at hheld
  -- the cards that are held and the dealer's deck make up the whole deck
  have hdeck : d.deck.size + d.heldHands.cards.size = CardSet.deck.size := by
    rw [hd.deck_eq]
    apply CardSet.size_diff_add CardSet.isFinite_deck
    intro i hi
    obtain ⟨seat, hseat⟩ := Hands.has_cards_iff.1 hi
    rw [get_heldHands] at hseat
    exact hd.held_deck seat i hseat
  rw [CardSet.size_deck] at hdeck
  have hnorth := hd.held_size .north
  have heast := hd.held_size .east
  have hsouth := hd.held_size .south
  have hwest := hd.held_size .west
  unfold missing
  unfold handSize at *
  omega

/-! ## Draws with the deck that is left -/

/-- **Four hands and the deck that is left** when they are drawn. -/
def fillAll (d : Dealer) : Drawing (Hands × CardSet) := do
  let (north, deck) ← fillSeat d.predeal.north d.deck
  let (east, deck) ← fillSeat d.predeal.east deck
  let (south, deck) ← fillSeat d.predeal.south deck
  let (west, deck) ← fillSeat d.predeal.west deck
  return (⟨north, east, south, west⟩, deck)

theorem drawHands_eq_map (d : Dealer) : d.drawHands = Prod.fst <$> d.fillAll := by
  simp only [drawHands, fillAll, map_bind, map_pure]

/-- A seat that finds enough cards takes what it is missing. -/
theorem meets_fillSeat_of_le (seat : Seat) {deck : CardSet} (hdeck : deck.IsFinite)
    (henough : d.missing seat ≤ deck.size) : Meets (fillSeat (d.predeal.get seat) deck)
      (fun filled => filled.2.IsFinite ∧ filled.2.size + d.missing seat = deck.size)
      fun e rest => e = .sourceExhausted ∧ rest.size = 0 := by
  unfold missing held at *
  rw [fillSeat_eq]
  by_cases hlt : ((d.predeal.get seat).getD ∅).size < handSize
  · rw [if_pos hlt]
    exact (CardSet.meets_draw_of_le hdeck henough).bind fun drawn hdrawn =>
      meets_pure ⟨hdrawn.rest_isFinite hdeck, hdrawn.size_rest_add hdeck⟩
  · rw [if_neg hlt, Nat.sub_eq_zero_of_le (Nat.le_of_not_lt hlt)]
    exact meets_pure ⟨hdeck, rfl⟩

/-- **The deck is used up exactly,** unless the masks are used up before. -/
theorem IsReady.meets_fillAll (hd : d.IsReady) :
    Meets d.fillAll (fun filled => filled.2 = ∅)
      fun e rest => e = .sourceExhausted ∧ rest.size = 0 := by
  -- before each draw the deck has what this seat and the seats after it are missing
  have hsize := hd.size_deck
  refine (meets_fillSeat_of_le .north hd.isSpread.deck_isFinite (by omega)).bind ?_
  rintro ⟨north, deck₁⟩ ⟨hdeck₁, hnorth⟩
  refine (meets_fillSeat_of_le .east hdeck₁ (by omega)).bind ?_
  rintro ⟨east, deck₂⟩ ⟨hdeck₂, heast⟩
  refine (meets_fillSeat_of_le .south hdeck₂ (by omega)).bind ?_
  rintro ⟨south, deck₃⟩ ⟨hdeck₃, hsouth⟩
  refine (meets_fillSeat_of_le .west hdeck₃ (by omega)).bind ?_
  rintro ⟨west, deck₄⟩ ⟨hdeck₄, hwest⟩
  exact meets_pure ((CardSet.size_eq_zero_iff hdeck₄).1 (by omega))

/-- Hands are drawn as long as there are masks. -/
theorem IsReady.sourceExhausted_of_drawHands (hd : d.IsReady) {src rest : MaskSource}
    (h : d.drawHands src = .error e rest) : e = .sourceExhausted ∧ rest.size = 0 := by
  rw [drawHands_eq_map, ← bind_pure_comp] at h
  rcases estate_bind_eq_error_iff.1 h with hrun | ⟨_, _, -, hpure⟩
  · exact hd.meets_fillAll.of_error hrun
  · cases hpure

/-! ## What can stop a dealer -/

/-- **A descriptor or the session's rule fails on four hands.** -/
def FailsOn (d : Dealer) (s : DealerSession) (hands : Hands) (e : Error) : Prop :=
  (∃ seat descriptor, d.descriptors.get seat = some descriptor ∧
    descriptor.accepts (hands.get seat).cards = .error e) ∨
  ∃ rule, s.rule = some rule ∧ rule.judge hands = .error e

theorem failsOn_of_judge (h : d.judge s hands = .error e) : d.FailsOn s hands e := by
  rcases except_bind_eq_error_iff.1 h with hfits | ⟨fits, -, hverdict⟩
  · obtain ⟨seat, -, hseat⟩ := except_allM_eq_error hfits
    cases hdescriptor : d.descriptors.get seat with
    | none =>
      rw [hdescriptor] at hseat
      cases hseat
    | some descriptor =>
      rw [hdescriptor] at hseat
      exact .inl ⟨seat, descriptor, hdescriptor, hseat⟩
  · cases fits with
    | false => cases hverdict
    | true =>
      rw [if_pos rfl] at hverdict
      cases hrule : s.rule with
      | none =>
        rw [DealerSession.verdict, hrule] at hverdict
        cases hverdict
      | some rule =>
        rw [DealerSession.verdict, hrule] at hverdict
        exact .inr ⟨rule, hrule, hverdict⟩

/-- **What stops a dealer that can draw its hands.** -/
theorem IsReady.cases_of_deal (hd : d.IsReady) (h : d.deal number watched s = .error e t) :
    (∃ m : Nat, d.maxAttempts = some m ∧ e = .unsatisfied m ∧ d.UsesUp watched s m t) ∨
      (∃ n, e = .cancelled n ∧ d.IsCancelled watched s n t) ∨
      (e = .sourceExhausted ∧ t.source.size = 0) ∨
      (∃ src hands rest, d.drawHands src = .ok hands rest ∧ d.FailsOn s hands e) ∨
      (e = .endless ∧ d.RunsOn watched s) := by
  rcases deal_eq_error_iff.1 h with haccepted | ⟨hands, haccepted, hcheck⟩
  · rcases accepted_eq_error_iff.1 haccepted with ⟨he, hused⟩ | hcancelled | hstops | hraises
    · cases hmax : d.maxAttempts with
      | none =>
        rw [limit, hmax] at hused
        rw [exhausted, hmax] at he
        exact .inr (.inr (.inr (.inr ⟨he, runsOn_iff.2 ⟨hmax, t, hused⟩⟩)))
      | some m =>
        rw [limit, hmax] at hused
        rw [exhausted, hmax] at he
        exact .inl ⟨m, rfl, he, hused⟩
    · exact .inr (.inl hcancelled)
    · obtain ⟨hs, mid, rest, -, hdraw, rfl⟩ := hstops
      exact .inr (.inr (.inl (hd.sourceExhausted_of_drawHands hdraw)))
    · obtain ⟨hs, hands, mid, rest, -, hdraw, hjudge, -⟩ := hraises
      exact .inr (.inr (.inr (.inl ⟨mid, hands, rest, hdraw, failsOn_of_judge hjudge⟩)))
  · -- accepted hands were drawn, and drawn hands can be a deal
    obtain ⟨hs, mid, rest, -, hdraw, -⟩ := accepted_eq_ok_iff_goesOn.1 haccepted
    rw [check_of_drawHands hd.isSpread hdraw] at hcheck
    cases hcheck

/-- **A dealer never fails for lack of cards.** Made from deck cards, it draws four hands from any
masks until these run out, with no card left in its deck, and the hands can be a deal. So a deal
that is not made has one of these causes: the limit, a cancellation, the end of the masks, or a
descriptor or the rule that fails on hands that were drawn; a dealer without a limit may also never
come to an end. -/
theorem deal_never_lacks_cards {predeal : Seats (Option CardSet)}
    {descriptors : Seats (Option HandDescriptor)} {accept : Option NamedRule}
    {vulnerability : Literal} {maxAttempts : Option Int} {setting : SourceSetting}
    (hnew : Dealer.new predeal descriptors accept vulnerability maxAttempts setting = .ok d)
    (hdeck : ∀ seat cards, predeal.get seat = some cards → cards.subset CardSet.deck = true)
    (number : Int) :
    d.drawHands = Prod.fst <$> d.fillAll ∧
    (∀ src, (∃ hands rest, d.fillAll src = .ok (hands, ∅) rest ∧
        Deal.ofHands hands d.vulnerability number = .ok ⟨hands, d.vulnerability, number⟩) ∨
      ∃ rest, d.fillAll src = .error .sourceExhausted rest ∧ rest.size = 0) ∧
    ∀ watched s e t, d.deal number watched s = .error e t →
      (∃ m : Nat, d.maxAttempts = some m ∧ e = .unsatisfied m ∧ d.UsesUp watched s m t) ∨
      (∃ n, e = .cancelled n ∧ d.IsCancelled watched s n t) ∨
      (e = .sourceExhausted ∧ t.source.size = 0) ∨
      (∃ src hands rest, d.drawHands src = .ok hands rest ∧ d.FailsOn s hands e) ∨
      (e = .endless ∧ d.RunsOn watched s) := by
  have hready : d.IsReady := isReady_of_new hnew hdeck
  refine ⟨d.drawHands_eq_map, fun src => ?_, fun watched s e t => hready.cases_of_deal⟩
  cases hfill : d.fillAll src with
  | error e rest =>
    obtain ⟨rfl, hsize⟩ := hready.meets_fillAll.of_error hfill
    exact .inr ⟨rest, rfl, hsize⟩
  | ok filled rest =>
    obtain ⟨hands, deck⟩ := filled
    obtain rfl : deck = ∅ := hready.meets_fillAll.of_ok hfill
    have hdraw : d.drawHands src = .ok hands rest := by
      rw [drawHands_eq_map, ← bind_pure_comp]
      exact estate_bind_eq_ok_iff.2 ⟨_, rest, hfill, rfl⟩
    refine .inl ⟨hands, rest, rfl, ?_⟩
    rw [Deal.ofHands, check_of_drawHands hready.isSpread hdraw]
    rfl

/-- At the dealer of one suit to each seat: two masks are enough, one is not. -/
theorem deal_never_lacks_cards_suits :
    Dealer.new suitDealer.predeal suitDealer.descriptors suitDealer.accept (.number 0) (some 5)
      .fresh = .ok suitDealer ∧
    (∃ hands rest, suitDealer.fillAll (.ofScript [0x400000000, 0x7fffffffffffffff]) =
      .ok (hands, ∅) rest) ∧
    ∃ rest, suitDealer.fillAll (.ofScript [0x400000000]) = .error .sourceExhausted rest := by
  obtain ⟨-, hfill, -⟩ := deal_never_lacks_cards suitDealer_new suitDealer_predeal 1
  refine ⟨suitDealer_new, ?_, ?_⟩
  · have henough : passes (fun _ _ => true)
        (suitDealer.fillAll (.ofScript [0x400000000, 0x7fffffffffffffff])) = true := by
      decide +kernel
    rcases hfill (.ofScript [0x400000000, 0x7fffffffffffffff]) with
      ⟨hands, rest, h, -⟩ | ⟨rest, h, -⟩
    · exact ⟨hands, rest, h⟩
    · rw [h] at henough
      cases henough
  · have hshort : passes (fun _ _ => true) (suitDealer.fillAll (.ofScript [0x400000000])) =
        false := by
      decide +kernel
    rcases hfill (.ofScript [0x400000000]) with ⟨hands, rest, h, -⟩ | ⟨rest, h, -⟩
    · rw [h] at hshort
      cases hshort
    · exact ⟨rest, h⟩

end Dealer

end ContractBridge
