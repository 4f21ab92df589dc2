/-
How dealing ends.

A deal is made of the hands that a run gives, and a run ends in one of few ways: hands are
accepted, the attempts are used up, a cancellation is seen, no hands can be drawn, or a descriptor
or the rule fails. `deal_outcomes` says for each of the dealer's own answers which runs lead to it,
how many attempts it reports and which masks are gone.

The dealer's own errors are told from all others by `Error.endsRun`: no draw and no check of a deal
gives one. A descriptor or a rule may, and such a run is one of those that `Dealer.Raises` is about.
-/
import ContractBridge.Proofs.Dealer.Run
import ContractBridge.Proofs.Dealer.Soundness
import ContractBridge.Proofs.HandDescriptor

set_option autoImplicit false

namespace ContractBridge

open Drawing

/-- **The dealer's own errors,** which say that a run gives no hands. -/
def Error.endsRun : Error → Bool
  | .unsatisfied _ | .cancelled _ | .endless => true
  | _ => false

namespace Hands

theorem endsRun_of_checkSeat {seat : Seat} {hand : Hand} {seen : CardSet} {e : Error}
    (h : checkSeat seat hand seen = .error e) : e.endsRun = false := by
  unfold checkSeat at h
  by_cases hsize : hand.cards.size ≠ handSize
  · rw [if_pos hsize] at h
    cases h
    rfl
  · rw [if_neg hsize] at h
    by_cases hapart : (seen ∩ hand.cards).isEmpty = true
    · rw [if_pos hapart] at h
      cases h
    · rw [if_neg hapart] at h
      cases h
      unfold Error.ofSharedCards
      split <;> rfl

/-- Hands that cannot be a deal are refused with other errors. -/
theorem endsRun_of_check {hands : Hands} {e : Error} (h : hands.check = .error e) :
    e.endsRun = false := by
  rcases except_bind_eq_error_iff.1 h with h | ⟨_, -, h⟩
  · exact endsRun_of_checkSeat h
  rcases except_bind_eq_error_iff.1 h with h | ⟨_, -, h⟩
  · exact endsRun_of_checkSeat h
  rcases except_bind_eq_error_iff.1 h with h | ⟨_, -, h⟩
  · exact endsRun_of_checkSeat h
  rcases except_bind_eq_error_iff.1 h with h | ⟨_, -, h⟩
  · exact endsRun_of_checkSeat h
  · cases h

end Hands

namespace Dealer

variable {d : Dealer} {watched : Bool} {s t : DealerSession} {number : Int} {deal : Deal}
  {e : Error}

/-! ## Draws -/

theorem meets_fillSeat (held : Option CardSet) (deck : CardSet) :
    Meets (fillSeat held deck) (fun _ => True) fun e _ => e.endsRun = false := by
  have hdraw : ∀ n : Int, Meets (deck.draw n) (fun _ => True) fun e _ => e.endsRun = false := by
    intro n src
    split
    · trivial
    · rename_i e rest h
      rcases CardSet.draw_eq_error h with rfl | rfl | rfl <;> rfl
  rw [fillSeat_eq]
  by_cases h : (held.getD ∅).size < handSize
  · rw [if_pos h]
    exact (hdraw _).bind fun _ _ => meets_pure trivial
  · rw [if_neg h]
    exact meets_pure trivial

/-- Where no hands can be drawn it is for other errors. -/
theorem meets_drawHands (d : Dealer) :
    Meets d.drawHands (fun _ => True) fun e _ => e.endsRun = false := by
  refine (meets_fillSeat _ _).bind fun north _ => ?_
  refine (meets_fillSeat _ _).bind fun east _ => ?_
  refine (meets_fillSeat _ _).bind fun south _ => ?_
  exact (meets_fillSeat _ _).bind fun _ _ => meets_pure trivial

/-! ## Hands -/

/-- **Hands are accepted if every descriptor accepts the hand of its seat** and the rule accepts all
four. -/
theorem judge_eq_true_iff {hands : Hands} : d.judge s hands = .ok true ↔
    (∀ seat descriptor, d.descriptors.get seat = some descriptor →
      descriptor.accepts (hands.get seat).cards = .ok true) ∧ s.verdict hands = .ok true := by
  rw [← fits_eq_true_iff, judge, except_bind_eq_ok_iff]
  constructor
  · rintro ⟨fits, hfits, hverdict⟩
    cases fits with
    | false => cases hverdict
    | true => exact ⟨hfits, hverdict⟩
  · rintro ⟨hfits, hverdict⟩
    exact ⟨true, hfits, hverdict⟩

/-- On hands that divide the deck no descriptor fails. -/
theorem exists_fits_eq_ok (d : Dealer) {hands : Hands} (h : hands.IsDivision) :
    ∃ fits, d.fits hands = .ok fits := by
  cases hfits : d.fits hands with
  | ok fits => exact ⟨fits, rfl⟩
  | error e =>
    obtain ⟨seat, -, hseat⟩ := except_allM_eq_error hfits
    cases hdescriptor : d.descriptors.get seat with
    | none =>
      rw [hdescriptor] at hseat
      cases hseat
    | some descriptor =>
      have hdeck : (hands.get seat).cards.subset CardSet.deck = true :=
        CardSet.subset_iff.2 fun i hi => h.has_deck hi
      rw [hdescriptor] at hseat
      cases hseat.symm.trans (descriptor.accepts_eq_any hdeck)

/-! ## Deals -/

/-- No deal is made if the run gives no hands, or hands that cannot be a deal. -/
theorem deal_eq_error_iff : d.deal number watched s = .error e t ↔
    d.accepted watched s = .error e t ∨
      ∃ hands, d.accepted watched s = .ok hands t ∧ hands.check = .error e := by
  rw [Dealer.deal, estate_bind_eq_error_iff]
  refine or_congr_right ⟨?_, ?_⟩
  · rintro ⟨hands, u, haccepted, hmake⟩
    refine ⟨hands, ?_⟩
    unfold Deal.ofHands at hmake
    cases hcheck : hands.check with
    | error e' =>
      rw [hcheck] at hmake
      cases hmake
      exact ⟨haccepted, rfl⟩
    | ok _ =>
      rw [hcheck] at hmake
      cases hmake
  · rintro ⟨hands, haccepted, hcheck⟩
    refine ⟨hands, t, haccepted, ?_⟩
    rw [Deal.ofHands, hcheck]
    rfl

/-- **Where one of the dealer's own errors comes from.** -/
theorem deal_eq_error_iff_of_endsRun (he : e.endsRun = true) :
    d.deal number watched s = .error e t ↔
      (e = d.exhausted ∧ d.UsesUp watched s (d.limit s) t) ∨
        (∃ n, e = .cancelled n ∧ d.IsCancelled watched s n t) ∨ d.Raises watched s e t := by
  have hcheck : ¬ ∃ hands, d.accepted watched s = .ok hands t ∧ hands.check = .error e := by
    rintro ⟨hands, -, h⟩
    rw [Hands.endsRun_of_check h] at he
    cases he
  -- a draw that fails and a check that fails give no error of this kind
  have hstops : ¬ d.Stops watched s e t := by
    rintro ⟨hs, mid, rest, -, hdraw, -⟩
    rw [(meets_drawHands d).of_error hdraw] at he
    cases he
  rw [deal_eq_error_iff, accepted_eq_error_iff, or_iff_left hcheck, or_iff_right hstops]

/-- **A deal is made of the first hands that are accepted.** -/
theorem deal_eq_ok_iff_goesOn : d.deal number watched s = .ok deal t ↔ ∃ hs hands mid rest,
    d.GoesOn watched s hs mid ∧ d.drawHands mid = .ok hands rest ∧ d.judge s hands = .ok true ∧
      hands.check = .ok () ∧ deal = ⟨hands, d.vulnerability, number⟩ ∧
        t = d.after s (hs ++ [hands]) rest := by
  rw [deal_eq_ok_iff]
  simp only [accepted_eq_ok_iff_goesOn]
  constructor
  · rintro ⟨hands, ⟨hs, mid, rest, hgoes, hdraw, hjudge, ht⟩, hcheck, hdeal⟩
    exact ⟨hs, hands, mid, rest, hgoes, hdraw, hjudge, hcheck, hdeal, ht⟩
  · rintro ⟨hs, hands, mid, rest, hgoes, hdraw, hjudge, hcheck, hdeal, ht⟩
    exact ⟨hands, ⟨hs, mid, rest, hgoes, hdraw, hjudge, ht⟩, hcheck, hdeal⟩

/-- **The attempts are used up if the limit is reached first.** -/
theorem deal_eq_unsatisfied_iff {n : Int} : d.deal number watched s = .error (.unsatisfied n) t ↔
    (∃ m : Nat, d.maxAttempts = some m ∧ n = m ∧ d.UsesUp watched s m t) ∨
      d.Raises watched s (.unsatisfied n) t := by
  rw [deal_eq_error_iff_of_endsRun rfl, exhausted, limit]
  cases hmax : d.maxAttempts with
  | none => simp
  | some m => simp

/-- **A cancellation is reported where it is seen,** before an attempt that the limit allows. -/
theorem deal_eq_cancelled_iff {n : Nat} : d.deal number watched s = .error (.cancelled n) t ↔
    d.IsCancelled watched s n t ∨ d.Raises watched s (.cancelled n) t := by
  rw [deal_eq_error_iff_of_endsRun rfl, exhausted]
  cases hmax : d.maxAttempts with
  | none => simp
  | some m => simp

/-- **Only a run without an end is called endless.** -/
theorem deal_eq_endless_iff : (∃ t, d.deal number watched s = .error .endless t) ↔
    d.RunsOn watched s ∨ ∃ t, d.Raises watched s .endless t := by
  simp only [deal_eq_error_iff_of_endsRun (rfl : Error.endless.endsRun = true), runsOn_iff,
    exhausted, limit]
  cases hmax : d.maxAttempts with
  | none => simp [exists_or]
  | some m => simp

/-- **The outcomes of dealing,** for every dealer, session and number. A deal is made of the first
hands that are accepted, with the masks taken up to them. The attempts are used up if all that the
limit allows are turned down and no cancellation is seen before any of them, and a cancellation is
reported with the number of attempts before it, if it is seen before an attempt that would still be
made. Without a limit there is no end otherwise. Of these errors a descriptor and the rule may give
one as well. Hands are accepted if every descriptor accepts its seat's hand (`fits_eq_true_iff`) and
the rule accepts all four. The hands that a dealer draws can be a deal if it was made of sets that
end. -/
theorem deal_outcomes (d : Dealer) (number : Int) (watched : Bool) (s : DealerSession) :
    (∀ deal t, d.deal number watched s = .ok deal t ↔ ∃ hs hands mid rest,
      d.GoesOn watched s hs mid ∧ d.drawHands mid = .ok hands rest ∧
        d.judge s hands = .ok true ∧ hands.check = .ok () ∧
          deal = ⟨hands, d.vulnerability, number⟩ ∧ t = d.after s (hs ++ [hands]) rest) ∧
    (∀ n t, d.deal number watched s = .error (.unsatisfied n) t ↔
      (∃ m : Nat, d.maxAttempts = some m ∧ n = m ∧ d.UsesUp watched s m t) ∨
        d.Raises watched s (.unsatisfied n) t) ∧
    (∀ n t, d.deal number watched s = .error (.cancelled n) t ↔
      d.IsCancelled watched s n t ∨ d.Raises watched s (.cancelled n) t) ∧
    ((∃ t, d.deal number watched s = .error .endless t) ↔
      d.RunsOn watched s ∨ ∃ t, d.Raises watched s .endless t) ∧
    (∀ hands, d.judge s hands = .ok true ↔
      (∀ seat descriptor, d.descriptors.get seat = some descriptor →
        descriptor.accepts (hands.get seat).cards = .ok true) ∧ s.verdict hands = .ok true) ∧
    (∀ predeal descriptors accept vulnerability maxAttempts setting,
      Dealer.new predeal descriptors accept vulnerability maxAttempts setting = .ok d →
      (∀ seat cards, predeal.get seat = some cards → cards.IsFinite) →
      ∀ src hands rest, d.drawHands src = .ok hands rest → hands.check = .ok ()) :=
  ⟨fun _ _ => deal_eq_ok_iff_goesOn, fun _ _ => deal_eq_unsatisfied_iff,
    fun _ _ => deal_eq_cancelled_iff, deal_eq_endless_iff, fun _ => judge_eq_true_iff,
    fun _ _ _ _ _ _ hnew hfinite _ _ _ hdraw =>
      check_of_drawHands (isSpread_of_new hnew hfinite) hdraw⟩

/-- Twelve clubs and a diamond. -/
def twelveClubs : HandDescriptor :=
  ⟨[⟨.matching [.suit (.exactly 0), .suit (.exactly 0), .suit (.exactly 1), .suit .joker], .full⟩]⟩

/-- A dealer that deals south one card more and west all the others. West must have twelve clubs,
and the rule wants ten points there and asks for a cancellation in its second call. -/
def clubDealer (limit : Nat) (masks : List Int) : Dealer where
  predeal := suitDealer.predeal
  descriptors := ⟨none, none, none, some twelveClubs⟩
  accept := some ⟨"honours", .either (.cancelAt 2) (.points [.west] 10 10)⟩
  vulnerability := .none
  maxAttempts := some limit
  source := .ofScript masks
  deck := suitDealer.deck

/-- South is dealt the diamond, so that west has too many clubs, then the ace of clubs, so that west
lacks points, and then the two of clubs. -/
def thirdTime : List Int := [0x400000000, 0x7fffffffffffffff, 0x4000000000000000,
  0x7fffffffffffffff, 0x4000000000000, 0x7fffffffffffffff, 1]

/-- South is dealt the ace of clubs, the diamond, the ace again, and then the two of clubs. The
second time the rule is not called. -/
def fourthTime : List Int := [0x4000000000000000, 0x7fffffffffffffff, 0x400000000,
  0x7fffffffffffffff, 0x4000000000000000, 0x7fffffffffffffff, 0x4000000000000, 0x7fffffffffffffff]

/-- Neither the descriptor nor the rule fails on the hands of such a dealer. -/
theorem not_raises_clubDealer {limit : Nat} {masks : List Int} :
    ¬ (clubDealer limit masks).Raises watched ((clubDealer limit masks).start false) e t := by
  have hsuits := isReady_of_new suitDealer_new suitDealer_predeal
  have hready : (clubDealer limit masks).IsReady :=
    ⟨hsuits.held_size, hsuits.held_deck, hsuits.held_apart, hsuits.deck_eq⟩
  rintro ⟨hs, hands, mid, rest, -, hdraw, hjudge, -⟩
  obtain ⟨fits, hfits⟩ := exists_fits_eq_ok _ (isDivision_of_drawHands hready hdraw)
  rw [judge, hfits] at hjudge
  cases fits <;> cases hjudge

/-- At three such dealers. The third hands are accepted, and a mask is left; the first ones were
turned down by the descriptor. With a limit of two the attempts are used up. The cancellation that
the rule asks for in the third attempt is seen before the fourth, of which the masks are left; where
it is asked for as the hands are accepted, it is not seen. -/
theorem deal_outcomes_clubs :
    (∃ deal t hs mid, (clubDealer 3 thirdTime).deal 1 true ((clubDealer 3 thirdTime).start false) =
        .ok deal t ∧ t.source.size = 1 ∧
      (clubDealer 3 thirdTime).GoesOn true ((clubDealer 3 thirdTime).start false) hs mid ∧
      twelveClubs.accepts deal.hands.west.cards = .ok true) ∧
    (∃ hands mid, (clubDealer 3 thirdTime).drawHands (.ofScript thirdTime) = .ok hands mid ∧
      (clubDealer 3 thirdTime).judge ((clubDealer 3 thirdTime).start false) hands ≠ .ok true) ∧
    (∃ t, (clubDealer 2 thirdTime).UsesUp true ((clubDealer 2 thirdTime).start false) 2 t ∧
      t.source.size = 3) ∧
    (∃ t, (clubDealer 4 fourthTime).IsCancelled true ((clubDealer 4 fourthTime).start false) 3 t ∧
      t.source.size = 2) ∧
    ∀ src hands rest, (clubDealer 3 thirdTime).drawHands src = .ok hands rest →
      hands.check = .ok () := by
  obtain ⟨haccepted, -, -, -, hjudged, hcheck⟩ :=
    deal_outcomes (clubDealer 3 thirdTime) 1 true ((clubDealer 3 thirdTime).start false)
  refine ⟨?_, ?_, ?_, ?_, ?_⟩
  · have hruns : passes (fun _ t => t.source.size == 1) ((clubDealer 3 thirdTime).deal 1 true
        ((clubDealer 3 thirdTime).start false)) = true := by decide +kernel
    obtain ⟨deal, t, hdeal, hleft⟩ := exists_of_passes hruns
    obtain ⟨hs, hands, mid, rest, hgoes, -, hjudge, -, rfl, -⟩ := (haccepted deal t).1 hdeal
    exact ⟨_, t, hs, mid, hdeal, beq_iff_eq.1 hleft, hgoes,
      ((hjudged hands).1 hjudge).1 .west twelveClubs rfl⟩
  · have hdraws : passes
        (fun hands _ => (twelveClubs.accepts hands.west.cards).toOption == some false)
        ((clubDealer 3 thirdTime).drawHands (.ofScript thirdTime)) = true := by decide +kernel
    obtain ⟨hands, mid, hdraw, hrejects⟩ := exists_of_passes hdraws
    refine ⟨hands, mid, hdraw, fun hjudge => ?_⟩
    have haccepts : twelveClubs.accepts hands.west.cards = .ok true :=
      ((hjudged hands).1 hjudge).1 .west twelveClubs rfl
    rw [haccepts] at hrejects
    cases hrejects
  · have hruns : (match (clubDealer 2 thirdTime).deal 1 true
        ((clubDealer 2 thirdTime).start false) with
      | .error (.unsatisfied n) t => n == 2 && t.source.size == 3
      | _ => false) = true := by decide +kernel
    split at hruns
    · rename_i n t hdeal
      rw [Bool.and_eq_true, beq_iff_eq, beq_iff_eq] at hruns
      obtain ⟨_, hunsatisfied, -⟩ :=
        deal_outcomes (clubDealer 2 thirdTime) 1 true ((clubDealer 2 thirdTime).start false)
      rcases (hunsatisfied n t).1 hdeal with ⟨m, hmax, -, hused⟩ | h
      · cases hmax
        exact ⟨t, hused, hruns.2⟩
      · exact absurd h not_raises_clubDealer
    · cases hruns
  · have hruns : (match (clubDealer 4 fourthTime).deal 1 true
        ((clubDealer 4 fourthTime).start false) with
      | .error (.cancelled n) t => n == 3 && t.source.size == 2
      | _ => false) = true := by decide +kernel
    split at hruns
    · rename_i n t hdeal
      rw [Bool.and_eq_true, beq_iff_eq, beq_iff_eq] at hruns
      obtain ⟨_, -, hcancelled, -⟩ :=
        deal_outcomes (clubDealer 4 fourthTime) 1 true ((clubDealer 4 fourthTime).start false)
      rcases (hcancelled n t).1 hdeal with h | h
      · rw [hruns.1] at h
        exact ⟨t, h, hruns.2⟩
      · exact absurd h not_raises_clubDealer
    · cases hruns
  · have hnew : Dealer.new suitDealer.predeal (clubDealer 3 thirdTime).descriptors
        (clubDealer 3 thirdTime).accept (.number 0) (some 3) (.given (.ofScript thirdTime)) =
          .ok (clubDealer 3 thirdTime) := rfl
    refine hcheck _ _ _ _ _ _ hnew fun seat cards hcards => ?_
    exact CardSet.isFinite_deck.of_subset (suitDealer_predeal seat cards hcards)

end Dealer

end ContractBridge
