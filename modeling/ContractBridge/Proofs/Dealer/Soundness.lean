/-
What a dealer deals.

`Dealer.Admits` collects everything that a dealer's settings ask of four hands: a division of the
deck in which every seat has the cards it is sure to hold, and which the descriptors and the rule
accept. Whatever the masks are, however often the dealer has dealt before and whether or not it
was told to cancel, hands that it deals are admitted.

The rule of a session is the dealer's rule after some calls (`Serves`). That is kept by every
attempt, and calls do not change verdicts, so a verdict in a session is one of the dealer's own
rule.
-/
import ContractBridge.Proofs.DealRule
import ContractBridge.Proofs.Dealer.Search

set_option autoImplicit false

namespace ContractBridge

namespace Dealer

variable {d : Dealer} {s t u : DealerSession} {hands : Hands}

/-! ## Sessions of a dealer -/

/-- **The session works with the dealer's rule,** after some calls of it. -/
def Serves (d : Dealer) (s : DealerSession) : Prop :=
  ∃ calls : List Hands, s.rule = d.accept.map fun accept => accept.rule.afterAll calls

theorem serves_start (d : Dealer) (cancelled : Bool) : d.Serves (d.start cancelled) := ⟨[], rfl⟩

theorem Serves.verdict_eq (hs : d.Serves s) (hands : Hands) :
    s.verdict hands = d.accept.elim (.ok true) fun accept => accept.rule.judge hands := by
  obtain ⟨calls, hrule⟩ := hs
  rw [DealerSession.verdict, hrule]
  cases d.accept with
  | none => rfl
  | some accept => exact DealRule.judge_afterAll _ _ _

theorem Serves.heard (hs : d.Serves s) (hands : Hands) : d.Serves (s.heard hands) := by
  obtain ⟨calls, hrule⟩ := hs
  refine ⟨calls ++ [hands], ?_⟩
  rw [DealerSession.heard, hrule]
  cases d.accept with
  | none => rfl
  | some accept =>
    show some ((accept.rule.afterAll calls).call hands).after =
      some (accept.rule.afterAll (calls ++ [hands]))
    rw [DealRule.afterAll_concat]

theorem Serves.of_settle {r : Option Hands} (hs : d.Serves s)
    (h : d.settle hands s = .ok r t) : d.Serves t := by
  rw [settle] at h
  split at h
  · cases h
  · cases h
    exact hs
  · split at h
    · cases h
    · cases h
      exact hs.heard hands

theorem Serves.of_attempt {r : Option Hands} (hs : d.Serves s) (h : d.attempt s = .ok r t) :
    d.Serves t := by
  obtain ⟨hands, source, -, hsettle⟩ := attempt_eq_ok_iff.1 h
  exact Serves.of_settle (s := { s with source }) hs hsettle

theorem Serves.of_rejected {watched : Bool} {n : Nat} (hs : d.Serves s)
    (h : Rejected d watched n s t) : d.Serves t := by
  induction h with
  | zero => exact hs
  | succ _ hnone _ ih => exact ih (hs.of_attempt hnone)

/-! ## Admitted hands -/

/-- **The hands meet every setting of the dealer.** -/
structure Admits (d : Dealer) (hands : Hands) : Prop where
  division : hands.IsDivision
  held : ∀ seat cards, d.predeal.get seat = some cards →
    cards.subset (hands.get seat).cards = true
  described : ∀ seat descriptor, d.descriptors.get seat = some descriptor →
    descriptor.accepts (hands.get seat).cards = .ok true
  judged : ∀ accept, d.accept = some accept → accept.rule.judge hands = .ok true

theorem fits_eq_true_iff : d.fits hands = .ok true ↔
    ∀ seat descriptor, d.descriptors.get seat = some descriptor →
      descriptor.accepts (hands.get seat).cards = .ok true := by
  have hall : ∀ seat, seat ∈ Seat.all := by
    intro seat
    cases seat <;> decide
  rw [fits, except_allM_eq_true_iff]
  constructor
  · intro h seat descriptor hdescriptor
    have hseat := h seat (hall seat)
    rwa [hdescriptor] at hseat
  · intro h seat _
    cases hdescriptor : d.descriptors.get seat with
    | none => rfl
    | some descriptor => exact h seat descriptor hdescriptor

theorem Serves.verdict_eq_true_iff (hs : d.Serves s) : s.verdict hands = .ok true ↔
    ∀ accept, d.accept = some accept → accept.rule.judge hands = .ok true := by
  rw [hs.verdict_eq]
  cases d.accept with
  | none => exact ⟨fun _ _ h => (by cases h), fun _ => rfl⟩
  | some accept =>
    constructor
    · intro h _ haccept
      cases haccept
      exact h
    · intro h
      exact h accept rfl

/-- A seat that is sure to hold some cards holds them in the hands that are drawn. -/
theorem subset_of_isFilled {deck cards : CardSet} {hand : Hand} {seat : Seat}
    (h : IsFilled (d.held seat) deck hand) (hcards : d.predeal.get seat = some cards) :
    cards.subset hand.cards = true := by
  rw [CardSet.subset_iff]
  intro i hi
  apply h.held_imp
  rw [held, hcards]
  exact hi

/-- **An attempt keeps only admitted hands.** -/
theorem admits_of_attempt (hd : d.IsReady) (hs : d.Serves s)
    (h : d.attempt s = .ok (some hands) t) : d.Admits hands := by
  obtain ⟨drawn, source, hdraw, hsettle⟩ := attempt_eq_ok_iff.1 h
  obtain ⟨hfits, hverdict, rfl, -⟩ := settle_eq_some_iff.1 hsettle
  have hserves : d.Serves { s with source } := hs
  refine ⟨isDivision_of_drawHands hd hdraw, ?_, fits_eq_true_iff.1 hfits,
    hserves.verdict_eq_true_iff.1 hverdict⟩
  intro seat cards hcards
  exact subset_of_isFilled (isFilled_of_drawHands hd.isSpread hdraw seat) hcards

/-! ## Deals -/

/-- A deal is made of accepted hands that pass its checks. -/
theorem deal_eq_ok_iff {number : Int} {watched : Bool} {deal : Deal} :
    d.deal number watched s = .ok deal t ↔ ∃ hands, d.accepted watched s = .ok hands t ∧
      hands.check = .ok () ∧ deal = ⟨hands, d.vulnerability, number⟩ := by
  rw [Dealer.deal, estate_bind_eq_ok_iff]
  constructor
  · rintro ⟨hands, u, haccepted, hmake⟩
    rw [Deal.ofHands] at hmake
    cases hcheck : hands.check with
    | error e =>
      rw [hcheck] at hmake
      cases hmake
    | ok _ =>
      rw [hcheck] at hmake
      cases hmake
      exact ⟨hands, haccepted, hcheck, rfl⟩
  · rintro ⟨hands, haccepted, hcheck, rfl⟩
    refine ⟨hands, t, haccepted, ?_⟩
    rw [Deal.ofHands, hcheck]
    rfl

theorem dealWith_given (d : Dealer) (source : MaskSource) (number : Int) (watched : Bool)
    (s : DealerSession) : d.dealWith (some (.given source)) number watched s =
      match d.deal number watched { s with source } with
      | .ok deal after => .ok deal { after with source := s.source }
      | .error e after => .error e { after with source := s.source } := rfl

/-- A deal with other masks is a deal of the session that has them. -/
theorem dealWith_eq_ok {setting : Option SourceSetting} {number : Int} {watched : Bool}
    {deal : Deal} (h : d.dealWith setting number watched s = .ok deal t) :
    ∃ source t', d.deal number watched { s with source } = .ok deal t' := by
  rw [dealWith] at h
  split at h
  · exact ⟨s.source, t, h⟩
  · cases h
  · rename_i source _
    split at h
    · rename_i after hdeal
      cases h
      exact ⟨source, after, hdeal⟩
    · cases h

/-- **Whatever a dealer deals is what it was asked for.** A dealer made from deck cards, in any
session with its rule and on any masks: the hands divide the deck and meet every setting, a seat
with thirteen held cards has just these, and the deal has the dealer's vulnerability and the number
that was asked for. -/
theorem admits_of_dealWith {predeal : Seats (Option CardSet)}
    {descriptors : Seats (Option HandDescriptor)} {accept : Option NamedRule}
    {vulnerability : Literal} {maxAttempts : Option Int} {setting : SourceSetting}
    (hnew : Dealer.new predeal descriptors accept vulnerability maxAttempts setting = .ok d)
    (hdeck : ∀ seat cards, predeal.get seat = some cards → cards.subset CardSet.deck = true)
    (hs : d.Serves s) {source : Option SourceSetting} {number : Int} {watched : Bool}
    {deal : Deal} (h : d.dealWith source number watched s = .ok deal t) :
    d.Admits deal.hands ∧
      (∀ seat cards, d.predeal.get seat = some cards → cards.size = handSize →
        (deal.hands.get seat).cards = cards) ∧
      deal.vulnerability = d.vulnerability ∧ deal.number = number := by
  have hready : d.IsReady := isReady_of_new hnew hdeck
  obtain ⟨masks, after, hdeal⟩ := dealWith_eq_ok h
  obtain ⟨hands, haccepted, -, rfl⟩ := deal_eq_ok_iff.1 hdeal
  obtain ⟨n, u, -, hrejected, -, hattempt⟩ := accepted_eq_ok_iff.1 haccepted
  have hserves : d.Serves u := Serves.of_rejected (s := { s with source := masks }) hs hrejected
  have hadmits : d.Admits hands := admits_of_attempt hready hserves hattempt
  refine ⟨hadmits, ?_, rfl, rfl⟩
  intro seat cards hcards hsize
  have hsub := CardSet.subset_iff.1 (hadmits.held seat cards hcards)
  -- thirteen cards of a hand of thirteen are all of it
  apply Eq.symm
  apply CardSet.eq_of_subset_of_size_le (hadmits.division.isFinite seat) hsub
  rw [hadmits.division.size_eq seat, hsize]

/-- A dealer whose seats are sure of thirteen spades, thirteen hearts, twelve diamonds and nothing,
with a descriptor for the spades and a rule on the others. -/
def suitDealer : Dealer where
  predeal := ⟨some ⟨0x7ffc⟩, some ⟨0x7ffc0000⟩, some ⟨0x7ff800000000⟩, none⟩
  descriptors := ⟨some ⟨[⟨.matching [.suit (.exactly 13), .suit .joker, .suit .joker, .suit .joker],
    .ofEnds 10 10⟩]⟩, none, none, none⟩
  accept := some ⟨"rest", .points [.south, .west] 20 20⟩
  vulnerability := .none
  maxAttempts := some 5
  source := (MaskSource.ofSeed 0).uncounted
  deck := ⟨0x7ffc000400000000⟩

theorem suitDealer_new : Dealer.new suitDealer.predeal suitDealer.descriptors suitDealer.accept
    (.number 0) (some 5) .fresh = .ok suitDealer := rfl

theorem suitDealer_predeal (seat : Seat) (cards : CardSet)
    (h : suitDealer.predeal.get seat = some cards) : cards.subset CardSet.deck = true := by
  cases seat <;> cases h <;> decide

/-- At one such dealer: the first mask gives south the last diamond, the second gives west the
clubs. -/
theorem admits_of_dealWith_suits : ∃ deal t,
    Dealer.new suitDealer.predeal suitDealer.descriptors suitDealer.accept (.number 0) (some 5)
        .fresh = .ok suitDealer ∧
      suitDealer.dealWith (some (.given (.ofScript [0x400000000, 0x7fffffffffffffff]))) 7 false
        (suitDealer.start false) = .ok deal t ∧
      suitDealer.Admits deal.hands ∧ deal.number = 7 := by
  have hruns : (match suitDealer.dealWith
      (some (.given (.ofScript [0x400000000, 0x7fffffffffffffff]))) 7 false
      (suitDealer.start false) with
    | .ok _ _ => true
    | .error _ _ => false) = true := by decide +kernel
  split at hruns
  · rename_i deal t hdeal
    obtain ⟨hadmits, -, -, hnumber⟩ := admits_of_dealWith suitDealer_new suitDealer_predeal
      (serves_start suitDealer false) hdeal
    exact ⟨deal, t, suitDealer_new, hdeal, hadmits, hnumber⟩
  · cases hruns

end Dealer

end ContractBridge
