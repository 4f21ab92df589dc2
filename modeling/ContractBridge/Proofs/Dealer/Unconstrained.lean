/-
A dealer that is told nothing.

A random deal is made in two ways: three hands are drawn and the fourth is what is left, or a
dealer without any constraint draws all four. Thirteen cards drawn from the thirteen that are left
are these thirteen whatever the masks (`Drawn.IsOf.given_eq`), so on the same masks the two give the
same hands. Only the dealer takes masks for the fourth hand.
-/
import ContractBridge.Proofs.Dealer.Outcome

set_option autoImplicit false

namespace ContractBridge

open Drawing MaskSource

/-- The first board is dealt with nobody vulnerable. -/
theorem Vulnerability.ofBoard_one : Vulnerability.ofBoard 1 = .ok .none := by
  unfold ofBoard
  rw [if_pos (by decide +kernel)]
  rfl

/-! ## Three hands drawn -/

theorem Hands.isLocal_random : IsLocal Hands.random := by
  refine (CardSet.isLocal_draw _).bind fun north => ?_
  refine (CardSet.isLocal_draw _).bind fun east => ?_
  exact (CardSet.isLocal_draw _).bind fun south => isLocal_pure _

namespace Dealer

variable {d : Dealer} {hands : Hands} {src rest : MaskSource}

/-- **The dealer has no constraints:** no cards are predealt, and nothing is asked of the hands. -/
structure IsFree (d : Dealer) : Prop where
  predeal_eq : d.predeal = .same none
  descriptors_eq : d.descriptors = .same none
  accept_eq : d.accept = none
  deck_eq : d.deck = CardSet.deck

theorem isFree_of_new {vulnerability : Literal} {maxAttempts : Option Int}
    {setting : SourceSetting}
    (h : Dealer.new (.same none) (.same none) none vulnerability maxAttempts setting = .ok d) :
    d.IsFree := by
  obtain ⟨_, -, h⟩ := except_bind_eq_ok_iff.1 h
  obtain ⟨_, -, h⟩ := except_bind_eq_ok_iff.1 h
  obtain ⟨_, -, h⟩ := except_bind_eq_ok_iff.1 h
  obtain ⟨used, hused, h⟩ := except_bind_eq_ok_iff.1 h
  cases h
  cases hused
  exact ⟨rfl, rfl, rfl, rfl⟩

theorem fillSeat_none_eq_ok {deck deck' : CardSet} {hand : Hand}
    (h : fillSeat none deck src = .ok (hand, deck') rest) : ∃ drawn,
      deck.draw handSize src = .ok drawn rest ∧ hand = ⟨drawn.given⟩ ∧ deck' = drawn.rest := by
  obtain ⟨drawn, _, hdraw, hpure⟩ := estate_bind_eq_ok_iff.1 h
  cases hpure
  exact ⟨drawn, hdraw, rfl, rfl⟩

/-- **A dealer without constraints draws like a random deal** and takes more masks for the fourth
hand. -/
theorem IsFree.random_of_drawHands (hd : d.IsFree) (h : d.drawHands src = .ok hands rest) :
    ∃ mid more, Hands.random src = .ok hands mid ∧ Yields mid more rest := by
  obtain ⟨deck₁, deck₂, deck₃, deck₄, src₁, src₂, src₃, hnorth, heast, hsouth, hwest⟩ :=
    drawHands_eq_ok h
  rw [hd.predeal_eq] at hnorth heast hsouth hwest
  rw [hd.deck_eq] at hnorth
  obtain ⟨n, hn, hnorth', rfl⟩ := fillSeat_none_eq_ok hnorth
  obtain ⟨e, he, heast', rfl⟩ := fillSeat_none_eq_ok heast
  obtain ⟨s, hs, hsouth', rfl⟩ := fillSeat_none_eq_ok hsouth
  obtain ⟨w, hw, hwest', -⟩ := fillSeat_none_eq_ok hwest
  -- fifty-two cards without three times thirteen are the thirteen that west draws
  obtain ⟨hdeck₁, hsize₁⟩ := CardSet.rest_of_draw CardSet.isFinite_deck hn
  obtain ⟨hdeck₂, hsize₂⟩ := CardSet.rest_of_draw hdeck₁ he
  obtain ⟨hdeck₃, hsize₃⟩ := CardSet.rest_of_draw hdeck₂ hs
  have hsize : handSize = s.rest.size := by
    rw [CardSet.size_deck] at hsize₁
    unfold handSize at *
    omega
  have hgiven : w.given = s.rest := by
    have hdrawn := CardSet.isOf_of_draw hdeck₃ hw
    rw [hsize] at hdrawn
    exact hdrawn.given_eq hdeck₃
  have hhands : hands = ⟨⟨n.given⟩, ⟨e.given⟩, ⟨s.given⟩, ⟨s.rest⟩⟩ := by
    rw [← hgiven, ← hnorth', ← heast', ← hsouth', ← hwest']
  obtain ⟨more, hmore, -⟩ := CardSet.isLocal_draw _ hw
  refine ⟨src₃, more, ?_, hmore⟩
  rw [hhands]
  refine estate_bind_eq_ok_iff.2 ⟨n, src₁, hn, ?_⟩
  refine estate_bind_eq_ok_iff.2 ⟨e, src₂, he, ?_⟩
  exact estate_bind_eq_ok_iff.2 ⟨s, src₃, hs, rfl⟩

/-- Whatever a dealer without constraints draws is accepted. -/
theorem IsFree.judge_eq (hd : d.IsFree) {s : DealerSession} (hs : d.Serves s) (hands : Hands) :
    d.judge s hands = .ok true := by
  have hfits : d.fits hands = .ok true := by
    rw [fits_eq_true_iff, hd.descriptors_eq]
    intro seat descriptor hdescriptor
    cases seat <;> cases hdescriptor
  rw [judge, hfits]
  show s.verdict hands = .ok true
  rw [hs.verdict_eq, hd.accept_eq]
  rfl

/-- **A dealer without constraints deals what it draws first.** -/
theorem IsFree.drawHands_of_deal (hd : d.IsFree) {s t : DealerSession} (hs : d.Serves s)
    {number : Int} {watched : Bool} {deal : Deal}
    (h : d.deal number watched s = .ok deal t) :
    d.drawHands s.source = .ok deal.hands t.source ∧ deal.hands.check = .ok () := by
  obtain ⟨hs', hands, mid, rest, hgoes, hdraw, -, hcheck, rfl, rfl⟩ := deal_eq_ok_iff_goesOn.1 h
  cases hs' with
  | nil =>
    have hdrawn := hgoes.drawn
    cases hdrawn
    exact ⟨hdraw, hcheck⟩
  | cons first others =>
    -- hands that were turned down before would have been accepted
    have hrefused := hgoes.refused first List.mem_cons_self
    rw [hd.judge_eq hs] at hrefused
    cases hrefused

theorem random_eq_ok {hands : Hands} {v : Literal} {number : Int} {state : Vulnerability}
    (hstate : (Vulnerability.orOfBoard v number >>= Vulnerability.ofLiteral) = .ok state)
    (hrandom : Hands.random src = .ok hands rest) (hcheck : hands.check = .ok ()) :
    Deal.random v number src = .ok ⟨hands, state, number⟩ rest := by
  obtain ⟨w, hw, hw'⟩ := except_bind_eq_ok_iff.1 hstate
  rw [Deal.random, hw]
  refine estate_bind_eq_ok_iff.2 ⟨w, src, rfl, estate_bind_eq_ok_iff.2 ⟨hands, rest, hrandom, ?_⟩⟩
  rw [Deal.ofHandsLiteral, hcheck, hw']
  rfl

/-- **A random deal agrees with a dealer that is told nothing.** Wherever such a dealer deals on a
list of masks, a random deal on the same list has the same four hands, for every vulnerability and
number that there is one for. The masks that it takes are the first of those that the dealer
takes. -/
theorem random_agrees {vulnerability : Literal} {maxAttempts : Option Int}
    {setting : SourceSetting}
    (hnew : Dealer.new (.same none) (.same none) none vulnerability maxAttempts setting = .ok d)
    {masks : List Int} {number : Int} {cancelled watched : Bool} {deal : Deal} {t : DealerSession}
    (h : d.deal number watched { d.start cancelled with source := .ofScript masks } =
      .ok deal t) :
    ∃ used more tail, masks = used ++ (more ++ tail) ∧
      t.source = ⟨.script tail, some (used.length + more.length)⟩ ∧
      Deal.random .none 1 (.ofScript masks) =
        .ok ⟨deal.hands, .none, 1⟩ ⟨.script (more ++ tail), some used.length⟩ ∧
      ∀ v board state,
        (Vulnerability.orOfBoard v board >>= Vulnerability.ofLiteral) = .ok state →
        Deal.random v board (.ofScript masks) =
          .ok ⟨deal.hands, state, board⟩ ⟨.script (more ++ tail), some used.length⟩ := by
  have hfree := isFree_of_new hnew
  have hserves : d.Serves { d.start cancelled with source := .ofScript masks } :=
    serves_start d cancelled
  obtain ⟨hdraw, hcheck⟩ := hfree.drawHands_of_deal hserves h
  obtain ⟨mid, more, hrandom, hmore⟩ := hfree.random_of_drawHands hdraw
  obtain ⟨used, hused, -⟩ := Hands.isLocal_random hrandom
  obtain ⟨left, rfl, rfl⟩ := hused.of_script
  obtain ⟨tail, rfl, hsource⟩ := hmore.of_script
  have hagrees : ∀ v board state,
      (Vulnerability.orOfBoard v board >>= Vulnerability.ofLiteral) = .ok state →
      Deal.random v board (.ofScript (used ++ (more ++ tail))) =
        .ok ⟨deal.hands, state, board⟩ ⟨.script (more ++ tail), some used.length⟩ := by
    intro v board state hstate
    have hrun := random_eq_ok hstate hrandom hcheck
    rwa [Option.map_some, Nat.zero_add] at hrun
  have hboard : (Vulnerability.orOfBoard .none 1 >>= Vulnerability.ofLiteral) = .ok .none := by
    rw [Vulnerability.orOfBoard, Vulnerability.ofBoard_one]
    rfl
  refine ⟨used, more, tail, rfl, ?_, hagrees .none 1 .none hboard, hagrees⟩
  rw [hsource, Option.map_some, Option.map_some, Nat.zero_add]

/-- A dealer that is told nothing. -/
def freeDealer : Dealer where
  predeal := .same none
  descriptors := .same none
  accept := none
  vulnerability := .none
  maxAttempts := some defaultMaxAttempts.toNat
  source := (MaskSource.ofSeed 0).uncounted
  deck := CardSet.deck

/-- On a mask for each suit and one more: the dealer takes four masks and the random deal three. -/
theorem random_agrees_suits : ∃ deal t,
    Dealer.new (.same none) (.same none) none (.number 0) (some defaultMaxAttempts) .fresh =
      .ok freeDealer ∧
    freeDealer.deal 7 false { freeDealer.start false with
      source := .ofScript [0x7ffc, 0x7ffc0000, 0x7ffc00000000, 0x7ffc000000000000, 5] } =
      .ok deal t ∧ t.source.taken = some 4 ∧
    ∃ rest, Deal.random .none 1
      (.ofScript [0x7ffc, 0x7ffc0000, 0x7ffc00000000, 0x7ffc000000000000, 5]) =
        .ok ⟨deal.hands, .none, 1⟩ rest := by
  have hnew : Dealer.new (.same none) (.same none) none (.number 0) (some defaultMaxAttempts)
      .fresh = .ok freeDealer := rfl
  have hruns : passes (fun _ t => t.source.taken == some 4) (freeDealer.deal 7 false
      { freeDealer.start false with
        source := .ofScript [0x7ffc, 0x7ffc0000, 0x7ffc00000000, 0x7ffc000000000000, 5] }) =
      true := by decide +kernel
  obtain ⟨deal, t, hdeal, htaken⟩ := exists_of_passes hruns
  obtain ⟨used, more, tail, -, -, hrandom, -⟩ := random_agrees hnew hdeal
  exact ⟨deal, t, hnew, hdeal, beq_iff_eq.1 htaken, _, hrandom⟩

end Dealer

end ContractBridge
