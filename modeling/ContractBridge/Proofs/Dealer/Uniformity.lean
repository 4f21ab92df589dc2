/-
Every deal that a dealer can make is as likely as every other.

Two divisions of the deck that both have the held cards differ by a permutation of the dealer's
deck (`exists_rename_of_divisions`), and drawing hands commutes with such a permutation. But to
rename all masks would also rename the attempts that were turned down before, and these need not
be turned down any more. So only the masks of the last attempt are renamed. How many masks that
leaves alone depends on the sequence; the map from sequences that deal the one division to those
that deal the other is one-to-one all the same, because the attempts that are turned down can be
read off the result: they take the same masks there.
-/
import Mathlib.Combinatorics.Enumerative.DoubleCounting
import ContractBridge.Proofs.CardSet.Uniformity
import ContractBridge.Proofs.Dealer.Soundness

set_option autoImplicit false

namespace ContractBridge

open MaskSource Drawing

/-- Four hands with their cards renamed. -/
def Hands.rename (π : Renaming) (hands : Hands) : Hands :=
  hands.map fun hand => ⟨hand.cards.rename π⟩

namespace Dealer

variable {d : Dealer} {hands hands' : Hands} {π : Renaming} {used : List Int}

/-! ## Renamed hands -/

/-- A seat filled up with renamed masks from a renamed deck, if its held cards stay what they
are. -/
theorem takes_fillSeat_rename {held : Option CardSet} {deck rest : CardSet} {hand : Hand}
    (hdeck : deck.IsLow) (hheld : (held.getD ∅).rename π = held.getD ∅)
    (h : Takes (fillSeat held deck) used (hand, rest)) :
    rest.IsLow ∧ Takes (fillSeat held (deck.rename π)) (used.map (renameMask π))
      (⟨hand.cards.rename π⟩, rest.rename π) := by
  rw [fillSeat_eq] at h ⊢
  by_cases hlt : (held.getD ∅).size < handSize
  · rw [if_pos hlt] at h ⊢
    obtain ⟨u, v, drawn, rfl, hdraw, hpure⟩ :=
      (takes_bind_iff (CardSet.isLocal_draw _) fun _ => isLocal_pure _).1 h
    obtain ⟨rfl, hresult⟩ := takes_pure_iff.1 hpure
    cases hresult
    have hrest := (CardSet.isOf_of_takes hdeck.isFinite hdraw).rest_eq
    refine ⟨hdeck.of_has_imp fun i hi => ?_, ?_⟩
    · rw [hrest, CardSet.has_diff, Bool.and_eq_true] at hi
      exact hi.1
    · rw [List.map_append, CardSet.rename_union, hheld]
      exact (CardSet.takes_draw_rename hdeck hdraw π).bind takes_pure
  · rw [if_neg hlt] at h ⊢
    obtain ⟨rfl, hresult⟩ := takes_pure_iff.1 h
    cases hresult
    refine ⟨hdeck, ?_⟩
    rw [hheld]
    exact takes_pure

/-- **Renamed masks deal renamed hands,** if the held cards and the deck stay what they are. -/
theorem takes_drawHands_rename (hdeck : d.deck.IsLow) (hself : d.deck.rename π = d.deck)
    (hheld : ∀ seat, (d.held seat).rename π = d.held seat) (h : Takes d.drawHands used hands) :
    Takes d.drawHands (used.map (renameMask π)) (hands.rename π) := by
  obtain ⟨src, rest, hyields⟩ := exists_yields used
  obtain ⟨deck₁, deck₂, deck₃, deck₄, src₁, src₂, src₃, hnorth, heast, hsouth, hwest⟩ :=
    drawHands_eq_ok (h hyields)
  obtain ⟨u₁, hu₁, hnorth⟩ := isLocal_fillSeat _ _ hnorth
  obtain ⟨u₂, hu₂, heast⟩ := isLocal_fillSeat _ _ heast
  obtain ⟨u₃, hu₃, hsouth⟩ := isLocal_fillSeat _ _ hsouth
  obtain ⟨u₄, hu₄, hwest⟩ := isLocal_fillSeat _ _ hwest
  -- the masks of the whole are those of the four seats, and each seat's can be renamed
  have hused : used = u₁ ++ (u₂ ++ (u₃ ++ (u₄ ++ []))) :=
    hyields.eq (hu₁.append (hu₂.append (hu₃.append (hu₄.append (.nil _)))))
  obtain ⟨hlow₁, hn⟩ := takes_fillSeat_rename hdeck (hheld .north) hnorth
  obtain ⟨hlow₂, he⟩ := takes_fillSeat_rename hlow₁ (hheld .east) heast
  obtain ⟨hlow₃, hs⟩ := takes_fillSeat_rename hlow₂ (hheld .south) hsouth
  obtain ⟨hlow₄, hw⟩ := takes_fillSeat_rename hlow₃ (hheld .west) hwest
  rw [hself] at hn
  rw [hused]
  simp only [List.map_append]
  exact hn.bind (he.bind (hs.bind (hw.bind takes_pure)))

/-! ## Divisions with the held cards -/

theorem IsReady.deck_isLow (hd : d.IsReady) : d.deck.IsLow :=
  CardSet.isLow_deck.of_has_imp fun _ hi => hd.isSpread.deck_has_deck hi

theorem Admits.held_imp (h : d.Admits hands) {seat : Seat} {i : Nat}
    (hi : (d.held seat).has i = true) : (hands.get seat).cards.has i = true := by
  rw [Dealer.held] at hi
  cases hcards : d.predeal.get seat with
  | none =>
    rw [hcards, Option.getD_none, CardSet.has_empty] at hi
    cases hi
  | some cards =>
    rw [hcards, Option.getD_some] at hi
    exact CardSet.subset_iff.1 (h.held seat cards hcards) i hi

/-- The cards that the seats hold besides the held ones cut up the dealer's deck. -/
theorem Admits.isCut (hd : d.IsReady) (h : d.Admits hands) :
    d.deck.IsCut fun seat => (hands.get seat).cards \ d.held seat where
  has_imp seat i hi := by
    rw [CardSet.has_diff, Bool.and_eq_true, Bool.not_eq_true'] at hi
    refine hd.isSpread.deck_iff.2 ⟨h.division.has_deck hi.1, ?_⟩
    intro other
    rw [← Bool.not_eq_true]
    intro hother
    by_cases hne : seat = other
    · rw [hne, hother] at hi
      cases hi.2
    · -- a card held at another seat is in that seat's hand, so it is not in this one
      have hoff := h.division.has_eq_false hne hi.1
      rw [h.held_imp hother] at hoff
      cases hoff
  unique i hi := by
    obtain ⟨hdeck, hfree⟩ := hd.isSpread.deck_iff.1 hi
    obtain ⟨seat, hseat⟩ := h.division.has_deck_iff.1 hdeck
    refine ⟨seat, ?_, ?_⟩
    · show ((hands.get seat).cards \ d.held seat).has i = true
      rw [CardSet.has_diff, hseat, hfree seat]
      rfl
    · intro other hother
      rw [CardSet.has_diff, Bool.and_eq_true] at hother
      by_contra hne
      rw [h.division.has_eq_false hne hother.1] at hseat
      cases hseat

/-- A hand is its held cards and the others. -/
theorem Admits.held_union (h : d.Admits hands) (seat : Seat) :
    d.held seat ∪ ((hands.get seat).cards \ d.held seat) = (hands.get seat).cards := by
  apply CardSet.ext
  intro i
  rw [CardSet.has_union, CardSet.has_diff]
  cases hi : (d.held seat).has i with
  | false => rw [Bool.false_or, Bool.not_false, Bool.and_true]
  | true => rw [h.held_imp hi, Bool.true_or]

/-- **Two admitted divisions differ by a permutation of the deck.** -/
theorem exists_rename_of_admits (hd : d.IsReady) (h : d.Admits hands) (h' : d.Admits hands') :
    ∃ π : Renaming, d.deck.rename π = d.deck ∧
      (∀ seat, (d.held seat).rename π = d.held seat) ∧ hands.rename π = hands' := by
  have hsize : ∀ {hands : Hands}, d.Admits hands → ∀ seat,
      ((hands.get seat).cards \ d.held seat).size + (d.held seat).size = handSize := by
    intro hands h seat
    rw [CardSet.size_diff_add (h.division.isFinite seat) fun _ hi => h.held_imp hi,
      h.division.size_eq]
  have hsizes : ∀ seat, ((hands.get seat).cards \ d.held seat).size =
      ((hands'.get seat).cards \ d.held seat).size := by
    intro seat
    have hleft := hsize h seat
    have hright := hsize h' seat
    omega
  -- within the deck the seats' drawn cards are carried over, and held cards are outside of it
  obtain ⟨π, hout, hself, hparts⟩ :=
    CardSet.exists_rename_of_parts hd.deck_isLow (h.isCut hd) (h'.isCut hd) hsizes
  have hheld : ∀ seat, (d.held seat).rename π = d.held seat := by
    intro seat
    apply CardSet.rename_of_fixed (CardSet.isLow_deck.of_has_imp (hd.held_deck seat))
    intro p hp
    exact hout p (hd.isSpread.deck_apart hp)
  refine ⟨π, hself, hheld, ?_⟩
  apply Seats.ext_get
  intro seat
  have hcards : (hands.get seat).cards.rename π = (hands'.get seat).cards := by
    rw [← h.held_union seat, CardSet.rename_union, hheld, hparts, h'.held_union]
  rw [Hands.rename, Seats.get_map, hcards]

/-! ## Counting the sequences of masks -/

variable {k : Nat}

/-- The hands that a dealer deals on some masks, if they are enough for a deal. -/
def dealtOn (d : Dealer) (number : Int) (ms : Fin k → Mask) : Option Hands :=
  match d.dealWith (some (.given (.ofScript (scriptOf ms)))) number false (d.start false) with
  | .ok deal _ => some deal.hands
  | .error _ _ => none

/-- **On how many sequences of `k` masks exactly these hands are dealt.** -/
def dealCount (d : Dealer) (number : Int) (k : Nat) (hands : Hands) : Nat :=
  (Finset.univ.filter fun ms : Fin k → Mask => d.dealtOn number ms = some hands).card

theorem dealCount_pos {number : Int} {ms : Fin k → Mask} (h : d.dealtOn number ms = some hands) :
    0 < d.dealCount number k hands :=
  Finset.card_pos.2 ⟨ms, Finset.mem_filter.2 ⟨Finset.mem_univ ms, h⟩⟩

/-- The session of a dealer on some masks. -/
def sessionOn (d : Dealer) (ms : Fin k → Mask) : DealerSession :=
  { d.start false with source := .ofScript (scriptOf ms) }

theorem serves_sessionOn (d : Dealer) (ms : Fin k → Mask) : d.Serves (d.sessionOn ms) :=
  serves_start d false

/-- The number of attempts depends on the number of masks only. -/
theorem limit_sessionOn (d : Dealer) (ms ms' : Fin k → Mask) :
    d.limit (d.sessionOn ms) = d.limit (d.sessionOn ms') := by
  have hsize : ∀ ms : Fin k → Mask, (d.sessionOn ms).source.size = k := length_scriptOf
  simp only [limit, horizon, hsize]
  rfl

theorem dealtOn_eq_some_iff {number : Int} {ms : Fin k → Mask} (hands : Hands) :
    d.dealtOn number ms = some hands ↔ hands.check = .ok () ∧
      ∃ n u t, n < d.limit (d.sessionOn ms) ∧ Rejected d false n (d.sessionOn ms) u ∧
        d.attempt u = .ok (some hands) t := by
  have hrun : d.dealtOn number ms = match d.deal number false (d.sessionOn ms) with
      | .ok deal _ => some deal.hands
      | .error _ _ => none := by
    rw [dealtOn, dealWith_given, sessionOn]
    cases d.deal number false { d.start false with source := .ofScript (scriptOf ms) } <;> rfl
  rw [hrun]
  constructor
  · intro h
    cases hdeal : d.deal number false (d.sessionOn ms) with
    | error e t =>
      rw [hdeal] at h
      cases h
    | ok deal t =>
      rw [hdeal] at h
      cases h
      obtain ⟨hands, haccepted, hcheck, rfl⟩ := deal_eq_ok_iff.1 hdeal
      obtain ⟨n, u, hn, hrejected, -, hattempt⟩ := accepted_eq_ok_iff.1 haccepted
      exact ⟨hcheck, n, u, t, hn, hrejected, hattempt⟩
  · rintro ⟨hcheck, n, u, t, hn, hrejected, hattempt⟩
    have haccepted := accepted_eq_ok_iff.2 ⟨n, u, hn, hrejected, rfl, hattempt⟩
    rw [deal_eq_ok_iff.2 ⟨hands, haccepted, hcheck, rfl⟩]

/-- Only admitted hands are dealt; all others have a count of zero. -/
theorem admits_of_dealtOn {number : Int} {ms : Fin k → Mask} (hd : d.IsReady)
    (h : d.dealtOn number ms = some hands) : d.Admits hands := by
  obtain ⟨-, n, u, t, -, hrejected, hattempt⟩ := (dealtOn_eq_some_iff hands).1 h
  exact admits_of_attempt hd ((serves_sessionOn d ms).of_rejected hrejected) hattempt

/-- The masks of the last attempt renamed, and those before it left alone. -/
def RenamesLast (d : Dealer) (π : Renaming) (hands : Hands) (ms ms' : Fin k → Mask) : Prop :=
  ∃ n u t m, Rejected d false n (d.sessionOn ms') u ∧ d.attempt u = .ok (some hands) t ∧
    u.source.size + m = k ∧ ms' = renameFrom π m ms

/-- **The last attempt can be renamed.** -/
theorem exists_renamesLast {number : Int} (hd : d.IsReady) (h' : d.Admits (hands.rename π))
    (hself : d.deck.rename π = d.deck) (hheld : ∀ seat, (d.held seat).rename π = d.held seat)
    {ms : Fin k → Mask} (h : d.dealtOn number ms = some hands) :
    ∃ ms' : Fin k → Mask, d.dealtOn number ms' = some (hands.rename π) ∧
      d.RenamesLast π (hands.rename π) ms ms' := by
  obtain ⟨-, n, u, t, hn, hrejected, hattempt⟩ := (dealtOn_eq_some_iff hands).1 h
  obtain ⟨first, hfirst, hagain⟩ := hrejected.exists_used
  obtain ⟨tail, hscript, hsource⟩ := hfirst.of_script
  obtain ⟨drawn, source, hdraw, hsettle⟩ := attempt_eq_ok_iff.1 hattempt
  obtain ⟨-, -, rfl, -⟩ := settle_eq_some_iff.1 hsettle
  obtain ⟨used, hused, htakes⟩ := isLocal_drawHands d hdraw
  rw [hsource] at hused
  obtain ⟨tail, rfl, -⟩ := hused.of_script
  have hscript' := scriptOf_renameFrom π ms hscript
  rw [List.map_append] at hscript'
  -- the attempts that were turned down take the same masks, the last one takes renamed masks
  obtain ⟨taken, hyields⟩ := yields_script first
    (used.map (renameMask π) ++ tail.map (renameMask π)) (some 0)
  obtain ⟨taken', hyields'⟩ :=
    yields_script (used.map (renameMask π)) (tail.map (renameMask π)) taken
  let last : DealerSession :=
    { u with source := ⟨.script (used.map (renameMask π) ++ tail.map (renameMask π)), taken⟩ }
  have hu : d.Serves u := (serves_sessionOn d ms).of_rejected hrejected
  have hserves : d.Serves { last with source := ⟨.script (tail.map (renameMask π)), taken'⟩ } := hu
  have hattempt' : d.attempt last = .ok (some (hands.rename π)) _ := attempt_eq_ok_iff.2
    ⟨_, _, takes_drawHands_rename hd.deck_isLow hself hheld htakes hyields', settle_eq_some_iff.2
      ⟨fits_eq_true_iff.2 h'.described, hserves.verdict_eq_true_iff.2 h'.judged, rfl, rfl⟩⟩
  have hrejected' : Rejected d false n (d.sessionOn (renameFrom π first.length ms)) last := by
    have hagain' := hagain hyields
    rw [← hscript'] at hagain'
    exact hagain'
  refine ⟨renameFrom π first.length ms, ?_, n, last, _, first.length, hrejected', hattempt', ?_,
    rfl⟩
  · refine (dealtOn_eq_some_iff _).2
      ⟨h'.division.check_eq_ok, n, last, _, ?_, hrejected', hattempt'⟩
    rw [limit_sessionOn d _ ms]
    exact hn
  · have hlen := congrArg List.length hscript'
    simp only [length_scriptOf, List.length_append] at hlen
    show (used.map (renameMask π) ++ tail.map (renameMask π)).length + first.length = k
    rw [List.length_append]
    omega

/-- Which sequence was renamed can be read off the result. -/
theorem RenamesLast.injective {ms₁ ms₂ ms' : Fin k → Mask} (h₁ : d.RenamesLast π hands ms₁ ms')
    (h₂ : d.RenamesLast π hands ms₂ ms') : ms₁ = ms₂ := by
  obtain ⟨n₁, u₁, t₁, m₁, hrejected₁, hattempt₁, hm₁, hms₁⟩ := h₁
  obtain ⟨n₂, u₂, t₂, m₂, hrejected₂, hattempt₂, hm₂, hms₂⟩ := h₂
  obtain ⟨-, hu⟩ := hrejected₁.unique hrejected₂ hattempt₁ hattempt₂
  -- the masks left after the rejected attempts say from where on the masks are renamed
  have hm : m₁ = m₂ := by
    rw [hu] at hm₁
    omega
  rw [hm, hms₂] at hms₁
  exact (renameFrom_injective π m₂ hms₁).symm

/-! ## Fairness -/

/-- At least as many sequences deal the one division as the other. -/
theorem dealCount_le (hd : d.IsReady) (h : d.Admits hands) (h' : d.Admits hands') (number : Int)
    (k : Nat) : d.dealCount number k hands ≤ d.dealCount number k hands' := by
  obtain ⟨π, hself, hheld, rfl⟩ := exists_rename_of_admits hd h h'
  apply Finset.card_le_card_of_forall_subsingleton (d.RenamesLast π (hands.rename π))
  · intro ms hms
    obtain ⟨ms', hdealt, hrenames⟩ :=
      exists_renamesLast hd h' hself hheld (Finset.mem_filter.1 hms).2
    exact ⟨ms', Finset.mem_filter.2 ⟨Finset.mem_univ _, hdealt⟩, hrenames⟩
  · intro ms' _ ms₁ h₁ ms₂ h₂
    exact h₁.2.injective h₂.2

/-- **A dealer is fair, exactly.** Any two divisions of the deck that have the held cards and that
the descriptors and the rule accept are dealt on the same number of sequences of `k` masks, for
every `k` and whatever the limit on attempts. -/
theorem dealCount_eq_of_admits {predeal : Seats (Option CardSet)}
    {descriptors : Seats (Option HandDescriptor)} {accept : Option NamedRule}
    {vulnerability : Literal} {maxAttempts : Option Int} {setting : SourceSetting}
    (hnew : Dealer.new predeal descriptors accept vulnerability maxAttempts setting = .ok d)
    (hdeck : ∀ seat cards, predeal.get seat = some cards → cards.subset CardSet.deck = true)
    (h : d.Admits hands) (h' : d.Admits hands') (number : Int) (k : Nat) :
    d.dealCount number k hands = d.dealCount number k hands' := by
  have hready : d.IsReady := isReady_of_new hnew hdeck
  apply Nat.le_antisymm
  · exact dealCount_le hready h h' number k
  · exact dealCount_le hready h' h number k

/-- At the dealer of one suit to each seat: south is dealt the last diamond as often as the lowest
club. -/
theorem dealCount_eq_of_admits_suits :
    suitDealer.dealCount 7 2
        ⟨⟨⟨0x7ffc⟩⟩, ⟨⟨0x7ffc0000⟩⟩, ⟨⟨0x7ffc00000000⟩⟩, ⟨⟨0x7ffc000000000000⟩⟩⟩ =
      suitDealer.dealCount 7 2
        ⟨⟨⟨0x7ffc⟩⟩, ⟨⟨0x7ffc0000⟩⟩, ⟨⟨0x47ff800000000⟩⟩, ⟨⟨0x7ff8000400000000⟩⟩⟩ ∧
      0 < suitDealer.dealCount 7 2
        ⟨⟨⟨0x7ffc⟩⟩, ⟨⟨0x7ffc0000⟩⟩, ⟨⟨0x7ffc00000000⟩⟩, ⟨⟨0x7ffc000000000000⟩⟩⟩ := by
  have hready : suitDealer.IsReady := isReady_of_new suitDealer_new suitDealer_predeal
  let diamond : Fin 2 → Mask :=
    fun i => if i = 0 then ⟨0x400000000, by decide⟩ else ⟨0x7fffffffffffffff, by decide⟩
  let club : Fin 2 → Mask :=
    fun i => if i = 0 then ⟨0x4000000000000, by decide⟩ else ⟨0x7fffffffffffffff, by decide⟩
  have hdiamond : suitDealer.dealtOn 7 diamond = some
      ⟨⟨⟨0x7ffc⟩⟩, ⟨⟨0x7ffc0000⟩⟩, ⟨⟨0x7ffc00000000⟩⟩, ⟨⟨0x7ffc000000000000⟩⟩⟩ := by
    decide +kernel
  have hclub : suitDealer.dealtOn 7 club = some
      ⟨⟨⟨0x7ffc⟩⟩, ⟨⟨0x7ffc0000⟩⟩, ⟨⟨0x47ff800000000⟩⟩, ⟨⟨0x7ff8000400000000⟩⟩⟩ := by
    decide +kernel
  have hadmits := admits_of_dealtOn hready hdiamond
  have hadmits' := admits_of_dealtOn hready hclub
  exact ⟨dealCount_eq_of_admits suitDealer_new suitDealer_predeal hadmits hadmits' 7 2,
    dealCount_pos hdiamond⟩

end Dealer

end ContractBridge
