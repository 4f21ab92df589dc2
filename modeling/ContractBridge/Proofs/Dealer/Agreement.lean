/-
Predealt cards, checked one call at a time or all at once.

A dealer's settings are checked seat by seat against the cards used so far; a builder takes each
call's cards out of its deck and gives a seat's old cards back first. The two look at different
things, the cards that are gone and the cards that are left, and the builder sees calls in any order
and seats more than once. They agree all the same: calls that are all accepted leave sets that the
dealer's check accepts, with the deck that it computes, and settings that the check accepts can be
made by calls in any order.

Both directions go through one condition on the sets, at most thirteen cards each and no card in two
of them. The dealer's check is that condition (`usedCards_eq_ok_iff`), and accepted calls keep it
(`IsComplete`, `IsApart`).
-/
import ContractBridge.Proofs.Dealer.Filling
import ContractBridge.Proofs.Dealer.Predeal

set_option autoImplicit false

namespace ContractBridge

/-! ## Settings by the names of seats -/

namespace PerSeat

variable {α : Type} {entries : List (Literal × Option α)} {seats seats' : Seats (Option α)}

/-- Entries for different seats. -/
def IsDistinct (entries : List (Literal × Option α)) : Prop :=
  entries.Pairwise fun e f => Seat.ofLiteral e.1 ≠ Seat.ofLiteral f.1

theorem place_cons_eq_ok_iff {entry : Literal × Option α} :
    place .ok (entry :: entries) seats = .ok seats' ↔
      ∃ seat, Seat.ofLiteral entry.1 = .ok seat ∧
        place .ok entries (seats.set seat entry.2) = .ok seats' := by
  show (Seat.ofLiteral entry.1 >>= fun seat => place .ok entries (seats.set seat entry.2)) = _ ↔ _
  exact except_bind_eq_ok_iff

/-- A seat that no entry names keeps what it had. -/
theorem get_of_place_of_forall_ne {seat : Seat} (h : place .ok entries seats = .ok seats')
    (hne : ∀ e ∈ entries, Seat.ofLiteral e.1 ≠ .ok seat) : seats'.get seat = seats.get seat := by
  induction entries generalizing seats with
  | nil =>
    cases h
    rfl
  | cons entry entries ih =>
    obtain ⟨other, hother, h⟩ := place_cons_eq_ok_iff.1 h
    obtain ⟨hentry, hne⟩ := List.forall_mem_cons.1 hne
    have hseat : seat ≠ other := by
      rintro rfl
      exact hentry hother
    rw [ih h hne, Seats.get_set, if_neg hseat]

/-- Of entries for different seats every one is in the place that it names. -/
theorem get_of_place (h : place .ok entries seats = .ok seats') (hdistinct : IsDistinct entries) :
    ∀ e ∈ entries, ∃ seat, Seat.ofLiteral e.1 = .ok seat ∧ seats'.get seat = e.2 := by
  induction entries generalizing seats with
  | nil => simp
  | cons entry entries ih =>
    obtain ⟨seat, hseat, h⟩ := place_cons_eq_ok_iff.1 h
    obtain ⟨hentry, hdistinct⟩ := List.pairwise_cons.1 hdistinct
    refine List.forall_mem_cons.2 ⟨⟨seat, hseat, ?_⟩, ih h hdistinct⟩
    have hlater : ∀ e ∈ entries, Seat.ofLiteral e.1 ≠ .ok seat := by
      intro e he heq
      exact hentry e he (hseat.trans heq.symm)
    rw [get_of_place_of_forall_ne h hlater, Seats.get_set, if_pos rfl]

/-- The setting with an entry for each seat that has one. -/
def ofSeats (f : Seat → Option α) : PerSeat (Option α) :=
  named (Seat.all.filterMap fun seat => (f seat).map fun a => (.number seat.index, some a))

theorem resolve_ofSeats (f : Seat → Option α) : (ofSeats f).resolve .ok = .ok (.ofFn f) := by
  simp only [ofSeats, Seat.all, Seats.ofFn, List.filterMap_cons, List.filterMap_nil]
  cases f .north <;> cases f .east <;> cases f .south <;> cases f .west <;> rfl

end PerSeat

namespace Dealer

/-- A dealer that is told about predealt cards and nothing else. -/
def ofPredeal (predeal : PerSeat (Option CardSet)) : Except Error Dealer := do
  new (← predeal.resolve .ok) (.same none) none (.number Vulnerability.none.index)
    (some defaultMaxAttempts) .fresh

/-- The dealer with some predealt cards and a deck, and nothing else said. -/
def plain (predeal : Seats (Option CardSet)) (deck : CardSet) : Dealer where
  predeal := predeal
  descriptors := .same none
  accept := none
  vulnerability := .none
  maxAttempts := some defaultMaxAttempts.toNat
  source := (MaskSource.ofSeed 0).uncounted
  deck := deck

theorem ofPredeal_eq_ok_iff {predeal : PerSeat (Option CardSet)} {d : Dealer} :
    ofPredeal predeal = .ok d ↔ ∃ seats used, predeal.resolve .ok = .ok seats ∧
      usedCards seats = .ok used ∧ d = plain seats (CardSet.deck \ used) := by
  -- of the settings only the predealt cards can be refused
  have hnew : ∀ seats, new seats (.same none) none (.number Vulnerability.none.index)
      (some defaultMaxAttempts) .fresh =
        (usedCards seats >>= fun used => .ok (plain seats (CardSet.deck \ used))) := fun _ => rfl
  rw [ofPredeal, except_bind_eq_ok_iff]
  constructor
  · rintro ⟨seats, hseats, h⟩
    rw [hnew] at h
    obtain ⟨used, hused, hd⟩ := except_bind_eq_ok_iff.1 h
    exact ⟨seats, used, hseats, hused, (Except.ok.inj hd).symm⟩
  · rintro ⟨seats, used, hseats, hused, rfl⟩
    refine ⟨seats, hseats, ?_⟩
    rw [hnew, hused]
    rfl

end Dealer

/-! ## One call after the other -/

namespace DealerBuilder

variable {b b' : DealerBuilder} {c : Call} {calls : List Call} {seat : Seat}

/-- Calls made one after the other, as long as none is refused. -/
def runAll : List Call → EStateM Error DealerBuilder Unit
  | [] => pure ()
  | c :: calls => do
    c.run
    runAll calls

theorem Call.run_eq_ok_iff : c.run b = .ok () b' ↔
    ∃ seat cards, neededCards c.seat c.cards = .ok (seat, cards) ∧ cards.size ≤ handSize ∧
      cards.subset (b.returned seat) = true ∧ b' = b.withPredeal seat cards := by
  constructor
  · intro h
    cases hneeded : neededCards c.seat c.cards with
    | error e =>
      rw [Call.run_of_error hneeded] at h
      cases h
    | ok needed =>
      obtain ⟨seat, cards⟩ := needed
      rw [Call.run_of_ok hneeded] at h
      by_cases hsize : cards.size ≤ handSize
      · by_cases hsubset : cards.subset (b.returned seat) = true
        · rw [predeal_of_subset hsize hsubset] at h
          cases h
          exact ⟨seat, cards, rfl, hsize, hsubset, rfl⟩
        · rw [predeal_of_not_subset hsize (Bool.not_eq_true _ ▸ hsubset)] at h
          cases h
      · rw [predeal_of_lt (Nat.lt_of_not_le hsize)] at h
        cases h
  · rintro ⟨seat, cards, hneeded, hsize, hsubset, rfl⟩
    rw [Call.run_of_ok hneeded, predeal_of_subset hsize hsubset]

theorem runAll_cons_eq_ok_iff : runAll (c :: calls) b = .ok () b' ↔
    ∃ mid, c.run b = .ok () mid ∧ runAll calls mid = .ok () b' := by
  rw [runAll, estate_bind_eq_ok_iff]
  constructor
  · rintro ⟨_, mid, hrun, h⟩
    exact ⟨mid, hrun, h⟩
  · rintro ⟨mid, hrun, h⟩
    exact ⟨(), mid, hrun, h⟩

/-- Accepted calls lose no card and put none in two places. -/
theorem isApart_of_runAll (hcomplete : b.IsComplete) (hapart : b.IsApart)
    (h : runAll calls b = .ok () b') : b'.IsComplete ∧ b'.IsApart := by
  induction calls generalizing b with
  | nil =>
    cases h
    exact ⟨hcomplete, hapart⟩
  | cons c calls ih =>
    obtain ⟨mid, hrun, h⟩ := runAll_cons_eq_ok_iff.1 h
    obtain ⟨seat, cards, -, hsize, hsubset, rfl⟩ := Call.run_eq_ok_iff.1 hrun
    exact ih (hcomplete.withPredeal hsize hsubset) (hapart.withPredeal hsubset) h

/-! ## What the calls leave -/

/-- The cards that a call gives to a seat. -/
def Call.given? (c : Call) (seat : Seat) : Option CardSet :=
  match neededCards c.seat c.cards with
  | .ok (other, cards) => if seat = other then some cards else none
  | .error _ => none

/-- **The last cards that some calls give to a seat,** if any do. -/
def lastGiven (calls : List Call) (seat : Seat) : Option CardSet :=
  (calls.filterMap (·.given? seat)).getLast?

theorem lastGiven_cons (c : Call) (calls : List Call) (seat : Seat) :
    lastGiven (c :: calls) seat = (lastGiven calls seat).or (c.given? seat) := by
  unfold lastGiven
  cases hgiven : c.given? seat with
  | none => simp [hgiven]
  | some cards =>
    simp only [List.filterMap_cons, hgiven, List.getLast?_cons]
    cases (calls.filterMap (·.given? seat)).getLast? <;> rfl

theorem get_hands_of_runAll (h : runAll calls b = .ok () b') (seat : Seat) :
    b'.hands.get seat = (lastGiven calls seat).or (b.hands.get seat) := by
  induction calls generalizing b with
  | nil =>
    cases h
    rfl
  | cons c calls ih =>
    obtain ⟨mid, hrun, h⟩ := runAll_cons_eq_ok_iff.1 h
    obtain ⟨other, cards, hneeded, -, -, rfl⟩ := Call.run_eq_ok_iff.1 hrun
    rw [ih h, lastGiven_cons, Option.or_assoc]
    by_cases hseat : seat = other
    · simp [Call.given?, hneeded, withPredeal, hseat]
    · simp [Call.given?, hneeded, withPredeal, hseat]

/-- Predealing leaves the other settings alone. -/
theorem build_of_runAll (h : runAll calls b = .ok () b') : b'.build =
    Dealer.new b'.hands b.descriptors b.accept (.number b.vulnerability.index) b.maxAttempts
      b.source := by
  induction calls generalizing b with
  | nil =>
    cases h
    rfl
  | cons c calls ih =>
    obtain ⟨mid, hrun, h⟩ := runAll_cons_eq_ok_iff.1 h
    obtain ⟨other, cards, -, -, -, rfl⟩ := Call.run_eq_ok_iff.1 hrun
    have hbuild := ih h
    exact hbuild

theorem hands_of_runAll_new (h : runAll calls new = .ok () b) :
    b.hands = .ofFn (lastGiven calls) := by
  apply Seats.ext_get
  intro seat
  have hnew : new.hands.get seat = none := by cases seat <;> rfl
  rw [get_hands_of_runAll h, hnew, Option.or_none, Seats.get_ofFn]

theorem build_eq_ofPredeal (h : runAll calls new = .ok () b) :
    b.build = Dealer.ofPredeal (.ofSeats (lastGiven calls)) := by
  rw [build_of_runAll h, hands_of_runAll_new h, Dealer.ofPredeal, PerSeat.resolve_ofSeats]
  rfl

/-- The dealer's check accepts what a builder holds that has every card in one place. -/
theorem usedCards_hands (hcomplete : b.IsComplete) (hapart : b.IsApart) :
    Dealer.usedCards b.hands = .ok b.heldHands.cards := by
  refine Dealer.usedCards_eq_ok_iff.2 ⟨hcomplete.size_le, fun seat i hi => ?_, rfl⟩
  obtain ⟨other, hlt, hother⟩ := Hands.has_before_iff.1 hi
  have hne : other ≠ seat := by
    rintro rfl
    exact Nat.lt_irrefl _ hlt
  rw [Dealer.get_laidOut] at hother
  exact hapart.held_apart other seat hne i hother

/-! ## Settings made call by call -/

/-- The call that makes an entry of a setting. -/
def Call.ofEntry (entry : Literal × CardSet) : Call := ⟨entry.1, some entry.2⟩

/-- The setting with some sets under the names of seats. -/
def asSetting (entries : List (Literal × CardSet)) : List (Literal × Option CardSet) :=
  entries.map fun entry => (entry.1, some entry.2)

/-- Sets that are in the deck and apart from each other are all accepted. -/
theorem exists_runAll {entries : List (Literal × CardSet)}
    (hseat : ∀ e ∈ entries, ∃ seat, Seat.ofLiteral e.1 = .ok seat)
    (hsize : ∀ e ∈ entries, e.2.size ≤ handSize)
    (hsubset : ∀ e ∈ entries, e.2.subset b.deck = true)
    (hapart : entries.Pairwise fun e f => ∀ i, e.2.has i = true → f.2.has i = false) :
    ∃ b', runAll (entries.map .ofEntry) b = .ok () b' := by
  induction entries generalizing b with
  | nil => exact ⟨b, rfl⟩
  | cons e entries ih =>
    obtain ⟨⟨seat, hof⟩, hseat⟩ := List.forall_mem_cons.1 hseat
    obtain ⟨hesize, hsize⟩ := List.forall_mem_cons.1 hsize
    obtain ⟨hesubset, hsubset⟩ := List.forall_mem_cons.1 hsubset
    obtain ⟨heapart, hapart⟩ := List.pairwise_cons.1 hapart
    have hneeded : neededCards e.1 (some e.2) = .ok (seat, e.2) := by
      rw [neededCards, hof]
      rfl
    have hreturned : e.2.subset (b.returned seat) = true := by
      rw [CardSet.subset_iff] at hesubset ⊢
      exact fun i hi => has_returned_iff.2 (.inl (hesubset i hi))
    have hrun : (Call.ofEntry e).run b = .ok () (b.withPredeal seat e.2) :=
      Call.run_eq_ok_iff.2 ⟨seat, e.2, hneeded, hesize, hreturned, rfl⟩
    -- the other sets have none of the cards that the call takes out of the deck
    have hleft : ∀ f ∈ entries, f.2.subset (b.withPredeal seat e.2).deck = true := by
      intro f hf
      rw [CardSet.subset_iff]
      intro i hi
      refine has_deck_withPredeal_iff.2
        ⟨has_returned_iff.2 (.inl (CardSet.subset_iff.1 (hsubset f hf) i hi)), ?_⟩
      by_contra htaken
      rw [heapart f hf i (Bool.not_eq_false _ ▸ htaken)] at hi
      cases hi
    obtain ⟨b', h⟩ := ih hseat hsize hleft hapart
    exact ⟨b', runAll_cons_eq_ok_iff.2 ⟨_, hrun, h⟩⟩

/-- The sets of a setting that the dealer's check accepts are small enough and apart. -/
theorem apart_of_ofPredeal {entries : List (Literal × CardSet)} {d : Dealer}
    (hdistinct : PerSeat.IsDistinct (asSetting entries))
    (h : Dealer.ofPredeal (.named (asSetting entries)) = .ok d) :
    (∀ e ∈ entries, (∃ seat, Seat.ofLiteral e.1 = .ok seat) ∧ e.2.size ≤ handSize) ∧
      entries.Pairwise fun e f => ∀ i, e.2.has i = true → f.2.has i = false := by
  obtain ⟨seats, used, hresolve, hused, -⟩ := Dealer.ofPredeal_eq_ok_iff.1 h
  obtain ⟨hsize, hbefore, -⟩ := Dealer.usedCards_eq_ok_iff.1 hused
  have hplaced : ∀ e ∈ entries, ∃ seat, Seat.ofLiteral e.1 = .ok seat ∧
      ((Dealer.laidOut seats).get seat).cards = e.2 := by
    intro e he
    obtain ⟨seat, hseat, hget⟩ :=
      PerSeat.get_of_place hresolve hdistinct _ (List.mem_map_of_mem he)
    exact ⟨seat, hseat, by rw [Dealer.get_laidOut, hget, Option.getD_some]⟩
  refine ⟨fun e he => ?_, ?_⟩
  · obtain ⟨seat, hseat, hcards⟩ := hplaced e he
    refine ⟨⟨seat, hseat⟩, ?_⟩
    rw [← hcards, Dealer.get_laidOut]
    exact hsize seat
  · have hpairs := List.pairwise_map.1 hdistinct
    refine hpairs.imp_of_mem fun {e f} he hf hne i hi => ?_
    obtain ⟨seat, hseat, hcards⟩ := hplaced e he
    obtain ⟨other, hother, hcards'⟩ := hplaced f hf
    have hne' : seat ≠ other := by
      rintro rfl
      exact hne (hseat.trans hother.symm)
    rw [← hcards] at hi
    rw [← hcards']
    refine Hands.apart_of_before (fun seat i hi => ?_) hne' hi
    rw [Dealer.get_laidOut]
    exact hbefore seat i hi

/-- **Predealing call by call and all at once agree.** After calls that are all accepted every card
is in one place, and the dealer that is built is the one made from the last sets given, with the
builder's deck. What is accepted all at once for different seats is accepted call by call in any
order. -/
theorem build_agrees :
    (∀ calls b, runAll calls new = .ok () b →
      b.deck = CardSet.deck \ b.heldHands.cards ∧
      (∀ s o, s ≠ o → b.held s ∩ b.held o = ∅) ∧
      ∃ d, b.build = .ok d ∧ Dealer.ofPredeal (.ofSeats (lastGiven calls)) = .ok d ∧
        d.predeal = b.hands ∧ d.deck = b.deck) ∧
    ∀ entries : List (Literal × CardSet), (∀ e ∈ entries, e.2.subset CardSet.deck = true) →
      PerSeat.IsDistinct (asSetting entries) →
      (∃ d, Dealer.ofPredeal (.named (asSetting entries)) = .ok d) →
      ∀ order : List (Literal × CardSet), order.Perm entries →
        ∃ b, runAll (order.map .ofEntry) new = .ok () b := by
  constructor
  · intro calls b h
    obtain ⟨hcomplete, hapart⟩ := isApart_of_runAll isComplete_new isApart_new h
    have hdeck := hcomplete.deck_eq hapart
    refine ⟨hdeck, fun s o hne => ?_, ?_⟩
    · exact CardSet.isEmpty_iff.1 (CardSet.inter_isEmpty_iff.2 (hapart.held_apart s o hne))
    · have hmade : Dealer.ofPredeal (.ofSeats (lastGiven calls)) =
          .ok (.plain b.hands (CardSet.deck \ b.heldHands.cards)) := by
        refine Dealer.ofPredeal_eq_ok_iff.2 ⟨b.hands, _, ?_, usedCards_hands hcomplete hapart, rfl⟩
        rw [PerSeat.resolve_ofSeats, hands_of_runAll_new h]
      exact ⟨_, (build_eq_ofPredeal h).trans hmade, hmade, rfl, hdeck.symm⟩
  · rintro entries hdeck hdistinct ⟨d, h⟩ order horder
    obtain ⟨hentries, hapart⟩ := apart_of_ofPredeal hdistinct h
    have hsymm : ∀ {e f : Literal × CardSet}, (∀ i, e.2.has i = true → f.2.has i = false) →
        ∀ i, f.2.has i = true → e.2.has i = false := by
      intro e f hef i hf
      by_contra he
      rw [hef i (Bool.not_eq_false _ ▸ he)] at hf
      cases hf
    exact exists_runAll (fun e he => (hentries e (horder.mem_iff.1 he)).1)
      (fun e he => (hentries e (horder.mem_iff.1 he)).2)
      (fun e he => hdeck e (horder.mem_iff.1 he)) ((horder.pairwise_iff hsymm).2 hapart)

/-- North gets the ace of spades, east the king, and then north the ace and the queen instead. -/
def aceReplaced : List Call := honoursDealt ++ [⟨.number 0, some (.single 14 ∪ .single 12)⟩]

/-- The king for east and the ace for north. -/
def kingAndAce : List (Literal × CardSet) := [(.text "e", .single 13), (.text "N", .single 14)]

/-- At these calls the dealer has what north was given last, and at these entries the calls are
accepted in the other order as well. -/
theorem build_agrees_honours :
    (∃ b d, runAll aceReplaced new = .ok () b ∧ b.build = .ok d ∧
      d.predeal.north = some (.single 14 ∪ .single 12) ∧ d.deck = b.deck) ∧
    (∀ e ∈ kingAndAce, e.2.subset CardSet.deck = true) ∧
    PerSeat.IsDistinct (asSetting kingAndAce) ∧
    (∃ d, Dealer.ofPredeal (.named (asSetting kingAndAce)) = .ok d) ∧
    ∃ b, runAll (kingAndAce.reverse.map .ofEntry) new = .ok () b := by
  obtain ⟨hbuilds, hruns⟩ := build_agrees
  have hrun : ∃ b, runAll aceReplaced new = .ok () b := ⟨_, rfl⟩
  have hdeck : ∀ e ∈ kingAndAce, e.2.subset CardSet.deck = true := by
    simp only [kingAndAce, List.forall_mem_cons]
    decide
  have hdistinct : PerSeat.IsDistinct (asSetting kingAndAce) := by
    have hne : Seat.ofLiteral (.text "e") ≠ Seat.ofLiteral (.text "N") := by
      rw [show Seat.ofLiteral (.text "e") = .ok .east from rfl,
        show Seat.ofLiteral (.text "N") = .ok .north from rfl]
      simp
    simpa [PerSeat.IsDistinct, asSetting, kingAndAce] using hne
  have haccepted : ∃ d, Dealer.ofPredeal (.named (asSetting kingAndAce)) = .ok d := ⟨_, rfl⟩
  refine ⟨?_, hdeck, hdistinct, haccepted,
    hruns kingAndAce hdeck hdistinct haccepted _ (List.reverse_perm _)⟩
  obtain ⟨b, hrun⟩ := hrun
  obtain ⟨-, -, d, hbuild, -, hpredeal, hleft⟩ := hbuilds aceReplaced b hrun
  refine ⟨b, d, hrun, hbuild, ?_, hleft⟩
  rw [hpredeal, hands_of_runAll_new hrun]
  rfl

end DealerBuilder

end ContractBridge
