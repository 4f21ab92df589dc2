/-
Points card by card.

A point count goes over the columns of a grid and multiplies sizes with weights, in 64 bits. For a
set of deck cards this is the sum of the weights of its cards, cut to 64 bits at the end
(`evaluate_eq`), and sums over cards are additive: sets without a card in common have the points of
both together, the hands of a deal have the points of the deck, and a hand has those of its suits.
Taken rank by rank the sum goes over the sizes of the ranks in the set (`worth_eq_sum_ranks`), four at
most, so the counts with small weights (high-card points, controls, the quality of a suit) are told by
these sizes, and nothing is cut off.
-/
import Mathlib.Algebra.BigOperators.Group.Finset.Piecewise
import ContractBridge.Deal.Summary
import ContractBridge.PointCount
import ContractBridge.Proofs.Block
import ContractBridge.Proofs.CardSet.Grid
import ContractBridge.Proofs.CardSet.Honours
import ContractBridge.Proofs.Deal.Division

set_option autoImplicit false

namespace ContractBridge

/-! ## Sums in 64 bits -/

theorem isWord_wrap (n : Int) : IsWord (wrap n) := by
  have hlo := Int.le_bmod (x := n) (m := 0x10000000000000000) (by decide)
  have hhi := Int.bmod_lt (x := n) (m := 0x10000000000000000) (by decide)
  simp only [IsWord, minWord, maxWord, wrap]
  omega

theorem wrap_add_left (a b : Int) : wrap (wrap a + b) = wrap (a + b) := Int.bmod_add_bmod

theorem wrap_add_right (a b : Int) : wrap (a + wrap b) = wrap (a + b) := Int.add_bmod_bmod

/-- The entries of a list may be cut before they are added up. -/
theorem wrap_total_map_wrap (l : List Int) : wrap (total (l.map wrap)) = wrap (total l) := by
  induction l with
  | nil => rfl
  | cons n l ih =>
    rw [List.map_cons, total_cons, total_cons, wrap_add_left, ← wrap_add_right, ih, wrap_add_right]

/-! ## Sums over the suits -/

namespace Suit

theorem sum_eq {α : Type} [AddCommMonoid α] (f : Suit → α) :
    ∑ suit, f suit = f .spades + (f .hearts + (f .diamonds + f .clubs)) := by
  have hall : (Finset.univ : Finset Suit) = {.spades, .hearts, .diamonds, .clubs} := rfl
  rw [hall, Finset.sum_insert (by decide), Finset.sum_insert (by decide),
    Finset.sum_insert (by decide), Finset.sum_singleton]

theorem total_map_all (f : Suit → Nat) : total (all.map f) = ∑ suit, f suit := by
  rw [sum_eq]
  rfl

theorem countP_all (p : Suit → Bool) : all.countP p = ∑ suit, if p suit = true then 1 else 0 := by
  simp only [all, List.countP_cons, List.countP_nil, sum_eq]
  omega

end Suit

namespace CardSet

/-- The controls of a set: two for an ace and one for a king. -/
def controls (s : CardSet) : Nat := 2 * (s ∩ aces).size + (s ∩ kings).size

/-- The quality of a suit: two for the ace and the king, one each for queen, jack and ten. -/
def quality (s : CardSet) : Nat :=
  2 * (s ∩ aces).size + 2 * (s ∩ kings).size + (s ∩ queens).size + (s ∩ jacks).size +
    (s ∩ tens).size

end CardSet

namespace PointCount

variable {p : PointCount} {s t : CardSet} {hands : Hands} {suit : Suit} {i : Nat}

/-! ## The weights of cards -/

/-- The weight of the card at a place. -/
def weightAt (p : PointCount) (i : Nat) : Int := p.weights.getD (14 - i % laneWidth) 0

/-- **What a set is worth:** the weights of its cards added up. -/
def worth (p : PointCount) (s : CardSet) : Int := ∑ i ∈ s.places, p.weightAt i

/-- A weighted sum of sizes goes as far as there are sizes; a missing weight counts nothing. -/
theorem total_zipWith (weights : List Int) (n : Nat) (size : Nat → Nat) :
    total (List.zipWith (fun (k : Nat) (weight : Int) => k * weight)
      ((List.range n).map size) weights) =
      ∑ column ∈ Finset.range n, size column * weights.getD column 0 := by
  induction n generalizing weights size with
  | zero => rfl
  | succ n ih =>
    rw [List.range_succ_eq_map, List.map_cons, List.map_map, Finset.sum_range_succ']
    cases weights with
    | nil => simp
    | cons weight weights =>
      rw [List.zipWith_cons_cons, total_cons, ih, add_comm]
      rfl

/-- The size of a column counts the suits whose card of that column is in the set. -/
theorem columnSizes_squares (s : CardSet) : columnSizes s.squares =
    (List.range handSize).map fun column =>
      ∑ suit : Suit, if s.has (CardSet.squarePlace suit column) = true then 1 else 0 := by
  refine List.map_congr_left fun column hcolumn => ?_
  have hrow : ∀ suit, ((List.range handSize).map fun column =>
      s.has (CardSet.squarePlace suit column)).getD column false =
        s.has (CardSet.squarePlace suit column) := by
    intro suit
    simp [List.getD_eq_getElem?_getD, List.mem_range.1 hcolumn]
  rw [CardSet.squares, List.countP_map, ← Suit.countP_all]
  refine List.countP_congr fun suit _ => ?_
  rw [Function.comp_apply, hrow]

theorem weightAt_squarePlace {column : Nat} (hcolumn : column < handSize) :
    p.weightAt (CardSet.squarePlace suit column) = p.weights.getD column 0 := by
  simp only [handSize] at hcolumn
  have hback : 14 - CardSet.squarePlace suit column % laneWidth = column := by
    simp only [CardSet.squarePlace, laneWidth]
    omega
  rw [weightAt, hback]

/-- **The points of a set of deck cards are what its cards are worth,** cut to 64 bits. -/
theorem evaluate_eq (hs : s.subset .deck = true) : p.evaluate s = .ok (wrap (p.worth s)) := by
  have hworth : p.worth s = ∑ column ∈ Finset.range handSize,
      ((∑ suit : Suit, if s.has (CardSet.squarePlace suit column) = true then 1 else 0 : Nat) : Int)
        * p.weights.getD column 0 := by
    rw [worth, CardSet.sum_places hs]
    refine Finset.sum_congr rfl fun column hcolumn => ?_
    rw [Nat.cast_sum, Finset.sum_mul]
    refine Finset.sum_congr rfl fun suit _ => ?_
    rw [weightAt_squarePlace (Finset.mem_range.1 hcolumn)]
    split <;> simp
  rw [evaluate, CardSet.toGrid_eq hs, hworth, ← total_zipWith, ← columnSizes_squares]
  rfl

/-- A number of points that 64 bits hold is not cut. -/
theorem evaluate_eq_of_worth {n : Nat} (hs : s.subset .deck = true) (hworth : p.worth s = n)
    (hn : (n : Int) ≤ maxWord) : p.evaluate s = .ok n := by
  rw [evaluate_eq hs, hworth, wrap_eq_self]
  simp only [IsWord, minWord, maxWord] at hn ⊢
  omega

/-! ## Sets without a card in common -/

theorem worth_union (hs : s.IsFinite) (ht : t.IsFinite)
    (h : ∀ i, s.has i = true → t.has i = false) : p.worth (s ∪ t) = p.worth s + p.worth t := by
  rw [worth, CardSet.places_union hs ht, Finset.sum_union (CardSet.disjoint_places hs ht h)]
  rfl

/-- Sets without a card in common are worth together what they are worth one by one. -/
theorem worth_foldl_union {l : List CardSet} (hfinite : ∀ s ∈ l, s.IsFinite)
    (hapart : l.Pairwise fun s t => ∀ i, s.has i = true → t.has i = false) :
    p.worth (l.foldl (· ∪ ·) ∅) = total (l.map p.worth) := by
  -- the sets that are joined already are carried along, with those to come apart from them
  have hrun : ∀ t : CardSet, t.IsFinite →
      (∀ s ∈ l, ∀ i, t.has i = true → s.has i = false) →
      p.worth (l.foldl (· ∪ ·) t) = p.worth t + total (l.map p.worth) := by
    induction l with
    | nil =>
      intro t _ _
      exact (add_zero _).symm
    | cons s l ih =>
      intro t ht hnew
      obtain ⟨hs, hfinite⟩ := List.forall_mem_cons.1 hfinite
      obtain ⟨hbehind, hapart⟩ := List.pairwise_cons.1 hapart
      obtain ⟨hts, hnew⟩ := List.forall_mem_cons.1 hnew
      rw [List.foldl_cons, ih hfinite hapart (t ∪ s) (ht.union hs), worth_union ht hs hts,
        List.map_cons, total_cons, add_assoc]
      intro u hu i hi
      rw [CardSet.has_union, Bool.or_eq_true] at hi
      exact hi.elim (hnew u hu i) (hbehind u hu i)
  have hempty : p.worth ∅ = 0 := rfl
  rw [hrun ∅ (by decide) fun s _ i hi => by simp at hi, hempty, zero_add]

/-- **The hands of a division are worth what the deck is worth.** -/
theorem total_worth_hands (h : hands.IsDivision) :
    total (hands.toList.map fun hand => p.worth hand.cards) = p.worth .deck := by
  have hseats : hands.toList.map Hand.cards = Seat.all.map fun seat => (hands.get seat).cards := rfl
  have hcards : (hands.toList.map Hand.cards).foldl (· ∪ ·) ∅ = .deck := h.covers
  have hdifferent : Seat.all.Pairwise (· ≠ ·) := by decide
  rw [← hcards, worth_foldl_union, List.map_map]
  · rfl
  · rw [hseats, List.forall_mem_map]
    exact fun seat _ => h.isFinite seat
  · rw [hseats, List.pairwise_map]
    exact hdifferent.imp fun hne i hi => h.has_eq_false hne hi

/-- **A set of deck cards is worth what its suits are worth.** -/
theorem total_worth_suits (hs : s.subset .deck = true) :
    total (Suit.all.map fun suit => p.worth (s.inSuit suit)) = p.worth s := by
  have hfinite : s.IsFinite := CardSet.isFinite_deck.of_subset hs
  have hcards : (Suit.all.map s.inSuit).foldl (· ∪ ·) ∅ = s := by
    rw [List.foldl_map]
    exact CardSet.foldl_inSuit (CardSet.subset_iff.1 hs)
  have hdifferent : Suit.all.Pairwise (· ≠ ·) := by decide
  conv_rhs => rw [← hcards]
  rw [worth_foldl_union, List.map_map]
  · rfl
  · rw [List.forall_mem_map]
    exact fun suit _ => hfinite.inSuit suit
  · rw [List.pairwise_map]
    exact hdifferent.imp fun hne i hi => CardSet.has_inSuit_of_ne hne hi

/-! ## High-card points -/

/-- The cards of a rank are the places with that rank. -/
theorem size_inter_rankCards (hs : s.subset .deck = true) {rank : Nat} (hrank : rank < laneWidth) :
    ((s ∩ .rankCards rank).size : Int) = ∑ i ∈ s.places, if i % laneWidth = rank then 1 else 0 := by
  have hfinite : s.IsFinite := CardSet.isFinite_deck.of_subset hs
  have hplaces : (s ∩ .rankCards rank).places = s.places.filter (· % laneWidth = rank) := by
    ext i
    rw [CardSet.mem_places hfinite.inter, CardSet.has_inter, Bool.and_eq_true,
      Finset.mem_filter, CardSet.mem_places hfinite, CardSet.has_rankCards]
    refine and_congr_right fun hi => ?_
    obtain ⟨suit, column, hcolumn, rfl⟩ :=
      CardSet.has_deck_iff_square.1 (CardSet.subset_iff.1 hs i hi)
    simp only [CardSet.squarePlace, laneWidth, handSize] at hrank hcolumn ⊢
    constructor
    · rintro ⟨other, h⟩
      omega
    · intro h
      exact ⟨suit, by omega⟩
  rw [← CardSet.card_places, hplaces, Finset.natCast_card_filter]

/-- **What a set is worth, rank by rank:** a weight for each card of a rank, from the ace down. -/
theorem worth_eq_sum_ranks (hs : s.subset .deck = true) : p.worth s =
    ∑ column ∈ Finset.range handSize,
      ((s ∩ .rankCards (14 - column)).size : Int) * p.weights.getD column 0 := by
  have hrank : ∀ i ∈ s.places, p.weightAt i = ∑ column ∈ Finset.range handSize,
      (if i % laneWidth = 14 - column then 1 else 0) * p.weights.getD column 0 := by
    intro i hi
    have hfinite : s.IsFinite := CardSet.isFinite_deck.of_subset hs
    have hdeck := CardSet.subset_iff.1 hs i ((CardSet.mem_places hfinite).1 hi)
    rw [CardSet.has_deck, decide_eq_true_iff] at hdeck
    -- the rank of a card is that of one column only
    rw [Finset.sum_eq_single (14 - i % laneWidth), if_pos (by omega), one_mul, weightAt]
    · intro column hcolumn hne
      rw [Finset.mem_range, handSize] at hcolumn
      rw [if_neg (by omega), zero_mul]
    · intro hcolumn
      rw [Finset.mem_range, handSize] at hcolumn
      omega
  rw [worth, Finset.sum_congr rfl hrank, Finset.sum_comm]
  refine Finset.sum_congr rfl fun column hcolumn => ?_
  rw [size_inter_rankCards hs (by simp only [laneWidth]; omega), Finset.sum_mul]

/-- **High-card points are the worth of a set** with four for an ace down to one for a jack. -/
theorem worth_milton (hs : s.subset .deck = true) : milton.worth s = s.highCardPoints := by
  rw [worth_eq_sum_ranks hs, CardSet.highCardPoints]
  simp [Finset.sum_range_succ, handSize, milton, ofWeights, CardSet.aces, CardSet.kings,
    CardSet.queens, CardSet.jacks, mul_comm]

/-- The Milton count counts high-card points. -/
theorem evaluate_milton (hs : s.subset .deck = true) :
    milton.evaluate s = .ok s.highCardPoints := by
  have haces : (s ∩ .aces).size ≤ 4 := s.size_inter_rankCards_le (by decide)
  have hkings : (s ∩ .kings).size ≤ 4 := s.size_inter_rankCards_le (by decide)
  have hqueens : (s ∩ .queens).size ≤ 4 := s.size_inter_rankCards_le (by decide)
  have hjacks : (s ∩ .jacks).size ≤ 4 := s.size_inter_rankCards_le (by decide)
  apply evaluate_eq_of_worth hs (worth_milton hs)
  simp only [CardSet.highCardPoints, maxWord]
  omega

/-- A set has the high-card points of its suits. -/
theorem total_highCardPoints_suits (hs : s.subset .deck = true) :
    total (Suit.all.map fun suit => (s.inSuit suit).highCardPoints) = s.highCardPoints := by
  have hworth : total (Suit.all.map fun suit => milton.worth (s.inSuit suit)) = milton.worth s :=
    total_worth_suits hs
  simp only [worth_milton hs, worth_milton (CardSet.inSuit_subset hs _)] at hworth
  simp only [Suit.all, List.map_cons, List.map_nil, total_cons, total_nil] at hworth ⊢
  omega

/-- **Both ways to count high-card points agree.** For any set of deck cards, and for each of its
suits, the count by weights, four for an ace down to one for a jack, is the number of high-card
points; and the numbers of the four suits add up to that of the set. -/
theorem milton_agrees (hs : s.subset .deck = true) :
    milton.evaluate s = .ok s.highCardPoints ∧
      (∀ suit, milton.evaluate (s.inSuit suit) = .ok (s.inSuit suit).highCardPoints) ∧
      total (Suit.all.map fun suit => (s.inSuit suit).highCardPoints) = s.highCardPoints :=
  ⟨evaluate_milton hs, fun suit => evaluate_milton (CardSet.inSuit_subset hs suit),
    total_highCardPoints_suits hs⟩

/-- At the whole deck, and the ten points of its clubs. -/
theorem milton_agrees_deck : milton.evaluate .deck = .ok 40 ∧
    milton.evaluate (CardSet.deck.inSuit .clubs) = .ok 10 := by
  obtain ⟨hdeck, hsuits, -⟩ := milton_agrees (s := .deck) (by decide)
  exact ⟨hdeck, hsuits .clubs⟩

/-! ## Controls and quality -/

/-- Controls are counted by the aces and the kings. -/
theorem evaluate_controls (hs : s.subset .deck = true) : controls.evaluate s = .ok s.controls := by
  have haces : (s ∩ .aces).size ≤ 4 := s.size_inter_rankCards_le (by decide)
  have hkings : (s ∩ .kings).size ≤ 4 := s.size_inter_rankCards_le (by decide)
  apply evaluate_eq_of_worth hs
  · rw [worth_eq_sum_ranks hs, CardSet.controls]
    simp [Finset.sum_range_succ, handSize, controls, ofWeights, CardSet.aces, CardSet.kings,
      mul_comm]
  · simp only [CardSet.controls, maxWord]
    omega

/-- The quality of a suit is counted by its five highest ranks. -/
theorem evaluate_suitQuality (hs : s.subset .deck = true) :
    suitQuality.evaluate s = .ok s.quality := by
  have haces : (s ∩ .aces).size ≤ 4 := s.size_inter_rankCards_le (by decide)
  have hkings : (s ∩ .kings).size ≤ 4 := s.size_inter_rankCards_le (by decide)
  have hqueens : (s ∩ .queens).size ≤ 4 := s.size_inter_rankCards_le (by decide)
  have hjacks : (s ∩ .jacks).size ≤ 4 := s.size_inter_rankCards_le (by decide)
  have htens : (s ∩ .tens).size ≤ 4 := s.size_inter_rankCards_le (by decide)
  apply evaluate_eq_of_worth hs
  · rw [worth_eq_sum_ranks hs, CardSet.quality]
    simp [Finset.sum_range_succ, handSize, suitQuality, ofWeights, CardSet.aces, CardSet.kings,
      CardSet.queens, CardSet.jacks, CardSet.tens, mul_comm]
  · simp only [CardSet.quality, maxWord]
    omega

/-! ## Points of a deal -/

/-- At most thirteen weights of 64 bits make a point count. -/
theorem ofLiteral_row {values : List Int} (hlength : values.length ≤ handSize)
    (hwords : ∀ n ∈ values, IsWord n) :
    ofLiteral (.list (values.map .number)) = .ok (ofWeights values) :=
  except_bind_eq_ok_iff.2 ⟨_, Block.wholeWords_row hwords, if_pos ⟨rfl, hlength⟩⟩

/-- The high-card points in the summary of a deal are those of the deck. -/
theorem total_points_summary {d : Deal} (h : d.hands.IsDivision) :
    total (d.summary.toList.map HandSummary.points) = 40 := by
  have hdeck : milton.worth .deck = 40 := worth_milton (by decide)
  have hpoints : ∀ seat, milton.worth (d.hands.get seat).cards = (d.summary.get seat).points := by
    intro seat
    rw [worth_milton (CardSet.subset_iff.2 fun _ => h.has_deck), Deal.summary, Seats.get_map]
    rfl
  have hhands := total_worth_hands (p := milton) h
  simp only [Seats.toList_eq_map, Seat.all, List.map_cons, List.map_nil, total_cons, total_nil,
    hpoints, hdeck] at hhands ⊢
  omega

/-- **Points are additive, and a deal conserves them.** Any thirteen weights of 64 bits, or fewer,
make a point count, which has a 64-bit number of points for every set of deck cards. Two sets
without a card in common have together the points of both, and the four hands of a division those
of the deck, always in 64 bits; and the high-card points in the summary of such a deal add up to
40. -/
theorem evaluate_conserved {values : List Int} (hlength : values.length ≤ handSize)
    (hwords : ∀ n ∈ values, IsWord n) :
    ofLiteral (.list (values.map .number)) = .ok (ofWeights values) ∧
      ∃ points : CardSet → Int,
        (∀ s, s.subset .deck = true →
          (ofWeights values).evaluate s = .ok (points s) ∧ IsWord (points s)) ∧
        (∀ s t, s.subset .deck = true → t.subset .deck = true → s ∩ t = ∅ →
          points (s ∪ t) = wrap (points s + points t)) ∧
        ∀ d : Deal, d.hands.IsDivision →
          points .deck = wrap (total (d.hands.toList.map fun hand => points hand.cards)) ∧
          total (d.summary.toList.map HandSummary.points) = 40 := by
  refine ⟨ofLiteral_row hlength hwords, fun s => wrap ((ofWeights values).worth s), ?_, ?_, ?_⟩
  · intro s hs
    exact ⟨evaluate_eq hs, isWord_wrap _⟩
  · intro s t hs ht hapart
    have hapart : ∀ i, s.has i = true → t.has i = false :=
      CardSet.inter_isEmpty_iff.1 (CardSet.isEmpty_iff.2 hapart)
    show wrap _ = wrap (wrap _ + wrap _)
    rw [wrap_add_left, wrap_add_right, worth_union (CardSet.isFinite_deck.of_subset hs)
      (CardSet.isFinite_deck.of_subset ht) hapart]
  · intro d hd
    refine ⟨?_, total_points_summary hd⟩
    show wrap _ = wrap (total _)
    rw [← total_worth_hands hd, ← wrap_total_map_wrap, List.map_map]
    rfl

/-- At weights whose sum is one more than the greatest 64-bit integer: an ace and a king together
have the least one. -/
theorem evaluate_conserved_overflow :
    (ofWeights [maxWord, 1]).evaluate (.single 14) = .ok maxWord ∧
      (ofWeights [maxWord, 1]).evaluate (.single 29) = .ok 1 ∧
      (ofWeights [maxWord, 1]).evaluate (.single 14 ∪ .single 29) = .ok minWord := by
  have hlength : [maxWord, 1].length ≤ handSize := by decide
  obtain ⟨-, points, hpoints, hunion, -⟩ := evaluate_conserved hlength (by decide)
  have hace : points (.single 14) = maxWord := Except.ok.inj (hpoints _ (by decide)).1.symm
  have hking : points (.single 29) = 1 := Except.ok.inj (hpoints _ (by decide)).1.symm
  have hboth := hunion (.single 14) (.single 29) (by decide) (by decide) (by decide)
  rw [hace, hking] at hboth
  have hover : wrap (maxWord + 1) = minWord := rfl
  refine ⟨rfl, rfl, ?_⟩
  rw [(hpoints (.single 14 ∪ .single 29) (by decide)).1, hboth, hover]

end PointCount

end ContractBridge
