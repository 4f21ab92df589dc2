/-
The suit lengths of sets of deck cards.

A length is read by shifting a lane to the bottom, masking it and counting digits, while the
deck and everything dealt from it are spoken of place by place. The bridge is
`laneSize_eq_size_lane`: the shifted lane has as many places as the lane itself. With it the
lanes of a set are ordinary parts of the set, so what a distribution needs to be one (four
lengths from 0 to 13 with the size of the set as their total) follows from the laws of sizes.
-/
import ContractBridge.Proofs.CardSet.Places
import ContractBridge.SuitLengths

set_option autoImplicit false

namespace ContractBridge.CardSet

variable {s : CardSet}

/-! ## The deck -/

/-- The places of the deck: ranks 2 to 14 in each of the first four lanes. -/
theorem has_deck (i : Nat) :
    deck.has i = decide (i < 64 ∧ 2 ≤ i % laneWidth ∧ i % laneWidth ≤ 14) := by
  rcases Nat.lt_or_ge i 64 with hlt | hge
  · have hall : ∀ j < 64, deck.has j =
        decide (j < 64 ∧ 2 ≤ j % laneWidth ∧ j % laneWidth ≤ 14) := by decide
    exact hall i hlt
  · have hoff : (0x7ffc7ffc7ffc7ffc : Nat).testBit i = false :=
      Bits.testBit_eq_false_of_log2_lt (Nat.lt_of_lt_of_le (by decide) hge)
    have hdeck : deck.has i = (0x7ffc7ffc7ffc7ffc : Nat).testBit i := rfl
    rw [hdeck, hoff, eq_comm, decide_eq_false_iff_not]
    omega

theorem isFinite_deck : deck.IsFinite := by decide

theorem size_deck : deck.size = 52 := by decide

/-- A place of the deck is below 63. -/
theorem lt_of_has_deck {i : Nat} (h : deck.has i = true) : i < 63 := by
  rw [has_deck, decide_eq_true_iff] at h
  simp only [laneWidth] at h
  omega

/-! ## Lanes -/

theorem IsFinite.lane (hs : s.IsFinite) (k : Nat) : (s.lane k).IsFinite :=
  hs.of_has_imp fun i hi => by
    rw [has_lane, Bool.and_eq_true] at hi
    exact hi.1

/-- The lane of a set that ends, moved to the bottom, has as many places as it has where it
is. -/
theorem laneSize_eq_size_lane (hs : s.IsFinite) (k : Nat) : s.laneSize k = (s.lane k).size := by
  let low : CardSet := ⟨Bits.both (s.bits >>> (laneWidth * k)) 0xffff⟩
  have hlow : ∀ i, low.has i = (s.has (laneWidth * k + i) && decide (i < laneWidth)) := by
    intro i
    have hmask : Bits.holds 0xffff i = decide (i < laneWidth) :=
      Nat.testBit_two_pow_sub_one 16 i
    show Bits.holds (Bits.both _ _) i = _
    rw [Bits.holds_both, Bits.holds_shiftRight, hmask]
    rfl
  have hfin : low.IsFinite := isFinite_iff.2 ⟨laneWidth, fun i hi => by
    rw [hlow, Bool.and_eq_true, decide_eq_true_eq] at hi
    exact hi.2⟩
  -- shifting is one to one on places, so the two lanes are equally large
  have himage : (s.lane k).places = low.places.image (laneWidth * k + ·) := by
    ext i
    rw [Finset.mem_image, mem_places (hs.lane k), has_lane, Bool.and_eq_true, decide_eq_true_eq]
    constructor
    · rintro ⟨hi, hlo, hhi⟩
      refine ⟨i - laneWidth * k, ?_, by omega⟩
      rw [mem_places hfin, hlow, Bool.and_eq_true, decide_eq_true_eq]
      rw [show laneWidth * k + (i - laneWidth * k) = i by omega]
      exact ⟨hi, by omega⟩
    · rintro ⟨j, hj, rfl⟩
      rw [mem_places hfin, hlow, Bool.and_eq_true, decide_eq_true_eq] at hj
      exact ⟨hj.1, by omega, by omega⟩
  have hcard : (s.lane k).places.card = low.places.card := by
    rw [himage]
    exact Finset.card_image_of_injective _ fun a b hab => Nat.add_left_cancel hab
  rw [card_places, card_places] at hcard
  exact hcard.symm

/-- A lane of deck cards has at most thirteen of them. -/
theorem laneSize_le (hs : s.subset deck = true) {k : Nat} (hk : k < 4) :
    s.laneSize k ≤ handSize := by
  have hfin : s.IsFinite := isFinite_deck.of_subset hs
  have hfull : ∀ j < 4, (deck.lane j).size = handSize := by decide
  rw [laneSize_eq_size_lane hfin, ← hfull k hk]
  apply size_le_of_has_imp (isFinite_deck.lane k)
  intro i hi
  rw [has_lane, Bool.and_eq_true] at hi ⊢
  exact ⟨subset_iff.1 hs i hi.1, hi.2⟩

/-- The four lanes of a set of deck cards hold all of its cards. -/
theorem laneSize_add (hs : s.subset deck = true) :
    s.laneSize 0 + s.laneSize 1 + s.laneSize 2 + s.laneSize 3 = s.size := by
  have hfin : s.IsFinite := isFinite_deck.of_subset hs
  have hlane : ∀ k, (s.lane k).IsFinite := hfin.lane
  have hwhole : s.lane 0 ∪ s.lane 1 ∪ s.lane 2 ∪ s.lane 3 = s := by
    apply ext
    intro i
    rw [Bool.eq_iff_iff]
    simp only [has_union, has_lane, Bool.or_eq_true, Bool.and_eq_true, decide_eq_true_eq]
    constructor
    · rintro (((h | h) | h) | h) <;> exact h.1
    · intro h
      have hdeck := subset_iff.1 hs i h
      rw [has_deck, decide_eq_true_iff] at hdeck
      simp only [h, true_and, laneWidth] at hdeck ⊢
      omega
  -- each lane is apart from the union of those below it
  have hapart : ∀ i a b, a < b → (s.lane a).has i = true → (s.lane b).has i = false := by
    intro i a b hab hi
    rw [has_lane, Bool.and_eq_true, decide_eq_true_eq] at hi
    rw [has_lane, hi.1, Bool.true_and, decide_eq_false_iff_not]
    have := hi.2
    simp only [laneWidth] at this ⊢
    omega
  simp only [laneSize_eq_size_lane hfin]
  rw [← size_union (hlane 0) (hlane 1) fun i => hapart i 0 1 (by omega),
    ← size_union ((hlane 0).union (hlane 1)) (hlane 2) fun i hi => ?two,
    ← size_union (((hlane 0).union (hlane 1)).union (hlane 2)) (hlane 3) fun i hi => ?three,
    hwhole]
  case two =>
    rw [has_union, Bool.or_eq_true] at hi
    rcases hi with hi | hi
    · exact hapart i 0 2 (by omega) hi
    · exact hapart i 1 2 (by omega) hi
  case three =>
    rw [has_union, has_union, Bool.or_eq_true, Bool.or_eq_true] at hi
    rcases hi with (hi | hi) | hi
    · exact hapart i 0 3 (by omega) hi
    · exact hapart i 1 3 (by omega) hi
    · exact hapart i 2 3 (by omega) hi

/-! ## Distributions -/

theorem get_suitLengths (s : CardSet) (suit : Suit) :
    s.suitLengths.get suit = s.laneSize suit.index := by
  cases suit <;> rfl

/-- The lengths of a set of deck cards have a place in the table of distributions. -/
theorem suitLengths_bounds (hs : s.subset deck = true) :
    ∀ n ∈ s.suitLengths.toList, 0 ≤ n ∧ n ≤ handSize := by
  intro n hn
  have h0 := laneSize_le hs (k := 0) (by omega)
  have h1 := laneSize_le hs (k := 1) (by omega)
  have h2 := laneSize_le hs (k := 2) (by omega)
  have h3 := laneSize_le hs (k := 3) (by omega)
  simp only [suitLengths, SuitLengths.toList, List.mem_cons, List.not_mem_nil, or_false] at hn
  rcases hn with rfl | rfl | rfl | rfl <;> omega

/-- The lengths of a set of deck cards add up to its size. -/
theorem suitLengths_total (hs : s.subset deck = true) : s.suitLengths.total = s.size := by
  rw [← laneSize_add hs]
  simp only [suitLengths, SuitLengths.total]
  omega

end ContractBridge.CardSet
