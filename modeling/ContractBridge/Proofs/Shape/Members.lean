/-
The members of shapes.

A shape lists its members by reading its table back, place by place. Since every place of the
table is the place of exactly one distribution (`SuitLengths.index_ofIndex`), being listed is the
same as being looked up (`mem_members`), and every operation on tables is the operation on sets
that it is named for. The rest of the file says which distributions the named shapes list, each
in terms that do not mention the table.
-/
import ContractBridge.Proofs.Pattern.Expansion
import ContractBridge.Proofs.Pattern.Reader
import ContractBridge.Proofs.Shape.Table

set_option autoImplicit false

namespace ContractBridge

/-- Whether a number means a suit: its place in the order, or that counted from the end. -/
def Suit.HasNumber (suit : Suit) (k : Int) : Prop := k = suit.index ∨ k = suit.index - 4

theorem Suit.HasNumber.unique {suit other : Suit} {k : Int} (h : suit.HasNumber k)
    (h' : other.HasNumber k) : suit = other := by
  have := suit.index_lt_four
  have := other.index_lt_four
  rw [HasNumber] at h h'
  exact index_inj (by omega)

theorem Suit.exists_hasNumber_iff {k : Int} :
    (∃ suit : Suit, suit.HasNumber k) ↔ -4 ≤ k ∧ k < 4 := by
  constructor
  · rintro ⟨suit, h⟩
    have := suit.index_lt_four
    rw [HasNumber] at h
    omega
  · intro h
    by_cases hneg : k < 0
    · obtain ⟨suit, hsuit⟩ := exists_index_eq (n := (k + 4).toNat) (by omega)
      exact ⟨suit, .inr (by omega)⟩
    · obtain ⟨suit, hsuit⟩ := exists_index_eq (n := k.toNat) (by omega)
      exact ⟨suit, .inl (by omega)⟩

namespace SuitLengths

variable {l : SuitLengths}

/-- **The distributions of a hand:** four lengths from 0 to 13 that add up to 13. -/
structure IsOfHand (l : SuitLengths) : Prop where
  bounds : ∀ n ∈ l.toList, 0 ≤ n ∧ n ≤ handSize
  total : l.total = handSize

instance : DecidablePred IsOfHand := fun _ =>
  decidable_of_iff (_ ∧ _) ⟨fun h => ⟨h.1, h.2⟩, fun h => ⟨h.bounds, h.total⟩⟩

theorem IsOfHand.isInTable (h : l.IsOfHand) : l.isInTable = true := isInTable_iff.2 h.bounds

theorem IsOfHand.nonneg (h : l.IsOfHand) :
    0 ≤ l.spades ∧ 0 ≤ l.hearts ∧ 0 ≤ l.diamonds ∧ 0 ≤ l.clubs := by
  have hbounds := h.bounds
  simp only [toList, List.forall_mem_cons] at hbounds
  obtain ⟨hs, hh, hd, hc, -⟩ := hbounds
  exact ⟨hs.1, hh.1, hd.1, hc.1⟩

/-- Lengths that add up to 13 are at most 13 if none is negative. -/
theorem isOfHand_iff : l.IsOfHand ↔ (∀ n ∈ l.toList, 0 ≤ n) ∧ l.total = handSize := by
  constructor
  · intro h
    exact ⟨fun n hn => (h.bounds n hn).1, h.total⟩
  · rintro ⟨hpos, htotal⟩
    exact ⟨isInTable_iff.1 (isInTable_of_total hpos htotal), htotal⟩

theorem mem_ofHands : l ∈ ofHands ↔ l.IsOfHand := by
  obtain ⟨s, h, d, c⟩ := l
  rw [isOfHand_iff]
  simp only [ofHands, List.mem_flatMap, List.mem_map, List.mem_range, toList, SuitLengths.total,
    List.forall_mem_cons, List.not_mem_nil, false_imp_iff, implies_true, and_true, mk.injEq,
    handSize]
  constructor
  · rintro ⟨a, ha, b, hb, k, hk, rfl, rfl, rfl, rfl⟩
    omega
  · rintro ⟨⟨hs, hh, hd, hc⟩, htotal⟩
    exact ⟨s.toNat, by omega, h.toNat, by omega, d.toNat, by omega, by omega, by omega, by omega,
      by omega⟩

theorem ext_get {m : SuitLengths} (h : ∀ suit, l.get suit = m.get suit) : l = m := by
  have hs := h .spades
  have hh := h .hearts
  have hd := h .diamonds
  have hc := h .clubs
  cases l
  cases m
  simp only [get] at hs hh hd hc
  rw [hs, hh, hd, hc]

/-- A property of the lengths is one of each suit's. -/
theorem forall_mem_toList {P : Int → Prop} : (∀ n ∈ l.toList, P n) ↔ ∀ suit, P (l.get suit) := by
  simp only [toList, List.forall_mem_cons, List.not_mem_nil, false_imp_iff, implies_true,
    and_true]
  constructor
  · rintro ⟨hs, hh, hd, hc⟩ suit
    cases suit <;> assumption
  · intro h
    exact ⟨h .spades, h .hearts, h .diamonds, h .clubs⟩

/-- A hand has the distribution of a hand. -/
theorem isOfHand_suitLengths {hand : CardSet} (hdeck : hand.subset .deck = true)
    (hsize : hand.size = handSize) : hand.suitLengths.IsOfHand :=
  ⟨CardSet.suitLengths_bounds hdeck, by rw [CardSet.suitLengths_total hdeck, hsize]⟩

/-! ## Places -/

theorem isInTable_ofIndex (i : Int) : (ofIndex i).isInTable = true := by
  rw [isInTable_iff]
  simp only [ofIndex, toList, List.forall_mem_cons, List.not_mem_nil, false_imp_iff, implies_true,
    and_true, lengthCount, handSize]
  omega

/-- A place of the table is the place of the distribution that is read there. -/
theorem index_ofIndex {i : Int} (hlo : 0 ≤ i) (hhi : i < Shape.tableSize) :
    (ofIndex i).index = i := by
  simp only [ofIndex, index, Shape.tableSize, pairCount, lengthCount, handSize] at hhi ⊢
  omega

end SuitLengths

namespace Shape

variable {s t : Shape} {l : SuitLengths} {ls : List SuitLengths} {cards : CardSet}

/-! ## Listing and looking up -/

/-- **A member is a distribution in the table whose place is set.** -/
theorem mem_members : l ∈ s.members ↔ l.isInTable = true ∧ s.holds l.index.toNat = true := by
  simp only [members, membersOf, places, List.mem_map, Bits.mem_ones]
  constructor
  · rintro ⟨i, hi, rfl⟩
    have hreach : i < tableSize := BitVec.lt_of_getLsbD hi
    rw [SuitLengths.index_ofIndex (by omega) (by omega), Int.toNat_natCast]
    exact ⟨SuitLengths.isInTable_ofIndex i, hi⟩
  · rintro ⟨hin, hholds⟩
    obtain ⟨hlo, -⟩ := SuitLengths.index_bounds hin
    refine ⟨l.index.toNat, hholds, ?_⟩
    rw [Int.toNat_of_nonneg hlo, SuitLengths.ofIndex_index hin]

/-- A place of the table is set if the distribution that is read there is listed. -/
theorem holds_iff_ofIndex_mem {p : Nat} (hp : p < tableSize) :
    s.holds p = true ↔ SuitLengths.ofIndex p ∈ s.members := by
  rw [mem_members, SuitLengths.index_ofIndex (by omega) (by omega), Int.toNat_natCast,
    and_iff_right (SuitLengths.isInTable_ofIndex p)]

/-- **Shapes are equal as tables exactly if they list the same distributions.** -/
theorem sameMembers_iff : s.sameMembers t = true ↔ ∀ l, l ∈ s.members ↔ l ∈ t.members := by
  rw [sameMembers, beq_iff_eq]
  constructor
  · intro h l
    rw [members, members, h]
  · intro h
    apply BitVec.eq_of_getLsbD_eq
    intro i hi
    rw [Bool.eq_iff_iff]
    exact (holds_iff_ofIndex_mem hi).trans ((h _).trans (holds_iff_ofIndex_mem hi).symm)

/-- **A shape includes the deck cards whose distribution is listed.** -/
theorem includes_eq_mem (s : Shape) (hdeck : cards.subset .deck = true) :
    s.includes cards = .ok (decide (cards.suitLengths ∈ s.members)) := by
  have hin : cards.suitLengths.isInTable = true :=
    SuitLengths.isInTable_iff.2 (CardSet.suitLengths_bounds hdeck)
  rw [includes_eq s hdeck, Except.ok.injEq, Bool.eq_iff_iff, decide_eq_true_iff, mem_members,
    and_iff_right hin]

theorem mem_union : l ∈ (s ∪ t).members ↔ l ∈ s.members ∨ l ∈ t.members := by
  simp only [mem_members, holds_union, Bool.or_eq_true, and_or_left]

theorem mem_inter : l ∈ (s ∩ t).members ↔ l ∈ s.members ∧ l ∈ t.members := by
  simp only [mem_members, holds_inter, Bool.and_eq_true]
  tauto

theorem mem_diff : l ∈ (s \ t).members ↔ l ∈ s.members ∧ l ∉ t.members := by
  simp only [mem_members, holds_diff, Bool.and_eq_true, Bool.not_eq_true']
  by_cases hin : l.isInTable = true <;> simp [hin]

theorem isEmpty_iff : s.isEmpty = true ↔ s.members = [] := by
  rw [isEmpty, beq_iff_eq, List.eq_nil_iff_forall_not_mem]
  constructor
  · intro h l hl
    have hholds := (mem_members.1 hl).2
    rw [holds, h] at hholds
    simp at hholds
  · intro h
    apply BitVec.eq_of_getLsbD_eq
    intro i hi
    have hunset : s.holds i ≠ true := fun hset => h _ ((holds_iff_ofIndex_mem hi).1 hset)
    simpa [holds] using hunset

/-! ## Named shapes -/

theorem mem_ofDistributions (hls : ∀ m ∈ ls, m.isInTable = true) :
    l ∈ (ofDistributions ls).members ↔ l ∈ ls := by
  rw [mem_members]
  constructor
  · rintro ⟨hin, hholds⟩
    rwa [holds_ofDistributions hls hin, decide_eq_true_iff] at hholds
  · intro h
    exact ⟨hls l h, by rw [holds_ofDistributions hls (hls l h), decide_eq_true h]⟩

theorem not_mem_empty : l ∉ (∅ : Shape).members := by
  have h : l ∈ (ofDistributions []).members ↔ l ∈ [] := mem_ofDistributions (by simp)
  intro hl
  exact List.not_mem_nil (h.1 hl)

theorem mem_all : l ∈ all.members ↔ l.IsOfHand := by
  rw [all, mem_ofDistributions fun m hm => (SuitLengths.mem_ofHands.1 hm).isInTable,
    SuitLengths.mem_ofHands]

/-- The shape of the hands' distributions that pass a test lists those. -/
theorem mem_ofHands_filter {test : SuitLengths → Bool} :
    l ∈ (ofDistributions (SuitLengths.ofHands.filter test)).members ↔
      l.IsOfHand ∧ test l = true := by
  rw [mem_ofDistributions, List.mem_filter, SuitLengths.mem_ofHands]
  intro m hm
  exact (SuitLengths.mem_ofHands.1 (List.mem_filter.1 hm).1).isInTable

theorem mem_withLongest {suit : Suit} :
    l ∈ (withLongest suit).members ↔
      l.IsOfHand ∧ 5 ≤ l.get suit ∧ ∀ other, l.get other ≤ l.get suit := by
  rw [withLongest, mem_ofHands_filter, Bool.and_eq_true, List.all_eq_true]
  simp only [decide_eq_true_eq, SuitLengths.forall_mem_toList]

/-- The suit of a number, which counts from the end if it is negative. -/
theorem entry_all_eq_ok_iff {k : Int} {suit : Suit} :
    entry Suit.all k = .ok suit ↔ suit.HasNumber k := by
  constructor
  · intro h
    unfold entry at h
    split at h
    · rename_i found hfound
      split at h
      · rename_i hlow
        cases h
        obtain ⟨hlt, hget⟩ := List.getElem?_eq_some_iff.1 hfound
        have hindex : ∀ i (hi : i < Suit.all.length), Suit.all[i].index = i := by decide
        have hplace := hindex _ hlt
        rw [hget] at hplace
        simp only [Suit.all, List.length_cons, List.length_nil] at hlow hplace
        rw [Suit.HasNumber]
        split at hplace <;> omega
      · cases h
    · cases h
  · rintro (rfl | rfl) <;> cases suit <;> rfl

/-- The distributions within four ranges. -/
theorem mem_ofRanges {ranges : List LengthRange} (h : ofRanges ranges = .ok s) :
    l ∈ s.members ↔
      l.IsOfHand ∧ List.Forall₂ (fun r n => r.lo ≤ n ∧ n ≤ r.hi) ranges l.toList := by
  unfold ofRanges at h
  split at h
  · rename_i hfour
    cases h
    have hzip : List.zipWith LengthRange.contains ranges l.toList =
        (ranges.zip l.toList).map fun p => p.1.contains p.2 := by
      rw [List.zip, List.map_zipWith]
    rw [mem_ofHands_filter, hzip, List.all_map, List.all_eq_true, List.forall₂_iff_zip]
    simp only [Function.comp_apply, id, LengthRange.contains, Bool.and_eq_true, decide_eq_true_eq,
      Prod.forall, hfour, SuitLengths.toList, List.length_cons, List.length_nil, true_and]
  · cases h

theorem mem_matching {ps : List Pattern} (hps : ∀ p ∈ ps, p.IsProper) :
    l ∈ (matching ps).members ↔ l.IsOfHand ∧ Pattern.Matches ps l := by
  have hfound : ∀ m ∈ Pattern.distributions ps, m.IsOfHand := by
    intro m hm
    exact SuitLengths.isOfHand_iff.2 ((Pattern.mem_distributions hps).1 hm).2
  rw [matching, mem_ofDistributions fun m hm => (hfound m hm).isInTable,
    Pattern.mem_distributions hps, SuitLengths.isOfHand_iff, and_comm]

end Shape

end ContractBridge
