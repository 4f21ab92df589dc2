/-
Which distributions a table holds.

A shape is made of distributions by setting their places in a table, and asked about a
distribution by looking one place up. Both go through `SuitLengths.index`, which is one to one on
distributions of lengths from 0 to 13, so the table of some distributions holds exactly those
(`holds_ofDistributions`), and a set of deck cards always has a place in it (`includes_eq`).
-/
import ContractBridge.Proofs.CardSet.Lengths
import ContractBridge.Shape.Family

set_option autoImplicit false

namespace ContractBridge

namespace SuitLengths

variable {l m : SuitLengths}

theorem isInTable_iff : l.isInTable = true ↔ ∀ n ∈ l.toList, 0 ≤ n ∧ n ≤ handSize := by
  rw [isInTable, List.all_eq_true]
  simp only [Bool.and_eq_true, decide_eq_true_eq]

/-- A distribution in the table has one of its places. -/
theorem index_bounds (h : l.isInTable = true) : 0 ≤ l.index ∧ l.index < Shape.tableSize := by
  obtain ⟨s, h, d, c⟩ := l
  rw [isInTable_iff] at h
  simp only [toList, List.forall_mem_cons, handSize] at h
  simp only [index, Shape.tableSize, pairCount, lengthCount, handSize]
  omega

/-- Lengths that are not negative and make up a hand are in the table. -/
theorem isInTable_of_total (hpos : ∀ n ∈ l.toList, 0 ≤ n) (htotal : l.total = handSize) :
    l.isInTable = true := by
  obtain ⟨s, h, d, c⟩ := l
  rw [isInTable_iff]
  simp only [toList, List.forall_mem_cons, List.not_mem_nil, false_imp_iff, implies_true,
    and_true] at hpos ⊢
  simp only [total] at htotal
  omega

end SuitLengths

namespace Shape

variable {places : List Nat} {l : SuitLengths} {ls : List SuitLengths}

theorem testBit_foldl_set (n i : Nat) :
    (places.foldl (fun n i => n ||| 1 <<< i) n).testBit i =
      (n.testBit i || decide (i ∈ places)) := by
  induction places generalizing n with
  | nil => rw [List.foldl_nil, decide_eq_false List.not_mem_nil, Bool.or_false]
  | cons p places ih =>
    have hbit : (1 <<< p).testBit i = decide (i = p) := by
      rw [Nat.one_shiftLeft, Nat.testBit_two_pow]
      exact decide_eq_decide.2 eq_comm
    rw [List.foldl_cons, ih, Nat.testBit_or, hbit, Bool.or_assoc, ← Bool.decide_or]
    simp only [List.mem_cons]

/-- The table of some places holds those of them that it reaches. -/
theorem getLsbD_tableOf (i : Nat) :
    (tableOf places).getLsbD i = (decide (i < tableSize) && decide (i ∈ places)) := by
  rw [tableOf, BitVec.getLsbD_ofNat, testBit_foldl_set, Nat.zero_testBit, Bool.false_or]

/-- **The shape of some distributions holds exactly those.** -/
theorem holds_ofDistributions (hls : ∀ m ∈ ls, m.isInTable = true) (hl : l.isInTable = true) :
    (ofDistributions ls).holds l.index.toNat = decide (l ∈ ls) := by
  obtain ⟨hlo, hhi⟩ := SuitLengths.index_bounds hl
  -- within the table the place of a distribution gives the distribution back
  have hplace : l.index.toNat ∈ ls.map (fun m => m.index.toNat) ↔ l ∈ ls := by
    rw [List.mem_map]
    constructor
    · rintro ⟨m, hm, heq⟩
      obtain ⟨hmlo, -⟩ := SuitLengths.index_bounds (hls m hm)
      have hindex : m.index = l.index := by omega
      rw [← SuitLengths.ofIndex_index hl, ← hindex, SuitLengths.ofIndex_index (hls m hm)]
      exact hm
    · intro hmem
      exact ⟨l, hmem, rfl⟩
  have hreach : l.index.toNat < tableSize := by omega
  show (tableOf _).getLsbD _ = _
  rw [getLsbD_tableOf, decide_eq_true hreach, Bool.true_and, decide_eq_decide]
  exact hplace

/-- Whether deck cards belong to a shape is one place of its table. -/
theorem includes_eq (s : Shape) {cards : CardSet} (hdeck : cards.subset .deck = true) :
    s.includes cards = .ok (s.holds cards.suitLengths.index.toNat) := by
  have hin : cards.suitLengths.isInTable = true :=
    SuitLengths.isInTable_iff.2 (CardSet.suitLengths_bounds hdeck)
  unfold includes
  rw [if_pos (SuitLengths.index_bounds hin).2]

end Shape

end ContractBridge
