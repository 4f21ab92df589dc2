/-
The cards of a set, listed from the lowest on.

The list takes off the lowest place as often as the set has cards. The lowest place is what a number
and its negative share: below it neither has a place, and above it one has just the places that the
other lacks (`Bits.exists_lowest`). So for a set that ends the step leaves one card less, with
nothing below the card that was taken, and by induction on the size the list has the cards of the
set and no others, each once, in rising order.
-/
import Mathlib.Data.Nat.Factorization.Basic
import ContractBridge.Proofs.CardSet.Listing

set_option autoImplicit false

namespace ContractBridge

namespace Bits

/-- **A number other than zero shares its lowest place with its negative, and nothing else.** -/
theorem exists_lowest {n : Nat} (hn : n ≠ 0) : ∃ k, n.testBit k = true ∧
    (∀ i, n.testBit i = true → k ≤ i) ∧ lowest n = bit k := by
  obtain ⟨k, m, ⟨q, rfl⟩, rfl⟩ := Nat.exists_eq_two_pow_mul_odd hn
  have hpos := Nat.two_pow_pos k
  have hlt : 2 ^ k - 1 < 2 ^ k := by omega
  have hon : ∀ i, (2 ^ k * (2 * q + 1)).testBit i =
      (decide (k ≤ i) && (2 * q + 1).testBit (i - k)) := fun i => Nat.testBit_two_pow_mul
  -- one less than the number: the places below the lowest one instead of it
  have hless : ∀ i, (2 ^ k * (2 * q + 1) - 1).testBit i =
      if i < k then (2 ^ k - 1).testBit i else (2 * q).testBit (i - k) := by
    intro i
    rw [← Nat.testBit_two_pow_mul_add _ hlt]
    congr 1
    rw [Nat.mul_add]
    omega
  refine ⟨k, ?_, fun i hi => ?_, ?_⟩
  · simp [hon]
  · rw [hon, Bool.and_eq_true, decide_eq_true_eq] at hi
    exact hi.1
  · have hneg : (-((2 ^ k * (2 * q + 1) : Nat) : Int)) = .negSucc (2 ^ k * (2 * q + 1) - 1) := by
      omega
    rw [lowest, hneg]
    apply ext_holds
    intro i
    show (clear _ _).testBit i = _
    rw [testBit_clear, holds_bit, hon, hless]
    by_cases hi : i < k
    · simp [hi, Nat.not_le.2 hi]
      omega
    · obtain ⟨j, rfl⟩ := Nat.exists_eq_add_of_le (Nat.not_lt.1 hi)
      cases j with
      | zero => simp
      | succ j =>
        have hodd : (2 * q + 1) / 2 = q := by omega
        have heven : 2 * q / 2 = q := by omega
        simp [Nat.testBit_succ, hodd, heven]

end Bits

namespace CardSet

variable {s : CardSet} {i : Nat}

/-! ## The lowest place -/

/-- The lowest place of a set. -/
def bottom (s : CardSet) : Nat := Bits.width (Bits.lowest s.bits) - 1

theorem width_bit (k : Nat) : Bits.width (Bits.bit k) = k + 1 := by
  have hne : Bits.bit k ≠ 0 := by
    intro h
    have := congrArg (Bits.holds · k) h
    simp at this
  rw [Bits.width, if_neg hne]
  show (1 <<< k).log2 + 1 = k + 1
  rw [Nat.one_shiftLeft, Nat.log2_two_pow]

/-- The lowest place of a set with cards is held, and no place below it is. -/
theorem lowest_bits (hs : s.IsFinite) (hne : s ≠ ∅) : s.has s.bottom = true ∧
    (∀ i, s.has i = true → s.bottom ≤ i) ∧ Bits.lowest s.bits = Bits.bit s.bottom := by
  obtain ⟨n | n⟩ := s
  · have hn : n ≠ 0 := by
      rintro rfl
      exact hne rfl
    obtain ⟨k, hk, hmin, hlow⟩ := Bits.exists_lowest hn
    have hbottom : bottom ⟨.ofNat n⟩ = k := by
      show Bits.width (Bits.lowest n) - 1 = k
      rw [hlow, width_bit, Nat.add_sub_cancel]
    rw [hbottom]
    exact ⟨hk, hmin, hlow⟩
  · exact absurd hs (Int.not_le.2 (Int.negSucc_lt_zero n))

/-! ## The list -/

/-- A list of a set's cards, in rising order. -/
structure ListsUp (s : CardSet) (l : List Card) : Prop where
  mem_iff : ∀ c, c ∈ l ↔ ∃ i, s.has i = true ∧ c = ⟨i⟩
  rising : l.Pairwise fun c d => c.offset < d.offset

theorem listsUp_empty : ListsUp ∅ [] where
  mem_iff c := by
    simp only [List.not_mem_nil, has_empty, Bool.false_eq_true, false_and, exists_false]
  rising := .nil

/-- The lowest card goes in front of a list of the others. -/
theorem ListsUp.cons {l : List Card} (hs : s.IsFinite) (hne : s ≠ ∅)
    (h : ListsUp (s \ single s.bottom) l) : ListsUp s (⟨s.bottom⟩ :: l) where
  mem_iff c := by
    rw [List.mem_cons, h.mem_iff]
    constructor
    · rintro (rfl | ⟨i, hi, rfl⟩)
      · exact ⟨s.bottom, (lowest_bits hs hne).1, rfl⟩
      · exact ⟨i, (has_diff_single_iff.1 hi).1, rfl⟩
    · rintro ⟨i, hi, rfl⟩
      by_cases hbottom : s.bottom = i
      · exact .inl (by rw [hbottom])
      · exact .inr ⟨i, has_diff_single_iff.2 ⟨hi, hbottom⟩, rfl⟩
  rising := by
    refine List.pairwise_cons.2 ⟨fun c hc => ?_, h.rising⟩
    obtain ⟨i, hi, rfl⟩ := (h.mem_iff c).1 hc
    obtain ⟨hi, hne'⟩ := has_diff_single_iff.1 hi
    have hle := (lowest_bits hs hne).2.1 i hi
    show (s.bottom : Int) < i
    omega

theorem listsUp_climb {fuel : Nat} (hs : s.IsFinite) (hsize : s.size ≤ fuel) :
    ListsUp s (climb fuel s.bits) := by
  induction fuel generalizing s with
  | zero =>
    rw [(size_eq_zero_iff hs).1 (Nat.le_zero.1 hsize)]
    exact listsUp_empty
  | succ fuel ih =>
    by_cases hne : s = ∅
    · rw [hne]
      exact listsUp_empty
    have hbits : s.bits ≠ 0 := fun h => hne (congrArg CardSet.mk h)
    obtain ⟨hbottom, -, hlow⟩ := lowest_bits hs hne
    have hcard : (⟨(s.bottom + 1 : Nat) - 1⟩ : Card) = ⟨s.bottom⟩ := by
      congr 1
      omega
    have hstep : climb (fuel + 1) s.bits =
        ⟨s.bottom⟩ :: climb fuel (s \ single s.bottom).bits := by
      rw [climb, if_neg hbits]
      simp only [hlow, width_bit, hcard]
      rfl
    -- the fuel reaches to the size, which the lowest card takes one from
    have hrest : (s \ single s.bottom).size ≤ fuel := by
      have := size_diff_single hs hbottom
      omega
    rw [hstep]
    exact (ih hs.diff hrest).cons hs hne

/-- **The list of a set that ends has its cards and no others, in rising order.** -/
theorem listsUp_toList (hs : s.IsFinite) : ListsUp s s.toList := by
  have hlist : s.toList = climb s.size s.bits := if_pos hs
  rw [hlist]
  exact listsUp_climb hs (Nat.le_refl _)

end CardSet

end ContractBridge
