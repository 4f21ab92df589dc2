/-
The cards of a set, listed from the highest on.

The list takes off the leading place as often as the set has cards. A set that ends holds its
leading place and nothing above it, so what is left has one card less and lies below: by induction
on the size the list has the cards of the set and no others, each once, in falling order.
-/
import ContractBridge.Proofs.CardSet.Places

set_option autoImplicit false

namespace ContractBridge.CardSet

variable {s : CardSet} {c : Card} {i : Nat}

/-! ## The leading place -/

/-- The leading place of a set. -/
def top (s : CardSet) : Nat := Bits.width s.bits - 1

theorem le_top (hs : s.IsFinite) (hi : s.has i = true) : i ≤ s.top := by
  obtain ⟨n | n⟩ := s
  · by_cases hn : n = 0
    · subst hn
      exact absurd hi (Bool.eq_false_iff.1 (has_empty i))
    · have hwidth : Bits.width (.ofNat n) = n.log2 + 1 := if_neg fun h => hn (Int.ofNat.inj h)
      rw [top, hwidth]
      apply Nat.le_of_not_lt
      intro hlt
      have hoff : n.testBit i = false := Bits.testBit_eq_false_of_log2_lt hlt
      exact absurd (hoff.symm.trans hi) Bool.false_ne_true
  · exact absurd hs (Int.not_le.2 (Int.negSucc_lt_zero n))

theorem has_top (hs : s.IsFinite) (hne : s ≠ ∅) : s.has s.top = true := by
  obtain ⟨n | n⟩ := s
  · have hn : n ≠ 0 := by
      rintro rfl
      exact hne rfl
    have hwidth : Bits.width (.ofNat n) = n.log2 + 1 := if_neg fun h => hn (Int.ofNat.inj h)
    rw [top, hwidth]
    exact Nat.testBit_log2 hn
  · exact absurd hs (Int.not_le.2 (Int.negSucc_lt_zero n))

/-! ## One card less -/

theorem isFinite_single (i : Nat) : (single i).IsFinite := Int.natCast_nonneg _

@[simp] theorem size_single (i : Nat) : (single i).size = 1 := by
  have hplaces : (single i).places = {i} := by
    ext j
    rw [mem_places (isFinite_single i), has_single, decide_eq_true_iff, Finset.mem_singleton,
      eq_comm]
  rw [← card_places, hplaces, Finset.card_singleton]

theorem size_diff_single (hs : s.IsFinite) (hi : s.has i = true) :
    (s \ single i).size + 1 = s.size := by
  have hsub : ∀ j, (single i).has j = true → s.has j = true := by
    intro j hj
    rw [has_single, decide_eq_true_iff] at hj
    rwa [← hj]
  rw [← size_diff_add hs hsub, size_single]

theorem has_diff_single_iff {j : Nat} :
    (s \ single i).has j = true ↔ s.has j = true ∧ i ≠ j := by
  rw [has_diff, has_single, Bool.and_eq_true, Bool.not_eq_true', decide_eq_false_iff_not]

/-! ## The list -/

/-- A list of a set's cards, in falling order. -/
structure ListsDown (s : CardSet) (l : List Card) : Prop where
  mem_iff : ∀ c, c ∈ l ↔ ∃ i, s.has i = true ∧ c = ⟨i⟩
  falling : l.Pairwise fun c d => d.offset < c.offset

theorem listsDown_empty : ListsDown ∅ [] where
  mem_iff c := by
    simp only [List.not_mem_nil, has_empty, Bool.false_eq_true, false_and, exists_false]
  falling := .nil

/-- The leading card goes in front of a list of the others. -/
theorem ListsDown.cons {l : List Card} (hs : s.IsFinite) (hne : s ≠ ∅)
    (h : ListsDown (s \ single s.top) l) : ListsDown s (⟨s.top⟩ :: l) where
  mem_iff c := by
    rw [List.mem_cons, h.mem_iff]
    constructor
    · rintro (rfl | ⟨i, hi, rfl⟩)
      · exact ⟨s.top, has_top hs hne, rfl⟩
      · exact ⟨i, (has_diff_single_iff.1 hi).1, rfl⟩
    · rintro ⟨i, hi, rfl⟩
      by_cases htop : s.top = i
      · exact .inl (by rw [htop])
      · exact .inr ⟨i, has_diff_single_iff.2 ⟨hi, htop⟩, rfl⟩
  falling := by
    refine List.pairwise_cons.2 ⟨fun c hc => ?_, h.falling⟩
    obtain ⟨i, hi, rfl⟩ := (h.mem_iff c).1 hc
    obtain ⟨hi, hne⟩ := has_diff_single_iff.1 hi
    have hle := le_top hs hi
    show (i : Int) < s.top
    omega

theorem listsDown_descend {fuel : Nat} (hs : s.IsFinite) (hsize : s.size ≤ fuel) :
    ListsDown s (descend fuel s.bits) := by
  induction fuel generalizing s with
  | zero =>
    rw [(size_eq_zero_iff hs).1 (Nat.le_zero.1 hsize)]
    exact listsDown_empty
  | succ fuel ih =>
    by_cases hne : s = ∅
    · rw [hne]
      exact listsDown_empty
    have hbits : s.bits ≠ 0 := fun h => hne (congrArg CardSet.mk h)
    have hstep : descend (fuel + 1) s.bits = ⟨s.top⟩ :: descend fuel (s \ single s.top).bits :=
      if_neg hbits
    -- the fuel reaches to the size, which the leading card takes one from
    have hrest : (s \ single s.top).size ≤ fuel := by
      have := size_diff_single hs (has_top hs hne)
      omega
    rw [hstep]
    exact (ih hs.diff hrest).cons hs hne

/-- **The list of a set that ends has its cards and no others, in falling order.** -/
theorem listsDown_toListDown (hs : s.IsFinite) : ListsDown s s.toListDown := by
  have hlist : s.toListDown = descend s.size s.bits := if_pos hs
  rw [hlist]
  exact listsDown_descend hs (Nat.le_refl _)

end ContractBridge.CardSet
