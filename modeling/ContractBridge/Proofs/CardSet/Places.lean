/-
The places of a finite card set, as a finite set of numbers.

A card set is one number and its size is a count of binary digits, so "two sets without a card
in common have the sizes of both together" is not visible in the definition. This file gives the
second view that makes it so: `places` is the finite set of the places that are held, its
cardinality is the size, and every law about sizes below is the law of `Finset` carried over by
`has`.

The view needs sets that end. A negative number holds all places from some point on, and its
`size` counts the digits of its magnitude instead; `IsFinite` excludes it, and every subset of a
set that ends is one that ends.
-/
import Mathlib.Data.Finset.Card
import ContractBridge.CardSet

set_option autoImplicit false

namespace ContractBridge.CardSet

variable {s t : CardSet}

/-! ## Sets that end -/

/-- Whether the set ends: it is no complement. -/
def IsFinite (s : CardSet) : Prop := 0 ≤ s.bits

instance (s : CardSet) : Decidable s.IsFinite := inferInstanceAs (Decidable (0 ≤ s.bits))

/-- A set ends exactly when some bound lies past all of its places. A complement holds every
place beyond its magnitude, so no bound does. -/
theorem isFinite_iff : s.IsFinite ↔ ∃ n, ∀ i, s.has i = true → i < n := by
  obtain ⟨bits⟩ := s
  match bits with
  | .ofNat m =>
    refine ⟨fun _ => ⟨m.log2 + 1, fun i hi => ?_⟩, fun _ => Int.natCast_nonneg m⟩
    rcases Nat.lt_or_ge i (m.log2 + 1) with hlt | hge
    · exact hlt
    · have hoff : m.testBit i = false := Bits.testBit_eq_false_of_log2_lt (by omega)
      have hon : m.testBit i = true := hi
      rw [hoff] at hon
      cases hon
  | .negSucc m =>
    refine ⟨fun h => absurd h (by simp only [IsFinite]; omega), fun ⟨n, hn⟩ => ?_⟩
    have hoff : m.testBit (n + m.log2 + 1) = false :=
      Bits.testBit_eq_false_of_log2_lt (by omega)
    have hon : (⟨.negSucc m⟩ : CardSet).has (n + m.log2 + 1) = true := by
      simp only [has, Bits.holds, hoff, Bool.not_false]
    have := hn _ hon
    omega

/-- A part of a set that ends is one that ends. -/
theorem IsFinite.of_has_imp (hs : s.IsFinite) (h : ∀ i, t.has i = true → s.has i = true) :
    t.IsFinite := by
  obtain ⟨n, hn⟩ := isFinite_iff.1 hs
  exact isFinite_iff.2 ⟨n, fun i hi => hn i (h i hi)⟩

theorem IsFinite.union (hs : s.IsFinite) (ht : t.IsFinite) : (s ∪ t).IsFinite := by
  obtain ⟨n, hn⟩ := isFinite_iff.1 hs
  obtain ⟨m, hm⟩ := isFinite_iff.1 ht
  refine isFinite_iff.2 ⟨n + m, fun i hi => ?_⟩
  rw [has_union, Bool.or_eq_true] at hi
  rcases hi with hi | hi
  · have := hn i hi; omega
  · have := hm i hi; omega

theorem IsFinite.diff (hs : s.IsFinite) : (s \ t).IsFinite :=
  hs.of_has_imp fun i hi => by
    rw [has_diff, Bool.and_eq_true] at hi
    exact hi.1

/-! ## Inclusion -/

/-- Inclusion, place by place. -/
theorem subset_iff : s.subset t = true ↔ ∀ i, s.has i = true → t.has i = true := by
  rw [subset, isEmpty_iff]
  constructor
  · intro h i hi
    have hd : (s \ t).has i = false := by rw [h, has_empty]
    rw [has_diff, hi, Bool.true_and, Bool.not_eq_false'] at hd
    exact hd
  · intro h
    apply ext
    intro i
    rw [has_diff, has_empty]
    cases hi : s.has i with
    | false => rfl
    | true => rw [h i hi]; rfl

/-- Sets have no card in common exactly when no place is held by both. -/
theorem inter_isEmpty_iff :
    (s ∩ t).isEmpty = true ↔ ∀ i, s.has i = true → t.has i = false := by
  rw [isEmpty_iff]
  constructor
  · intro h i hi
    have hd : (s ∩ t).has i = false := by rw [h, has_empty]
    rwa [has_inter, hi, Bool.true_and] at hd
  · intro h
    apply ext
    intro i
    rw [has_inter, has_empty]
    cases hi : s.has i with
    | false => rfl
    | true => rw [h i hi]; rfl

theorem IsFinite.of_subset (hs : t.IsFinite) (h : s.subset t = true) : s.IsFinite :=
  hs.of_has_imp (subset_iff.1 h)

/-! ## The places -/

/-- **The places of a set,** those of the magnitude for a complement. -/
def places (s : CardSet) : Finset Nat := (Bits.ones s.bits.natAbs).toFinset

/-- The places of a set that ends are the places it holds. -/
theorem mem_places (hs : s.IsFinite) {i : Nat} : i ∈ s.places ↔ s.has i = true := by
  rw [places, List.mem_toFinset, Bits.mem_ones]
  obtain ⟨bits⟩ := s
  match bits, hs with
  | .ofNat m, _ => exact Iff.rfl

/-- Sets that end are told by their places. -/
theorem eq_of_places_eq (hs : s.IsFinite) (ht : t.IsFinite) (h : s.places = t.places) : s = t := by
  apply ext
  intro i
  rw [Bool.eq_iff_iff, ← mem_places hs, ← mem_places ht, h]

/-- The size counts the places, since none of them is listed twice. -/
theorem card_places (s : CardSet) : s.places.card = s.size := by
  have hnodup : (Bits.ones s.bits.natAbs).Nodup :=
    (Bits.ones_pairwise _).imp fun h => Nat.ne_of_lt h
  rw [places, List.toFinset_card_of_nodup hnodup]
  rfl

theorem places_union (hs : s.IsFinite) (ht : t.IsFinite) :
    (s ∪ t).places = s.places ∪ t.places := by
  ext i
  rw [Finset.mem_union, mem_places (hs.union ht), mem_places hs, mem_places ht, has_union,
    Bool.or_eq_true]

theorem places_subset (hs : s.IsFinite) (ht : t.IsFinite)
    (h : ∀ i, s.has i = true → t.has i = true) : s.places ⊆ t.places := by
  intro i hi
  rw [mem_places hs] at hi
  rw [mem_places ht]
  exact h i hi

/-- Sets without a card in common have no common place. -/
theorem disjoint_places (hs : s.IsFinite) (ht : t.IsFinite)
    (h : ∀ i, s.has i = true → t.has i = false) : Disjoint s.places t.places := by
  rw [Finset.disjoint_left]
  intro i hi hit
  rw [mem_places hs] at hi
  rw [mem_places ht, h i hi] at hit
  cases hit

/-! ## Sizes -/

@[simp] theorem size_empty : (∅ : CardSet).size = 0 := by decide

theorem size_le_of_has_imp (ht : t.IsFinite) (h : ∀ i, s.has i = true → t.has i = true) :
    s.size ≤ t.size := by
  rw [← card_places, ← card_places]
  exact Finset.card_le_card (places_subset (ht.of_has_imp h) ht h)

/-- The size of two sets without a card in common is the sum of their sizes. -/
theorem size_union (hs : s.IsFinite) (ht : t.IsFinite)
    (h : ∀ i, s.has i = true → t.has i = false) : (s ∪ t).size = s.size + t.size := by
  rw [← card_places, ← card_places, ← card_places, places_union hs ht]
  exact Finset.card_union_of_disjoint (disjoint_places hs ht h)

/-- What is left of a set when a part of it goes. -/
theorem size_diff_add (hs : s.IsFinite) (h : ∀ i, t.has i = true → s.has i = true) :
    (s \ t).size + t.size = s.size := by
  have ht : t.IsFinite := hs.of_has_imp h
  have hunion : (s \ t) ∪ t = s := by
    apply ext
    intro i
    rw [has_union, has_diff]
    cases hi : t.has i with
    | false => rw [Bool.not_false, Bool.and_true, Bool.or_false]
    | true => rw [h i hi]; rfl
  -- the other part does not have the cards that went
  rw [← size_union hs.diff ht fun i hi => ?_, hunion]
  rw [has_diff, Bool.and_eq_true, Bool.not_eq_true'] at hi
  exact hi.2

/-- A set that ends has no card exactly when its size is zero. -/
theorem size_eq_zero_iff (hs : s.IsFinite) : s.size = 0 ↔ s = ∅ := by
  rw [← card_places, Finset.card_eq_zero]
  constructor
  · intro h
    apply ext
    intro i
    have hi : i ∉ s.places := by rw [h]; exact Finset.notMem_empty i
    rw [mem_places hs, Bool.not_eq_true] at hi
    rw [hi, has_empty]
  · rintro rfl
    exact Finset.card_eq_zero.1 ((card_places ∅).trans size_empty)

/-- A set has as many cards as a list of its places, each once, has entries. -/
theorem size_eq_length {l : List Nat} (hs : s.IsFinite) (hl : l.Nodup)
    (h : ∀ i, s.has i = true ↔ i ∈ l) : s.size = l.length := by
  have hplaces : s.places = l.toFinset := by
    ext i
    rw [mem_places hs, List.mem_toFinset, h]
  rw [← card_places, hplaces, List.toFinset_card_of_nodup hl]

/-- A part of a set that is as large as the set is the whole set. -/
theorem eq_of_subset_of_size_le (ht : t.IsFinite) (h : ∀ i, s.has i = true → t.has i = true)
    (hsize : t.size ≤ s.size) : s = t := by
  have hs : s.IsFinite := ht.of_has_imp h
  apply eq_of_places_eq hs ht
  apply Finset.eq_of_subset_of_card_le (places_subset hs ht h)
  rwa [card_places, card_places]

end ContractBridge.CardSet
