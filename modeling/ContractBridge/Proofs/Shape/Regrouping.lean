/-
Rows of any length as distributions.

Distributions are given as rows, but what is looked at is the numbers of the rows one behind
another, cut into fours again. So the rows are forgotten, as far as they are equally long: what
counts is the distributions that the numbers regroup to (`RegroupTo`), and these are the rows
themselves only if the rows are fours. Rows that do not regroup are refused, and so are rows that
regroup to something else than hands' distributions; all others are accepted, also where no row is a
distribution.
-/
import ContractBridge.Proofs.Shape.Rows

set_option autoImplicit false

namespace ContractBridge.Shape

open SuitLengths

variable {s : Shape} {l : SuitLengths} {ls : List SuitLengths} {rows : List (List Int)}
  {numbers : List Int}

/-! ## Fours -/

/-- Numbers can be read in fours if their number is a multiple of four. -/
theorem exists_flatMap_toList_iff :
    (∃ ls : List SuitLengths, numbers = ls.flatMap toList) ↔ 4 ∣ numbers.length := by
  constructor
  · rintro ⟨ls, rfl⟩
    exact ⟨ls.length, length_flatMap_toList⟩
  · rintro ⟨n, hn⟩
    induction n generalizing numbers with
    | zero => exact ⟨[], List.length_eq_zero_iff.1 hn⟩
    | succ n ih =>
      match numbers, hn with
      | s :: h :: d :: c :: rest, hn =>
        have hrest : rest.length = 4 * n := by simpa [Nat.mul_succ] using hn
        obtain ⟨ls, rfl⟩ := ih hrest
        exact ⟨⟨s, h, d, c⟩ :: ls, rfl⟩

theorem filterMap_ofList?_map_toList (ls : List SuitLengths) :
    (ls.map toList).filterMap ofList? = ls := by
  rw [List.filterMap_map]
  exact List.filterMap_some

theorem all_isDistribution_map_toList :
    (ls.map toList).all isDistribution = true ↔ ∀ l ∈ ls, l.IsOfHand := by
  rw [List.all_map, List.all_eq_true]
  exact forall₂_congr fun _ _ => isDistribution_iff

/-! ## Rows -/

/-- **What rows are read as:** the distributions whose lengths, one behind another, are the numbers
of the rows one behind another, if the rows are equally long. -/
def RegroupTo (rows : List (List Int)) (ls : List SuitLengths) : Prop :=
  Block.EquallyLong rows ∧ rows.flatten = ls.flatMap toList

/-- Distributions, a row for each, are read as themselves. -/
theorem regroupTo_map_toList (ls : List SuitLengths) : RegroupTo (ls.map toList) ls :=
  ⟨⟨4, length_of_mem_map_toList⟩, List.flatMap_def.symm⟩

/-- Rows of four numbers are read row by row. -/
theorem exists_map_toList (h : ∀ row ∈ rows, row.length = 4) :
    ∃ ls : List SuitLengths, rows = ls.map toList := by
  induction rows with
  | nil => exact ⟨[], rfl⟩
  | cons row rows ih =>
    obtain ⟨hrow, hrows⟩ := List.forall_mem_cons.1 h
    obtain ⟨ls, rfl⟩ := ih hrows
    match row, hrow with
    | [s, h, d, c], _ => exact ⟨⟨s, h, d, c⟩ :: ls, rfl⟩

/-- **Rows are read as the distributions that they regroup to,** which have to be hands'. -/
theorem ofRows_of_regroupTo (hwords : ∀ row ∈ rows, ∀ n ∈ row, IsWord n) (h : RegroupTo rows ls) :
    ofRows (.numberRows rows) =
      if (ls.map toList).all isDistribution then .ok (ofDistributions ls)
      else .error .badDistribution := by
  obtain ⟨⟨k, hk⟩, hflat⟩ := h
  obtain ⟨sizes, hread, -⟩ := Block.wholeWords_numberRows hwords hk
  rw [hflat] at hread
  rw [ofRows_of_wholeWords rfl hread, if_neg (by rw [length_flatMap_toList]; omega),
    pieces_flatMap_toList, filterMap_ofList?_map_toList]

/-- Rows that do not regroup are refused, as are rows of different lengths. -/
theorem ofRows_of_not_regroupTo (hwords : ∀ row ∈ rows, ∀ n ∈ row, IsWord n)
    (h : ¬ ∃ ls, RegroupTo rows ls) : ofRows (.numberRows rows) = .error .ragged := by
  by_cases hk : Block.EquallyLong rows
  · obtain ⟨k, hlen⟩ := hk
    obtain ⟨sizes, hread, -⟩ := Block.wholeWords_numberRows hwords hlen
    rw [ofRows_of_wholeWords rfl hread, if_pos]
    intro hfours
    obtain ⟨ls, hls⟩ := exists_flatMap_toList_iff.2 (Nat.dvd_of_mod_eq_zero hfours)
    exact h ⟨ls, ⟨k, hlen⟩, hls⟩
  · have hread : Block.wholeWords (.numberRows rows) = _ := Block.wholeWords_numberRows_of_not hk
    rw [ofRows, Literal.numberRows, Literal.items?]
    exact except_bind_eq_error_iff.2 (.inl hread)

/-- A list of hands' distributions gives the shape of them. -/
theorem ofRows_rowsOfNumbers (hls : ∀ l ∈ ls, l.IsOfHand) :
    ofRows (rowsOfNumbers ls) = .ok (ofDistributions ls) := by
  rw [rowsOfNumbers_eq, ofRows_of_regroupTo (isWord_of_mem_map_toList hls)
    (regroupTo_map_toList ls), if_pos (all_isDistribution_map_toList.2 hls)]

/-! ## What is accepted -/

/-- **Distributions that are given as rows.** The rows are accepted if the numbers in them regroup
to hands' distributions, and then these are the members; they are refused for what they say if they
regroup to anything else, and for their form if they do not regroup. So a row for each of some
hands' distributions is accepted, but not only that: what is accepted is of this form only if every
row has four entries, which nothing looks at. -/
theorem ofRows_numberRows_cases (hwords : ∀ row ∈ rows, ∀ n ∈ row, IsWord n) :
    (∀ ls, RegroupTo rows ls → (∀ l ∈ ls, l.IsOfHand) →
      ∃ s, ofRows (.numberRows rows) = .ok s ∧ ∀ l, l ∈ s.members ↔ l ∈ ls) ∧
    (∀ ls, RegroupTo rows ls → (¬ ∀ l ∈ ls, l.IsOfHand) →
      ofRows (.numberRows rows) = .error .badDistribution) ∧
    ((¬ ∃ ls, RegroupTo rows ls) → ofRows (.numberRows rows) = .error .ragged) ∧
    ((∃ ls : List SuitLengths, rows = ls.map toList ∧ ∀ l ∈ ls, l.IsOfHand) ↔
      (∃ s, ofRows (.numberRows rows) = .ok s) ∧ ∀ row ∈ rows, row.length = 4) := by
  refine ⟨fun ls hls hhands => ?_, fun ls hls hhands => ?_, ofRows_of_not_regroupTo hwords, ?_, ?_⟩
  · have hmem : ∀ l, l ∈ (ofDistributions ls).members ↔ l ∈ ls :=
      fun l => mem_ofDistributions fun m hm => (hhands m hm).isInTable
    refine ⟨ofDistributions ls, ?_, hmem⟩
    rw [ofRows_of_regroupTo hwords hls, if_pos (all_isDistribution_map_toList.2 hhands)]
  · rw [ofRows_of_regroupTo hwords hls, if_neg (mt all_isDistribution_map_toList.1 hhands)]
  · rintro ⟨ls, rfl, hhands⟩
    rw [← rowsOfNumbers_eq]
    exact ⟨⟨_, ofRows_rowsOfNumbers hhands⟩, length_of_mem_map_toList⟩
  · rintro ⟨⟨s, hs⟩, hfour⟩
    obtain ⟨ls, rfl⟩ := exists_map_toList hfour
    refine ⟨ls, rfl, ?_⟩
    rw [ofRows_of_regroupTo hwords (regroupTo_map_toList ls)] at hs
    by_contra hhands
    rw [if_neg (mt all_isDistribution_map_toList.1 hhands)] at hs
    cases hs

/-- At one row of eight numbers, which are two distributions. -/
theorem ofRows_numberRows_cases_eight :
    (∀ row ∈ [[4, 3, 3, 3, 5, 4, 3, 1]], ∀ n ∈ row, IsWord n) ∧
      RegroupTo [[4, 3, 3, 3, 5, 4, 3, 1]] [⟨4, 3, 3, 3⟩, ⟨5, 4, 3, 1⟩] ∧
      ∃ s, ofRows (.numberRows [[4, 3, 3, 3, 5, 4, 3, 1]]) = .ok s ∧
        ∀ l, l ∈ s.members ↔ l ∈ [⟨4, 3, 3, 3⟩, ⟨5, 4, 3, 1⟩] := by
  have hwords : ∀ row ∈ [[4, 3, 3, 3, 5, 4, 3, 1]], ∀ n ∈ row, IsWord n := by decide
  have hregroup : RegroupTo [[4, 3, 3, 3, 5, 4, 3, 1]] [⟨4, 3, 3, 3⟩, ⟨5, 4, 3, 1⟩] :=
    ⟨⟨8, by decide⟩, by decide⟩
  have hhands : ∀ l ∈ [(⟨4, 3, 3, 3⟩ : SuitLengths), ⟨5, 4, 3, 1⟩], l.IsOfHand := by
    decide
  obtain ⟨haccepted, -⟩ := ofRows_numberRows_cases hwords
  exact ⟨hwords, hregroup, haccepted _ hregroup hhands⟩

/-- **Rows of two numbers are accepted,** if two of them together are a distribution. -/
theorem ofRows_accepts_pairs :
    (∃ s, ofRows (.numberRows [[4, 3], [3, 3]]) = .ok s) ∧
      ∀ row ∈ [[4, 3], [3, 3]], row.length ≠ 4 ∧ ¬ isDistribution row = true := by
  have hregroup : RegroupTo [[4, 3], [3, 3]] [⟨4, 3, 3, 3⟩] := ⟨⟨2, by decide⟩, by decide⟩
  refine ⟨⟨ofDistributions [⟨4, 3, 3, 3⟩], ?_⟩, by decide⟩
  rw [ofRows_of_regroupTo (by decide) hregroup, if_pos (by decide)]

end ContractBridge.Shape
