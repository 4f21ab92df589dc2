/-
Looking up many rows at once.

A row of four lengths is looked up by its place alone. The place is counted in 64 bits, and it is
not asked first whether the lengths are lengths, so any four numbers whose place comes out within
one table's size of the table's start, before or behind it, are answered: what is answered is
whether the distribution at that place is a member (`SuitLengths.lookedUp`). Any other row is an
error, for the whole block.

For lengths from 0 to 13 the place is that of the row itself, and the answer is the same as for the
row alone. A row with another length is never a member when it is asked about alone, so the answers
differ just where the distribution that such a row leads to is a member, or where it leads nowhere.
-/
import ContractBridge.Proofs.Shape.Rows

set_option autoImplicit false

namespace ContractBridge

namespace SuitLengths

variable {l : SuitLengths}

/-! ## Where a row leads -/

/-- **The distribution at the place of four numbers,** which is counted in 64 bits. -/
def lookedUp (l : SuitLengths) : SuitLengths := ofIndex (wrap l.index)

/-- Whether the place of four numbers is one of the table, counted from its start or from its
end. -/
def IsReached (l : SuitLengths) : Prop :=
  -Shape.tableSize ≤ wrap l.index ∧ wrap l.index < Shape.tableSize

instance : DecidablePred IsReached := fun _ => inferInstanceAs (Decidable (_ ∧ _))

theorem wrap_index (h : l.isInTable = true) : wrap l.index = l.index := by
  obtain ⟨hlo, hhi⟩ := index_bounds h
  apply wrap_eq_self
  simp only [IsWord, minWord, maxWord, Shape.tableSize, pairCount, lengthCount, handSize] at hhi ⊢
  omega

theorem isReached_of_isInTable (h : l.isInTable = true) : l.IsReached := by
  obtain ⟨hlo, hhi⟩ := index_bounds h
  rw [IsReached, wrap_index h]
  omega

/-- Lengths from 0 to 13 lead to themselves. -/
theorem lookedUp_of_isInTable (h : l.isInTable = true) : l.lookedUp = l := by
  rw [lookedUp, wrap_index h, ofIndex_index h]

/-- The places of a table repeat behind its end. -/
theorem ofIndex_add_tableSize (i : Int) : ofIndex (i + Shape.tableSize) = ofIndex i := by
  simp only [ofIndex, Shape.tableSize, pairCount, lengthCount, handSize, mk.injEq]
  omega

end SuitLengths

namespace Shape

open SuitLengths

variable {s : Shape} {l : SuitLengths} {ls : List SuitLengths} {v : Literal} {i : Int}

/-! ## One row -/

/-- An index from the end of the table on means the place of the distribution that is there. -/
theorem exists_placeOf (hlo : -tableSize ≤ i) (hhi : i < tableSize) :
    ∃ p, placeOf tableSize i = .ok p ∧ s.holds p = decide (ofIndex i ∈ s.members) := by
  rw [placeOf]
  by_cases hneg : i < 0
  · rw [if_pos hneg, if_pos ⟨by omega, by omega⟩]
    refine ⟨_, rfl, ?_⟩
    rw [Bool.eq_iff_iff, decide_eq_true_iff, holds_iff_ofIndex_mem (by omega),
      Int.toNat_of_nonneg (by omega), ofIndex_add_tableSize]
  · rw [if_neg hneg, if_pos ⟨by omega, hhi⟩]
    refine ⟨_, rfl, ?_⟩
    rw [Bool.eq_iff_iff, decide_eq_true_iff, holds_iff_ofIndex_mem (by omega),
      Int.toNat_of_nonneg (by omega)]

theorem placeOf_eq_error (h : ¬ (-tableSize ≤ i ∧ i < tableSize)) :
    placeOf tableSize i = .error .outOfTable := by
  rw [placeOf]
  split <;> exact if_neg (by omega)

/-- Whether a row is a member, by its place. -/
def lookUp (s : Shape) (row : List Int) : Except Error Bool := do
  return s.holds (← placeOf tableSize (wordIndex row))

theorem lookUp_of_isReached (h : l.IsReached) :
    s.lookUp l.toList = .ok (decide (l.lookedUp ∈ s.members)) := by
  obtain ⟨p, hp, hholds⟩ := exists_placeOf (s := s) h.1 h.2
  have hindex : wordIndex l.toList = wrap l.index := rfl
  rw [lookUp, hindex, hp, lookedUp, ← hholds]
  rfl

theorem lookUp_of_not_isReached (h : ¬ l.IsReached) :
    s.lookUp l.toList = .error .outOfTable := by
  have hindex : wordIndex l.toList = wrap l.index := rfl
  rw [lookUp, hindex, placeOf_eq_error h]
  rfl

/-- A row by itself is a member if it is listed. -/
theorem contains_toList : s.contains l.toList = decide (l ∈ s.members) := by
  rw [Bool.eq_iff_iff, decide_eq_true_iff, mem_members, ← Bool.and_eq_true]
  rfl

/-- A row with a length that is not from 0 to 13 is no member. -/
theorem contains_of_not_isInTable (h : ¬ l.isInTable = true) : s.contains l.toList = false := by
  rw [contains_toList, decide_eq_false_iff_not]
  exact fun hmem => h (mem_members.1 hmem).1

/-! ## Many rows -/

/-- A block of rows of four numbers is looked up row by row. -/
theorem containsAll_of_wholeWords {sizes : List Nat}
    (hv : Block.wholeWords v = .ok ⟨sizes ++ [4], ls.flatMap toList⟩) :
    s.containsAll v = Block.nest sizes <$> (ls.map toList).mapM s.lookUp := by
  have hrows : rowsOf (⟨sizes ++ [4], ls.flatMap toList⟩ : Block Int) =
      .ok (sizes, ls.map toList) := by
    rw [rowsOf, List.getLast?_concat]
    show (if 4 = 4 then _ else _) = _
    rw [if_pos rfl, pieces_flatMap_toList, List.dropLast_concat]
  rw [containsAll, hv, map_eq_pure_bind]
  simp only [bind, Except.bind, hrows]
  rfl

/-- The rows of a block are answered if all of them lead to the table. -/
theorem mapM_lookUp_of_isReached (h : ∀ l ∈ ls, l.IsReached) :
    (ls.map toList).mapM s.lookUp = .ok (ls.map fun l => decide (l.lookedUp ∈ s.members)) := by
  rw [List.mapM_map]
  exact mapM_eq_pure_map fun l hl => lookUp_of_isReached (h l hl)

/-- A single row that leads nowhere is an error for all of them. -/
theorem mapM_lookUp_of_not_isReached (h : ¬ ∀ l ∈ ls, l.IsReached) :
    (ls.map toList).mapM s.lookUp = .error .outOfTable := by
  cases hrun : (ls.map toList).mapM s.lookUp with
  | ok found =>
    refine absurd (fun l hl => ?_) h
    by_contra hnot
    obtain ⟨b, hb⟩ := except_mapM_eq_ok hrun _ (List.mem_map.2 ⟨l, hl, rfl⟩)
    rw [lookUp_of_not_isReached hnot] at hb
    cases hb
  | error e =>
    obtain ⟨front, row, rest, hrows, -, he⟩ := except_mapM_eq_error_iff.1 hrun
    have hrow : row ∈ ls.map toList := by
      rw [hrows]
      exact List.mem_append_right front List.mem_cons_self
    obtain ⟨l, -, rfl⟩ := List.mem_map.1 hrow
    by_cases hl : l.IsReached
    · rw [lookUp_of_isReached hl] at he
      cases he
    · rw [lookUp_of_not_isReached hl] at he
      cases he
      rfl

theorem wholeWords_rowsOfNumbers (hne : ls ≠ []) (hwords : ∀ l ∈ ls, ∀ n ∈ l.toList, IsWord n) :
    Block.wholeWords (rowsOfNumbers ls) = .ok ⟨[ls.length] ++ [4], ls.flatMap toList⟩ := by
  have hrows : ∀ row ∈ ls.map toList, ∀ n ∈ row, IsWord n := List.forall_mem_map.2 hwords
  obtain ⟨sizes, hread, hsizes⟩ := Block.wholeWords_numberRows hrows length_of_mem_map_toList
  rw [rowsOfNumbers_eq, hread, hsizes (by simpa using hne), List.length_map, List.flatMap_def]
  rfl

/-- **A list of rows is answered exactly if every row leads to the table.** -/
theorem containsAll_of_isReached (hne : ls ≠ []) (hwords : ∀ l ∈ ls, ∀ n ∈ l.toList, IsWord n)
    (h : ∀ l ∈ ls, l.IsReached) : s.containsAll (rowsOfNumbers ls) =
      .ok (.list (ls.map fun l => .value (decide (l.lookedUp ∈ s.members)))) := by
  rw [containsAll_of_wholeWords (wholeWords_rowsOfNumbers hne hwords), mapM_lookUp_of_isReached h,
    ← Block.nest_map]
  rfl

@[inherit_doc containsAll_of_isReached]
theorem containsAll_of_not_isReached (hne : ls ≠ [])
    (hwords : ∀ l ∈ ls, ∀ n ∈ l.toList, IsWord n) (h : ¬ ∀ l ∈ ls, l.IsReached) :
    s.containsAll (rowsOfNumbers ls) = .error .outOfTable := by
  rw [containsAll_of_wholeWords (wholeWords_rowsOfNumbers hne hwords),
    mapM_lookUp_of_not_isReached h]
  rfl

/-- A row is answered as it is by itself if it is in the table or leads to no member. -/
theorem lookedUp_mem_eq_contains_iff :
    decide (l.lookedUp ∈ s.members) = s.contains l.toList ↔
      l.isInTable = true ∨ l.lookedUp ∉ s.members := by
  by_cases hin : l.isInTable = true
  · rw [contains_toList, lookedUp_of_isInTable hin]
    exact iff_of_true rfl (.inl hin)
  · rw [contains_of_not_isInTable hin, decide_eq_false_iff_not, or_iff_right hin]

/-- **Many rows at once, against the rows one by one.** A list of rows of four 64-bit integers is
answered exactly if every row leads to the table, and what is answered for a row is whether the
distribution that it leads to is a member. These are the answers for the rows one by one exactly if
each row has lengths from 0 to 13 or leads to a distribution that is no member. -/
theorem containsAll_rowsOfNumbers (s : Shape) (hne : ls ≠ [])
    (hwords : ∀ l ∈ ls, ∀ n ∈ l.toList, IsWord n) :
    ((∀ l ∈ ls, l.IsReached) → s.containsAll (rowsOfNumbers ls) =
      .ok (.list (ls.map fun l => .value (decide (l.lookedUp ∈ s.members))))) ∧
    ((¬ ∀ l ∈ ls, l.IsReached) → s.containsAll (rowsOfNumbers ls) = .error .outOfTable) ∧
    (s.containsAll (rowsOfNumbers ls) = .ok (.list (ls.map fun l => .value (s.contains l.toList))) ↔
      ∀ l ∈ ls, l.isInTable = true ∨ l.IsReached ∧ l.lookedUp ∉ s.members) := by
  refine ⟨containsAll_of_isReached hne hwords, containsAll_of_not_isReached hne hwords, ?_⟩
  by_cases h : ∀ l ∈ ls, l.IsReached
  · rw [containsAll_of_isReached hne hwords h, Except.ok.injEq, Nested.list.injEq,
      List.map_inj_left]
    refine forall₂_congr fun l hl => ?_
    rw [Nested.value.injEq, lookedUp_mem_eq_contains_iff, and_iff_right (h l hl)]
  · rw [containsAll_of_not_isReached hne hwords h]
    refine iff_of_false (by rintro ⟨⟩) fun hrows => h fun l hl => ?_
    exact (hrows l hl).elim isReached_of_isInTable And.left

/-- At a distribution and a row that leads to thirteen clubs and a diamond, which is no member. -/
theorem containsAll_rowsOfNumbers_thirteenClubs :
    (∀ l ∈ [(⟨4, 3, 3, 3⟩ : SuitLengths), ⟨0, 0, 0, 27⟩], ∀ n ∈ l.toList, IsWord n) ∧
      lookedUp ⟨0, 0, 0, 27⟩ = ⟨0, 0, 1, 13⟩ ∧
      all.containsAll (rowsOfNumbers [⟨4, 3, 3, 3⟩, ⟨0, 0, 0, 27⟩]) =
        .ok (.list [.value (all.contains [4, 3, 3, 3]), .value (all.contains [0, 0, 0, 27])]) := by
  have hwords : ∀ l ∈ [(⟨4, 3, 3, 3⟩ : SuitLengths), ⟨0, 0, 0, 27⟩], ∀ n ∈ l.toList, IsWord n := by
    decide
  have hlead : lookedUp ⟨0, 0, 0, 27⟩ = ⟨0, 0, 1, 13⟩ := by decide
  have hnot : (⟨0, 0, 1, 13⟩ : SuitLengths) ∉ all.members := by
    rw [mem_all]
    exact fun h => absurd h.total (by decide)
  obtain ⟨-, -, hagree⟩ := containsAll_rowsOfNumbers all (by simp) hwords
  refine ⟨hwords, hlead, hagree.2 ?_⟩
  simp only [List.forall_mem_cons, List.not_mem_nil, false_imp_iff, implies_true, and_true]
  exact ⟨.inl (by decide), .inr ⟨by decide, by rwa [hlead]⟩⟩

/-- **Seventeen clubs are answered as a distribution,** and fourteen spades are an error; by
themselves neither row is a member. -/
theorem containsAll_of_seventeenClubs :
    all.containsAll (rowsOfNumbers [⟨4, 3, 2, 17⟩]) = .ok (.list [.value true]) ∧
      all.contains [4, 3, 2, 17] = false ∧
      all.containsAll (rowsOfNumbers [⟨14, 0, 0, 0⟩]) = .error .outOfTable ∧
      all.contains [14, 0, 0, 0] = false := by
  have hmem : (⟨4, 3, 3, 3⟩ : SuitLengths) ∈ all.members := mem_all.2 (by decide)
  have hlead : lookedUp ⟨4, 3, 2, 17⟩ = ⟨4, 3, 3, 3⟩ := by decide
  refine ⟨?_, ?_, ?_, ?_⟩
  · rw [containsAll_of_isReached (by simp) (by decide) (by decide)]
    simp only [List.map_cons, List.map_nil, hlead, decide_eq_true hmem]
  · exact contains_of_not_isInTable (l := ⟨4, 3, 2, 17⟩) (by decide)
  · exact containsAll_of_not_isReached (by simp) (by decide) (by decide)
  · exact contains_of_not_isInTable (l := ⟨14, 0, 0, 0⟩) (by decide)

end Shape

end ContractBridge
