/-
Distributions one by one.

A shape can be given by its distributions, and what is given is a block of numbers that is read
in fours, however it is nested. So a distribution counts as given if its four lengths stand in
the numbers behind a multiple of four of them (`StandsIn`), and the shape is refused unless every
four numbers that stand so are a distribution of thirteen cards. For a list of distributions,
four numbers to each, the ones that stand in it are its entries.
-/
import ContractBridge.Proofs.Block
import ContractBridge.Proofs.Shape.Members

set_option autoImplicit false

namespace ContractBridge

namespace Shape

variable {s : Shape} {l : SuitLengths} {numbers : List Int} {v : Literal}

/-! ## Numbers in fours -/

/-- The numbers that a plain value lists, in reading order. -/
def HasNumbers (v : Literal) (numbers : List Int) : Prop :=
  ∃ items b, v.items? = some items ∧ Block.wholeWords (.list items) = .ok b ∧ b.entries = numbers

/-- A plain value has its numbers in one way only. -/
theorem HasNumbers.unique {others : List Int} (h : HasNumbers v numbers)
    (h' : HasNumbers v others) : others = numbers := by
  obtain ⟨items, b, hitems, hb, rfl⟩ := h
  obtain ⟨items', b', hitems', hb', rfl⟩ := h'
  rw [hitems, Option.some.injEq] at hitems'
  subst hitems'
  rw [hb, Except.ok.injEq] at hb'
  rw [hb']

/-- **Whether a distribution stands in some numbers** that are read in fours. -/
def StandsIn (l : SuitLengths) (numbers : List Int) : Prop :=
  ∃ before after, numbers = before ++ l.toList ++ after ∧ 4 ∣ before.length

theorem standsIn_iff_mem_pieces (h : 4 ∣ numbers.length) :
    StandsIn l numbers ↔ l.toList ∈ Block.pieces 4 (numbers.length / 4) numbers := by
  rw [Block.mem_pieces (by omega) (Nat.mul_div_cancel' h).symm]
  exact exists_congr fun _ => exists_congr fun _ => and_congr_right fun _ =>
    (and_iff_left rfl).symm

/-- Every four numbers that are read are the lengths of a distribution. -/
theorem exists_toList_of_mem_pieces {row : List Int} (h : 4 ∣ numbers.length)
    (hrow : row ∈ Block.pieces 4 (numbers.length / 4) numbers) :
    ∃ l : SuitLengths, l.toList = row := by
  obtain ⟨-, -, -, -, hlen⟩ := (Block.mem_pieces (by omega) (Nat.mul_div_cancel' h).symm).1 hrow
  match row, hlen with
  | [s, h, d, c], _ => exact ⟨⟨s, h, d, c⟩, rfl⟩

theorem isDistribution_iff : isDistribution l.toList = true ↔ l.IsOfHand := by
  have htotal : total l.toList = l.total := by
    simp only [SuitLengths.toList, total_cons, total_nil, SuitLengths.total]
    omega
  rw [isDistribution, Bool.and_eq_true, beq_iff_eq, htotal, List.all_eq_true]
  simp only [Bool.and_eq_true, decide_eq_true_eq]
  constructor
  · rintro ⟨hbounds, hsum⟩
    exact ⟨hbounds, hsum⟩
  · intro h
    exact ⟨h.bounds, h.total⟩

/-- All fours that are read are distributions of hands if all that stand in the numbers are. -/
theorem all_isDistribution_iff (h : 4 ∣ numbers.length) :
    (Block.pieces 4 (numbers.length / 4) numbers).all isDistribution = true ↔
      ∀ l, StandsIn l numbers → l.IsOfHand := by
  rw [List.all_eq_true]
  constructor
  · intro hall l hl
    exact isDistribution_iff.1 (hall _ ((standsIn_iff_mem_pieces h).1 hl))
  · intro hall row hrow
    obtain ⟨l, rfl⟩ := exists_toList_of_mem_pieces h hrow
    exact isDistribution_iff.2 (hall l ((standsIn_iff_mem_pieces h).2 hrow))

/-- **What is accepted as distributions one by one:** numbers in fours, each four of them a
distribution of a hand. -/
def Lists (v : Literal) (numbers : List Int) : Prop :=
  HasNumbers v numbers ∧ 4 ∣ numbers.length ∧ ∀ l, StandsIn l numbers → l.IsOfHand

/-- Distributions are read from the numbers of a block in three steps, the first of which is to cut
them into fours. -/
theorem ofRows_of_wholeWords {items : List Literal} {b : Block Int} (hitems : v.items? = some items)
    (hb : Block.wholeWords (.list items) = .ok b) :
    ofRows v =
      if b.entries.length % 4 ≠ 0 then .error .ragged
      else if (Block.pieces 4 (b.entries.length / 4) b.entries).all isDistribution then
        .ok (ofDistributions ((Block.pieces 4 (b.entries.length / 4) b.entries).filterMap
          SuitLengths.ofList?))
      else .error .badDistribution := by
  unfold ofRows
  rw [hitems]
  simp only [hb]
  rfl

/-- Reading distributions one by one, by what is accepted. -/
theorem ofRows_eq_ok_iff :
    ofRows v = .ok s ↔
      ∃ numbers, Lists v numbers ∧
        ofDistributions ((Block.pieces 4 (numbers.length / 4) numbers).filterMap
          SuitLengths.ofList?) = s := by
  constructor
  · intro h
    cases hitems : v.items? with
    | none =>
      rw [ofRows, hitems] at h
      cases h
    | some items =>
      cases hb : Block.wholeWords (.list items) with
      | error e =>
        rw [ofRows, hitems] at h
        simp only [hb] at h
        cases h
      | ok b =>
        rw [ofRows_of_wholeWords hitems hb] at h
        split at h
        · cases h
        · rename_i hfours
          split at h
          · rename_i hall
            have hdvd : 4 ∣ b.entries.length := by omega
            exact ⟨b.entries, ⟨⟨items, b, hitems, hb, rfl⟩, hdvd,
              (all_isDistribution_iff hdvd).1 hall⟩, Except.ok.inj h⟩
          · cases h
  · rintro ⟨_, ⟨⟨items, b, hitems, hb, rfl⟩, hdvd, hhands⟩, rfl⟩
    have hfours : ¬ b.entries.length % 4 ≠ 0 := by omega
    rw [ofRows_of_wholeWords hitems hb, if_neg hfours,
      if_pos ((all_isDistribution_iff hdvd).2 hhands)]

/-- **The members given one by one are the distributions that stand in the numbers.** -/
theorem mem_ofRows (h : ofRows v = .ok s) :
    l ∈ s.members ↔ ∃ numbers, HasNumbers v numbers ∧ StandsIn l numbers := by
  obtain ⟨numbers, ⟨hnumbers, hdvd, hhands⟩, rfl⟩ := ofRows_eq_ok_iff.1 h
  have hread : ∀ m, m ∈ (Block.pieces 4 (numbers.length / 4) numbers).filterMap
      SuitLengths.ofList? ↔ StandsIn m numbers := by
    intro m
    rw [List.mem_filterMap, standsIn_iff_mem_pieces hdvd]
    constructor
    · rintro ⟨row, hrow, hm⟩
      obtain ⟨k, rfl⟩ := exists_toList_of_mem_pieces hdvd hrow
      rw [SuitLengths.ofList?_toList, Option.some.injEq] at hm
      rwa [← hm]
    · intro hm
      exact ⟨m.toList, hm, SuitLengths.ofList?_toList m⟩
  rw [mem_ofDistributions fun m hm => (hhands m ((hread m).1 hm)).isInTable, hread]
  constructor
  · intro hl
    exact ⟨numbers, hnumbers, hl⟩
  · rintro ⟨others, hothers, hl⟩
    rwa [hnumbers.unique hothers] at hl

/-- Only distributions of hands are accepted. -/
theorem isOfHand_of_mem_ofRows (h : ofRows v = .ok s) (hl : l ∈ s.members) : l.IsOfHand := by
  obtain ⟨others, hothers, hstands⟩ := (mem_ofRows h).1 hl
  obtain ⟨numbers, ⟨hnumbers, -, hhands⟩, -⟩ := ofRows_eq_ok_iff.1 h
  rw [hnumbers.unique hothers] at hstands
  exact hhands l hstands

/-! ## Lists of distributions -/

/-- A list of distributions as a plain value, four numbers to each. -/
def rowsOfNumbers (ls : List SuitLengths) : Literal :=
  .list (ls.map fun l => .list (l.toList.map .number))

variable {ls : List SuitLengths}

theorem toList_injective : Function.Injective SuitLengths.toList := by
  intro l m h
  have hsome : some l = some m := by
    rw [← SuitLengths.ofList?_toList, h, SuitLengths.ofList?_toList]
  exact Option.some.inj hsome

theorem rowsOfNumbers_eq : rowsOfNumbers ls = .numberRows (ls.map SuitLengths.toList) := by
  rw [rowsOfNumbers, Literal.numberRows, List.map_map]
  rfl

/-- Each distribution is a row of four. -/
theorem length_of_mem_map_toList : ∀ row ∈ ls.map SuitLengths.toList, row.length = 4 := by
  intro row hrow
  obtain ⟨l, -, rfl⟩ := List.mem_map.1 hrow
  rfl

/-- Equally long rows list their numbers one after the other. -/
theorem hasNumbers_numberRows {rows : List (List Int)}
    (hwords : ∀ row ∈ rows, ∀ n ∈ row, IsWord n) (h : Block.EquallyLong rows) :
    HasNumbers (.numberRows rows) rows.flatten := by
  obtain ⟨k, hk⟩ := h
  obtain ⟨sizes, hread, -⟩ := Block.wholeWords_numberRows hwords hk
  exact ⟨_, _, rfl, hread, rfl⟩

/-- The lengths of hands are 64-bit integers. -/
theorem isWord_of_mem_map_toList (hls : ∀ l ∈ ls, l.IsOfHand) :
    ∀ row ∈ ls.map SuitLengths.toList, ∀ n ∈ row, IsWord n := by
  intro row hrow n hn
  obtain ⟨l, hl, rfl⟩ := List.mem_map.1 hrow
  have := (hls l hl).bounds n hn
  simp only [handSize, IsWord, minWord, maxWord] at this ⊢
  omega

/-- A list of distributions lists their lengths one after the other. -/
theorem hasNumbers_rowsOfNumbers (hls : ∀ l ∈ ls, l.IsOfHand) :
    HasNumbers (rowsOfNumbers ls) (ls.flatMap SuitLengths.toList) := by
  rw [rowsOfNumbers_eq, List.flatMap_def]
  exact hasNumbers_numberRows (isWord_of_mem_map_toList hls) ⟨4, length_of_mem_map_toList⟩

theorem length_flatMap_toList : (ls.flatMap SuitLengths.toList).length = 4 * ls.length := by
  induction ls with
  | nil => rfl
  | cons l ls ih =>
    rw [List.flatMap_cons, List.length_append, ih, SuitLengths.toList]
    simp only [List.length_cons, List.length_nil]
    omega

/-- The fours of the lengths of some distributions are these distributions. -/
theorem pieces_flatMap_toList :
    Block.pieces 4 ((ls.flatMap SuitLengths.toList).length / 4) (ls.flatMap SuitLengths.toList) =
      ls.map SuitLengths.toList := by
  have hcount : ls.length = (ls.map SuitLengths.toList).length := (List.length_map _).symm
  rw [length_flatMap_toList, Nat.mul_div_cancel_left _ (by omega), List.flatMap_def, hcount]
  exact Block.pieces_flatten length_of_mem_map_toList

/-- What stands in a list of distributions are its entries. -/
theorem standsIn_flatMap_toList : StandsIn l (ls.flatMap SuitLengths.toList) ↔ l ∈ ls := by
  rw [standsIn_iff_mem_pieces ⟨_, length_flatMap_toList⟩, pieces_flatMap_toList]
  exact List.mem_map_of_injective toList_injective

/-- A list of distributions gives its entries. -/
theorem exists_standsIn_rowsOfNumbers_iff (hls : ∀ l ∈ ls, l.IsOfHand) :
    (∃ numbers, HasNumbers (rowsOfNumbers ls) numbers ∧ StandsIn l numbers) ↔ l ∈ ls := by
  have hnumbers := hasNumbers_rowsOfNumbers hls
  rw [← standsIn_flatMap_toList]
  constructor
  · rintro ⟨numbers, h, hl⟩
    rwa [hnumbers.unique h] at hl
  · intro hl
    exact ⟨_, hnumbers, hl⟩

/-- A list of distributions of hands is accepted. -/
theorem lists_rowsOfNumbers (hls : ∀ l ∈ ls, l.IsOfHand) :
    Lists (rowsOfNumbers ls) (ls.flatMap SuitLengths.toList) :=
  ⟨hasNumbers_rowsOfNumbers hls, ⟨_, length_flatMap_toList⟩, fun l hl =>
    hls l (standsIn_flatMap_toList.1 hl)⟩

end Shape

end ContractBridge
