/-
Grids and sets of deck cards determine each other.

A grid is made into a set row by row, while a set is made into a grid card by card. Both are known by
their squares: the set of a full grid holds the places of the squares that are taken (`has_ofGrid`),
and the grid of a set takes the squares whose places are held (`toGrid_eq`). As different squares
have different places, either way back leads to where one came from. The squares taken in a row are
one for each card of its suit (`size_inSuit_eq_count`).
-/
import Mathlib.Data.List.GetD
import ContractBridge.Proofs.CardSet.Grid

set_option autoImplicit false

namespace ContractBridge

namespace Grid

variable {rows : Grid} {suit : Suit} {column : Nat}

/-- **Whether a grid has four rows of thirteen squares.** -/
structure IsFull (rows : Grid) : Prop where
  length_eq : rows.length = 4
  length_row : ∀ row ∈ rows, row.length = handSize

/-- The row of a suit. -/
def row (rows : Grid) (suit : Suit) : List Bool := rows.getD suit.index []

/-- Whether a square is taken. -/
def takes (rows : Grid) (suit : Suit) (column : Nat) : Bool := (rows.row suit).getD column false

/-- A grid of four rows is known by the rows of the suits. -/
theorem eq_map_row (h : rows.length = 4) : rows = Suit.all.map rows.row := by
  match rows, h with
  | [_, _, _, _], _ => rfl

theorem IsFull.length_row_suit (h : rows.IsFull) (suit : Suit) :
    (rows.row suit).length = handSize := by
  have hlt : suit.index < rows.length := by
    rw [h.length_eq]
    exact suit.index_lt_four
  rw [row, List.getD_eq_getElem _ _ hlt]
  exact h.length_row _ (List.getElem_mem hlt)

/-- A full grid is known by its squares. -/
theorem IsFull.eq_map_takes (h : rows.IsFull) :
    rows = Suit.all.map fun suit => (List.range handSize).map (rows.takes suit) := by
  have hrow : ∀ suit, rows.row suit = (List.range handSize).map (rows.takes suit) := by
    intro suit
    refine List.ext_getElem ?_ fun column hcolumn _ => ?_
    · rw [h.length_row_suit, List.length_map, List.length_range]
    · rw [List.getElem_map, List.getElem_range, takes, List.getD_eq_getElem _ _ hcolumn]
  calc rows = Suit.all.map rows.row := eq_map_row h.length_eq
    _ = _ := List.map_congr_left fun suit _ => hrow suit

/-- Only the thirteen squares of a row are taken. -/
theorem IsFull.lt_of_takes (h : rows.IsFull) (htakes : rows.takes suit column = true) :
    column < handSize := by
  rw [← h.length_row_suit suit]
  apply Nat.lt_of_not_le
  intro hle
  rw [takes, List.getD_eq_default _ _ hle] at htakes
  cases htakes

end Grid

namespace CardSet

variable {s : CardSet} {rows : Grid} {suit : Suit} {column i : Nat}

/-! ## From the grid to the set -/

/-- A row puts in the places of its taken squares. -/
theorem has_ofRow {row : List Bool} : (ofRow suit column row).has i = true ↔
    ∃ k, row.getD k false = true ∧ squarePlace suit (column + k) = i := by
  induction row generalizing column with
  | nil => simp [ofRow]
  | cons b row ih =>
    -- the first square is apart, the others are those of the rest, one column further
    rw [← Nat.or_exists_add_one]
    simp only [List.getD_cons_zero, List.getD_cons_succ, Nat.add_zero, ← Nat.add_assoc,
      Nat.add_right_comm column _ 1, ← ih, ofRow]
    cases b with
    | false => simp
    | true => simp [squarePlace, or_comm]

/-- The sets of a list together hold what one of them holds. -/
theorem has_foldl_union {l : List CardSet} {t : CardSet} :
    (l.foldl (· ∪ ·) t).has i = true ↔ t.has i = true ∨ ∃ u ∈ l, u.has i = true := by
  induction l generalizing t with
  | nil => simp only [List.foldl_nil, List.not_mem_nil, false_and, exists_false, or_false]
  | cons u l ih =>
    rw [List.foldl_cons, ih, has_union, Bool.or_eq_true, or_assoc, List.exists_mem_cons_iff]

theorem ofGrid_eq_ok (h : rows.IsFull) : ofGrid rows =
    .ok ((Suit.all.map fun suit => ofRow suit 0 (rows.row suit)).foldl (· ∪ ·) ∅) := by
  have hhead : (rows.headD []).length = handSize := by
    have hspades : rows.headD [] = rows.row .spades := by cases rows <;> rfl
    rw [hspades, h.length_row_suit]
  have heven : rows.any (fun row => row.length != (rows.headD []).length) = false := by
    rw [List.any_eq_false]
    intro row hrow
    rw [hhead, h.length_row row hrow]
    decide
  have hrows : List.zipWith (fun suit row => ofRow suit 0 row) Suit.all rows =
      Suit.all.map fun suit => ofRow suit 0 (rows.row suit) := by
    conv_lhs => rw [Grid.eq_map_row h.length_eq]
    rw [List.zipWith_map_right, List.zipWith_self]
  rw [ofGrid, heven, if_neg Bool.false_ne_true, if_pos ⟨h.length_eq, hhead⟩, hrows]

section ofGrid

variable (h : rows.IsFull) (hs : ofGrid rows = .ok s)
include h hs

/-- **The set of a full grid holds the places of the squares that are taken.** -/
theorem has_ofGrid : s.has i = true ↔
    ∃ suit column, rows.takes suit column = true ∧ squarePlace suit column = i := by
  rw [ofGrid_eq_ok h] at hs
  cases hs
  rw [has_foldl_union, has_empty]
  simp only [Bool.false_eq_true, false_or, List.mem_map, exists_exists_eq_and, Suit.mem_all,
    true_and, has_ofRow, Nat.zero_add, Grid.takes]

/-- The set of a full grid has the card of a square exactly if the square is taken. -/
theorem has_ofGrid_squarePlace (hcolumn : column < handSize) :
    s.has (squarePlace suit column) = rows.takes suit column := by
  rw [Bool.eq_iff_iff, has_ofGrid h hs]
  constructor
  · rintro ⟨other, column', htakes, hplace⟩
    obtain ⟨rfl, rfl⟩ := squarePlace_inj (h.lt_of_takes htakes) hcolumn hplace
    exact htakes
  · exact fun htakes => ⟨suit, column, htakes, rfl⟩

/-- The set of a full grid is one of deck cards. -/
theorem ofGrid_subset : s.subset deck = true := by
  rw [subset_iff]
  intro i hi
  obtain ⟨suit, column, htakes, hplace⟩ := (has_ofGrid h hs).1 hi
  exact has_deck_iff_square.2 ⟨suit, column, h.lt_of_takes htakes, hplace⟩

/-- **The set of a full grid takes the squares of the grid.** -/
theorem squares_ofGrid : s.squares = rows := by
  refine Eq.trans ?_ h.eq_map_takes.symm
  refine List.map_congr_left fun suit _ => List.map_congr_left fun column hcolumn => ?_
  exact has_ofGrid_squarePlace h hs (List.mem_range.1 hcolumn)

end ofGrid

/-! ## From the set to the grid -/

theorem isFull_squares (s : CardSet) : Grid.IsFull s.squares where
  length_eq := rfl
  length_row row hrow := by
    obtain ⟨suit, -, rfl⟩ := List.mem_map.1 hrow
    rw [List.length_map, List.length_range]

theorem row_squares (s : CardSet) (suit : Suit) : Grid.row s.squares suit =
    (List.range handSize).map fun column => s.has (squarePlace suit column) := by
  cases suit <;> rfl

theorem takes_squares (s : CardSet) (suit : Suit) (hcolumn : column < handSize) :
    Grid.takes s.squares suit column = s.has (squarePlace suit column) := by
  rw [Grid.takes, row_squares, List.getD_eq_getElem?_getD, List.getElem?_map,
    List.getElem?_range hcolumn]
  rfl

theorem has_of_squares_eq {t : CardSet} (hs : s.subset deck = true) (h : s.squares = t.squares)
    (hi : s.has i = true) : t.has i = true := by
  obtain ⟨suit, column, hcolumn, rfl⟩ := has_deck_iff_square.1 (subset_iff.1 hs i hi)
  rwa [← takes_squares t suit hcolumn, ← h, takes_squares s suit hcolumn]

/-- Sets of deck cards are known by the squares that they take. -/
theorem eq_of_squares_eq {t : CardSet} (hs : s.subset deck = true) (ht : t.subset deck = true)
    (h : s.squares = t.squares) : s = t :=
  ext fun _ => Bool.eq_iff_iff.2 ⟨has_of_squares_eq hs h, has_of_squares_eq ht h.symm⟩

/-- **The set of the squares that a set takes is the set.** -/
theorem ofGrid_squares (hs : s.subset deck = true) : ofGrid s.squares = .ok s := by
  have hfull : Grid.IsFull s.squares := isFull_squares s
  have ht := ofGrid_eq_ok hfull
  rw [eq_of_squares_eq (ofGrid_subset hfull ht) hs (squares_ofGrid hfull ht)] at ht
  exact ht

/-! ## The squares of a row -/

/-- The columns that a set takes in the row of a suit. -/
def columns (s : CardSet) (suit : Suit) : List Nat :=
  (List.range handSize).filter fun column => s.has (squarePlace suit column)

theorem mem_columns : column ∈ s.columns suit ↔
    column < handSize ∧ s.has (squarePlace suit column) = true := by
  rw [columns, List.mem_filter, List.mem_range]

theorem nodup_map_columns (s : CardSet) (suit : Suit) :
    ((s.columns suit).map (squarePlace suit)).Nodup := by
  have hnodup : (s.columns suit).Nodup := List.nodup_range.filter _
  refine hnodup.map_on fun column hcolumn column' hcolumn' hplace => ?_
  exact (squarePlace_inj (mem_columns.1 hcolumn).1 (mem_columns.1 hcolumn').1 hplace).2

/-- The cards of a suit are those on the columns that are taken in its row. -/
theorem has_inSuit_iff_columns (hs : s.subset deck = true) : (s.inSuit suit).has i = true ↔
    i ∈ (s.columns suit).map (squarePlace suit) := by
  rw [has_inSuit_iff, List.mem_map]
  constructor
  · rintro ⟨hi, hlane⟩
    obtain ⟨other, column, hcolumn, rfl⟩ := has_deck_iff_square.1 (subset_iff.1 hs i hi)
    obtain rfl := (squarePlace_lane_iff hcolumn).1 hlane
    exact ⟨column, mem_columns.2 ⟨hcolumn, hi⟩, rfl⟩
  · rintro ⟨column, hcolumn, rfl⟩
    obtain ⟨hcolumn, hi⟩ := mem_columns.1 hcolumn
    exact ⟨hi, (squarePlace_lane_iff hcolumn).2 rfl⟩

theorem count_row_squares (s : CardSet) (suit : Suit) :
    (Grid.row s.squares suit).count true = (s.columns suit).length := by
  rw [row_squares, List.count, List.countP_map, List.countP_eq_length_filter, columns]
  congr 1
  refine List.filter_congr fun column _ => ?_
  rw [Function.comp_apply, beq_true]

/-- **The squares that are taken in a row are one for each card of the suit.** -/
theorem size_inSuit_eq_count (hs : s.subset deck = true) (suit : Suit) :
    (s.inSuit suit).size = (Grid.row s.squares suit).count true := by
  have hsuit : (s.inSuit suit).IsFinite := (isFinite_deck.of_subset hs).inSuit suit
  rw [count_row_squares, size_eq_length hsuit (nodup_map_columns s suit)
    fun _ => has_inSuit_iff_columns hs, List.length_map]

/-! ## There and back -/

/-- **Grids and sets of deck cards are in correspondence.** A set of deck cards has a full grid, the
grid leads back to the set, and the squares taken in the row of a suit are as many as the length of
the suit and as the cards of the suit. A full grid has a set, of deck cards, that leads back to the
grid. -/
theorem toGrid_inverse :
    (∀ s : CardSet, s.subset deck = true → ∃ rows : Grid, rows.IsFull ∧
      s.toGrid = .ok rows ∧ ofGrid rows = .ok s ∧
      ∀ suit : Suit, ∃ row, rows[suit.index]? = some row ∧
        (row.count true : Int) = s.suitLengths.get suit ∧
        row.count true = (s.inSuit suit).size) ∧
      ∀ rows : Grid, rows.IsFull →
        ∃ s, ofGrid rows = .ok s ∧ s.subset deck = true ∧ s.toGrid = .ok rows := by
  constructor
  · intro s hs
    refine ⟨s.squares, isFull_squares s, toGrid_eq hs, ofGrid_squares hs, fun suit => ?_⟩
    have hrow : s.squares[suit.index]? = some (Grid.row s.squares suit) := by cases suit <;> rfl
    have hlength := get_suitLengths_eq_size (isFinite_deck.of_subset hs) suit
    rw [size_inSuit_eq_count hs suit] at hlength ⊢
    exact ⟨_, hrow, hlength.symm, rfl⟩
  · intro rows h
    have hs := ofGrid_eq_ok h
    have hdeck := ofGrid_subset h hs
    refine ⟨_, hs, hdeck, ?_⟩
    rw [toGrid_eq hdeck, squares_ofGrid h hs]

/-- The ace and the king of spades and the two of clubs, as a grid. -/
def threeSquares : Grid :=
  [true :: true :: List.replicate 11 false, List.replicate 13 false, List.replicate 13 false,
    List.replicate 12 false ++ [true]]

/-- At three cards of two suits. -/
theorem toGrid_inverse_threeSquares :
    ((⟨0x0004000000006000⟩ : CardSet).subset deck = true ∧
      ∃ rows : Grid, (⟨0x0004000000006000⟩ : CardSet).toGrid = .ok rows ∧
        ofGrid rows = .ok ⟨0x0004000000006000⟩ ∧
        ∃ row, rows[0]? = some row ∧ row.count true = 2) ∧
      threeSquares.IsFull ∧ ∃ s, ofGrid threeSquares = .ok s ∧ s.toGrid = .ok threeSquares := by
  have hdeck : (⟨0x0004000000006000⟩ : CardSet).subset deck = true := by decide
  have hfull : threeSquares.IsFull := ⟨rfl, by decide⟩
  obtain ⟨rows, -, hgrid, hback, hcount⟩ := toGrid_inverse.1 _ hdeck
  obtain ⟨row, hrow, -, hspades⟩ := hcount .spades
  have htwo : ((⟨0x0004000000006000⟩ : CardSet).inSuit .spades).size = 2 := by decide
  obtain ⟨s, hs, -, hgrid'⟩ := toGrid_inverse.2 _ hfull
  exact ⟨⟨hdeck, rows, hgrid, hback, row, hrow, hspades.trans htwo⟩, hfull, s, hs, hgrid'⟩

end CardSet

end ContractBridge
