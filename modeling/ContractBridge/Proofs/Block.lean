/-
Rows of numbers as blocks.

A block keeps its entries in reading order and its sizes apart from them, so a list of rows is read
as one list of numbers, the rows one behind another, and where a row ended is left to the sizes.
Those can tell it only if all rows are equally long: rows of different lengths are refused, and rows
of one length are read, whatever that length is (`wholeWords_numberRows`). Cut into pieces of this
length the numbers are the rows again (`pieces_flatten`); cut into pieces of another length they are
not.
-/
import ContractBridge.Block
import ContractBridge.Proofs.Sequence

set_option autoImplicit false

namespace ContractBridge

/-- **Rows of numbers as a plain value,** a list of lists. -/
def Literal.numberRows (rows : List (List Int)) : Literal :=
  .list (rows.map fun row => .list (row.map .number))

/-- Whether a number is a 64-bit integer. -/
def IsWord (n : Int) : Prop := minWord ≤ n ∧ n ≤ maxWord

instance (n : Int) : Decidable (IsWord n) := inferInstanceAs (Decidable (_ ∧ _))

/-- A 64-bit integer is what it is cut to. -/
theorem wrap_eq_self {n : Int} (h : IsWord n) : wrap n = n := by
  simp only [IsWord, minWord, maxWord] at h
  apply Int.bmod_eq_of_le <;> omega

namespace Block

variable {α : Type} {rows : List (List Int)} {row : List Int} {k : Nat}

/-! ## Pieces of a list -/

/-- The pieces of a list stand in it behind a multiple of their length. -/
theorem mem_pieces {n : Nat} {l piece : List α} (hk : 0 < k) (hl : l.length = k * n) :
    piece ∈ pieces k n l ↔
      ∃ before after, l = before ++ piece ++ after ∧ k ∣ before.length ∧ piece.length = k := by
  induction n generalizing l with
  | zero =>
    have hnil : l = [] := List.length_eq_zero_iff.1 hl
    simp only [pieces, List.not_mem_nil, false_iff]
    rintro ⟨before, after, h, -, hpiece⟩
    have := congrArg List.length (hnil.symm.trans h)
    simp only [List.length_nil, List.length_append] at this
    omega
  | succ n ih =>
    rw [Nat.mul_succ] at hl
    have hdrop : (l.drop k).length = k * n := by
      rw [List.length_drop]
      omega
    rw [pieces, List.mem_cons, ih hdrop]
    constructor
    · rintro (rfl | ⟨before, after, h, hdvd, hpiece⟩)
      · refine ⟨[], l.drop k, (List.take_append_drop k l).symm, Nat.dvd_zero k, ?_⟩
        rw [List.length_take]
        omega
      · refine ⟨l.take k ++ before, after, ?_, ?_, hpiece⟩
        · rw [List.append_assoc, List.append_assoc, ← List.append_assoc before, ← h,
            List.take_append_drop]
        · rw [List.length_append, List.length_take, Nat.min_eq_left (by omega)]
          exact Nat.dvd_add (Nat.dvd_refl k) hdvd
    · rintro ⟨before, after, rfl, hdvd, hpiece⟩
      rcases Nat.eq_zero_or_pos before.length with hzero | hpos
      · left
        rw [List.length_eq_zero_iff.1 hzero, List.nil_append, List.take_left' hpiece]
      · right
        have hle : k ≤ before.length := Nat.le_of_dvd hpos hdvd
        refine ⟨before.drop k, after, ?_, ?_, hpiece⟩
        · rw [List.append_assoc, List.drop_append_of_le_length hle, List.append_assoc]
        · rw [List.length_drop]
          exact Nat.dvd_sub hdvd (Nat.dvd_refl k)

/-- Rows of one length, put one behind another, are the pieces of that length. -/
theorem pieces_flatten {rows : List (List α)} (hk : ∀ row ∈ rows, row.length = k) :
    pieces k rows.length rows.flatten = rows := by
  induction rows with
  | nil => rfl
  | cons row rows ih =>
    obtain ⟨hrow, hrows⟩ := List.forall_mem_cons.1 hk
    rw [List.flatten_cons, List.length_cons, pieces, List.take_left' hrow, List.drop_left' hrow,
      ih hrows]

/-- Values that are nested by their number are a list of them. -/
theorem nest_map {β : Type} (f : β → α) (l : List β) :
    nest [l.length] (l.map f) = .list (l.map fun b => .value (f b)) := by
  have hpieces : pieces 1 l.length (l.map f) = l.map fun b => [f b] := by
    induction l with
    | nil => rfl
    | cons b l ih => rw [List.length_cons, List.map_cons, pieces, List.map_cons, ← ih]; rfl
  show Nested.list ((pieces 1 l.length (l.map f)).map (nest [])) = _
  rw [hpieces, List.map_map]
  rfl

/-! ## Reading rows -/

theorem ofLiterals_map_number (row : List Int) :
    ofLiterals (row.map .number) = .ok (row.map fun n => ⟨[], [.number n]⟩) := by
  induction row with
  | nil => simp [ofLiterals]
  | cons n row ih =>
    have hentry : ofLiteral (.number n) = .ok ⟨[], [.number n]⟩ := rfl
    rw [List.map_cons, ofLiterals, hentry, ih]
    rfl

/-- A row of numbers is a block of one size. -/
theorem ofLiteral_row (row : List Int) :
    ofLiteral (.list (row.map .number)) = .ok ⟨[row.length], row.map .number⟩ := by
  rw [ofLiteral, ofLiterals_map_number]
  cases row with
  | nil => rfl
  | cons n row =>
    refine except_bind_eq_ok_iff.2 ⟨_, rfl, ?_⟩
    simp [ofList, List.flatMap_map, ← List.map_eq_flatMap]

theorem ofLiterals_rows (rows : List (List Int)) :
    ofLiterals (rows.map fun row => .list (row.map .number)) =
      .ok (rows.map fun row => ⟨[row.length], row.map .number⟩) := by
  induction rows with
  | nil => simp [ofLiterals]
  | cons row rows ih =>
    rw [List.map_cons, ofLiterals, ofLiteral_row, ih]
    rfl

/-- Whether rows are equally long. -/
def EquallyLong (rows : List (List Int)) : Prop := ∃ k, ∀ row ∈ rows, row.length = k

theorem equallyLong_cons : EquallyLong (row :: rows) ↔ ∀ r ∈ rows, r.length = row.length := by
  constructor
  · rintro ⟨k, hk⟩ r hr
    obtain ⟨hrow, hrows⟩ := List.forall_mem_cons.1 hk
    rw [hrow, hrows r hr]
  · intro h
    exact ⟨row.length, List.forall_mem_cons.2 ⟨rfl, h⟩⟩

/-- **Equally long rows are a block** of two sizes, their number and their length. -/
theorem ofLiteral_numberRows (hk : ∀ row ∈ rows, row.length = k) :
    ∃ sizes, ofLiteral (.numberRows rows) = .ok ⟨sizes, rows.flatten.map .number⟩ ∧
      (rows ≠ [] → sizes = [rows.length, k]) := by
  rw [Literal.numberRows, ofLiteral, ofLiterals_rows]
  cases rows with
  | nil => exact ⟨[0], rfl, fun h => absurd rfl h⟩
  | cons row rows =>
    obtain ⟨rfl, hrows⟩ := List.forall_mem_cons.1 hk
    refine ⟨[(row :: rows).length, row.length], except_bind_eq_ok_iff.2 ⟨_, rfl, ?_⟩, fun _ => rfl⟩
    have hall : (rows.map fun row => (⟨[row.length], row.map .number⟩ : Block Literal)).all
        (·.sizes == [row.length]) = true := by
      rw [List.all_map, List.all_eq_true]
      intro r hr
      simp [hrows r hr]
    simp only [List.map_cons, ofList]
    rw [if_pos hall]
    simp [List.map_flatten, List.flatMap_def, Function.comp_def]

/-- Rows of different lengths are no block. -/
theorem ofLiteral_numberRows_of_not (h : ¬ EquallyLong rows) :
    ofLiteral (.numberRows rows) = .error .ragged := by
  rw [Literal.numberRows, ofLiteral, ofLiterals_rows]
  cases rows with
  | nil => exact absurd ⟨0, fun _ hrow => absurd hrow List.not_mem_nil⟩ h
  | cons row rows =>
    refine except_bind_eq_error_iff.2 (.inr ⟨_, rfl, ?_⟩)
    have hall : ¬ (rows.map fun row => (⟨[row.length], row.map .number⟩ : Block Literal)).all
        (·.sizes == [row.length]) = true := by
      rw [List.all_map, List.all_eq_true]
      intro hall
      refine h (equallyLong_cons.2 fun r hr => ?_)
      simpa using hall r hr
    simp only [List.map_cons, ofList]
    rw [if_neg hall]

/-! ## Reading numbers -/

theorem mapM_toWord {numbers : List Int} (h : ∀ n ∈ numbers, IsWord n) :
    (numbers.map Literal.number).mapM (fun entry => do toWord (← entry.whole)) = .ok numbers := by
  have hentry : ∀ n ∈ numbers, (do toWord (← (Literal.number n).whole)) = pure n :=
    fun n hn => if_pos (h n hn)
  rw [List.mapM_map]
  show (numbers.mapM fun n => do toWord (← (Literal.number n).whole)) = _
  rw [mapM_eq_pure_map hentry, List.map_id']
  rfl

/-- **A row of 64-bit integers is read as it stands.** -/
theorem wholeWords_row (hwords : ∀ n ∈ row, IsWord n) :
    wholeWords (.list (row.map .number)) = .ok ⟨[row.length], row⟩ :=
  except_bind_eq_ok_iff.2 ⟨_, ofLiteral_row row,
    except_bind_eq_ok_iff.2 ⟨_, mapM_toWord hwords, rfl⟩⟩

/-- **Equally long rows of 64-bit integers are read row by row.** -/
theorem wholeWords_numberRows (hwords : ∀ row ∈ rows, ∀ n ∈ row, IsWord n)
    (hk : ∀ row ∈ rows, row.length = k) :
    ∃ sizes, wholeWords (.numberRows rows) = .ok ⟨sizes, rows.flatten⟩ ∧
      (rows ≠ [] → sizes = [rows.length, k]) := by
  obtain ⟨sizes, hblock, hsizes⟩ := ofLiteral_numberRows hk
  have hflat : ∀ n ∈ rows.flatten, IsWord n := by
    intro n hn
    obtain ⟨row, hrow, hn⟩ := List.mem_flatten.1 hn
    exact hwords row hrow n hn
  refine ⟨sizes, except_bind_eq_ok_iff.2 ⟨_, hblock, ?_⟩, hsizes⟩
  exact except_bind_eq_ok_iff.2 ⟨_, mapM_toWord hflat, rfl⟩

theorem wholeWords_numberRows_of_not (h : ¬ EquallyLong rows) :
    wholeWords (.numberRows rows) = .error .ragged := by
  rw [wholeWords, ofLiteral_numberRows_of_not h]
  rfl

end Block

end ContractBridge
