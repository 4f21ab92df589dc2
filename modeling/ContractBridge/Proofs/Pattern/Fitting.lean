/-
Patterns read off suit by suit.

Whether lengths match some patterns asks for a row of the patterns, and a group has as many rows as
it has orderings. For given patterns the question comes down to the lengths: a suit looks at the
first length (`fits_suit`), a group of two at the first two in either order (`fits_pair`), and a
group of equal members at that many lengths (`fits_replicate`). So what a written pattern asks for can
be read off from the front, a pattern at a time, without an ordering in sight.
-/
import Mathlib.Data.List.Permutation
import ContractBridge.Proofs.Pattern.Row

set_option autoImplicit false

namespace ContractBridge.Pattern

variable {ps : List Pattern} {p q : SuitPattern} {members : List SuitPattern}
  {front lengths : List Int} {m n : Int} {l : SuitLengths}

/-- **Whether some lengths fit some patterns:** a row of the patterns accepts them one by one. -/
def Fits (ps : List Pattern) (lengths : List Int) : Prop :=
  ∃ row, Rows ps row ∧ List.Forall₂ (fun p n => SuitPattern.contains p n = true) row lengths

/-- Four lengths match some patterns if they fit in suit order. -/
theorem matches_iff_fits : Matches ps l ↔ Fits ps l.toList := by
  constructor
  · rintro ⟨s, h, d, c, hrow, hs, hh, hd, hc⟩
    exact ⟨_, hrow, .cons hs (.cons hh (.cons hd (.cons hc .nil)))⟩
  · rintro ⟨row, hrow, hfits⟩
    simp only [SuitLengths.toList, List.forall₂_cons_right_iff, List.forall₂_nil_right_iff] at hfits
    obtain ⟨s, _, hs, ⟨h, _, hh, ⟨d, _, hd, ⟨c, _, hc, rfl, rfl⟩, rfl⟩, rfl⟩, rfl⟩ := hfits
    exact ⟨s, h, d, c, hrow, hs, hh, hd, hc⟩

theorem fits_nil : Fits [] lengths ↔ lengths = [] := by
  simp only [Fits, rows_nil_iff, exists_eq_left, List.forall₂_nil_left_iff]

/-- **A suit looks at the first length.** -/
theorem fits_suit :
    Fits (.suit p :: ps) (n :: lengths) ↔ p.contains n = true ∧ Fits ps lengths := by
  simp only [Fits, rows_suit_iff]
  constructor
  · rintro ⟨_, ⟨row, rfl, hrow⟩, hfits⟩
    obtain ⟨hp, hfits⟩ := List.forall₂_cons.1 hfits
    exact ⟨hp, row, hrow, hfits⟩
  · rintro ⟨hp, row, hrow, hfits⟩
    exact ⟨_, ⟨row, rfl, hrow⟩, .cons hp hfits⟩

/-- A group fits as one of its orderings does, suit by suit. -/
theorem fits_group : Fits (.group members :: ps) lengths ↔
    ∃ order : List SuitPattern, order.Perm members ∧ Fits (order.map .suit ++ ps) lengths := by
  simp only [Fits, rows_group_iff, rows_map_suit_append]
  constructor
  · rintro ⟨_, ⟨order, row, hperm, rfl, hrow⟩, hfits⟩
    exact ⟨order, hperm, _, ⟨row, rfl, hrow⟩, hfits⟩
  · rintro ⟨order, hperm, _, ⟨row, rfl, hrow⟩, hfits⟩
    exact ⟨_, ⟨order, row, hperm, rfl, hrow⟩, hfits⟩

/-- **A group of two looks at the first two lengths,** in either order. -/
theorem fits_pair : Fits (.group [p, q] :: ps) (m :: n :: lengths) ↔
    (p.contains m = true ∧ q.contains n = true ∨ q.contains m = true ∧ p.contains n = true) ∧
      Fits ps lengths := by
  simp only [fits_group, List.perm_pair, or_and_right, exists_or, exists_eq_left, List.map_cons,
    List.map_nil, List.cons_append, List.nil_append, fits_suit, and_assoc]

/-- Suits of one kind look at that many lengths. -/
theorem fits_map_suit_replicate : Fits ((List.replicate front.length p).map .suit ++ ps)
    (front ++ lengths) ↔ (∀ n ∈ front, p.contains n = true) ∧ Fits ps lengths := by
  induction front with
  | nil => simp
  | cons n front ih =>
    rw [List.length_cons, List.replicate_succ, List.map_cons, List.cons_append, List.cons_append,
      fits_suit, ih, List.forall_mem_cons, and_assoc]

/-- **A group of equal members looks at that many lengths.** -/
theorem fits_replicate (front : List Int) :
    Fits (.group (List.replicate front.length p) :: ps) (front ++ lengths) ↔
      (∀ n ∈ front, p.contains n = true) ∧ Fits ps lengths := by
  simp only [fits_group, List.perm_replicate, exists_eq_left, fits_map_suit_replicate]

end ContractBridge.Pattern
