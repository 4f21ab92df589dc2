/-
What a list of patterns means.

A list of patterns is read as rows of suit patterns: a suit stands for itself and a group for
its members in any order. `Rows` is that reading, by one rule for each kind of pattern, and
`Matches` says of four lengths that some row of exactly four suit patterns accepts them one by
one. Neither mentions how distributions are found, so the enumeration can be held against them.

The lemmas say how a row begins, that every row holds the same suit patterns in another order,
and what follows for their number and for the cards they take in any case.
-/
import Mathlib.Data.List.Perm.Basic
import ContractBridge.Pattern
import ContractBridge.SuitLengths

set_option autoImplicit false

namespace ContractBridge

/-- The total of a list does not depend on its order. -/
theorem total_eq_of_perm {l m : List Int} (h : l.Perm m) : total l = total m := by
  induction h with
  | nil => rfl
  | cons n _ ih => rw [total_cons, total_cons, ih]
  | swap n k l =>
    simp only [total_cons]
    omega
  | trans _ _ ih₁ ih₂ => exact ih₁.trans ih₂

namespace Pattern

/-! ## Rows -/

/-- **The rows of suit patterns that a list of patterns can be read as.** -/
inductive Rows : List Pattern → List SuitPattern → Prop
  | nil : Rows [] []
  | suit {p : SuitPattern} {ps : List Pattern} {row : List SuitPattern} :
      Rows ps row → Rows (.suit p :: ps) (p :: row)
  | group {members order : List SuitPattern} {ps : List Pattern} {row : List SuitPattern} :
      order.Perm members → Rows ps row → Rows (.group members :: ps) (order ++ row)

/-- **Whether four lengths match some patterns:** one of their rows is four suit patterns that
accept the lengths in suit order. -/
def Matches (ps : List Pattern) (l : SuitLengths) : Prop :=
  ∃ s h d c, Rows ps [s, h, d, c] ∧ s.contains l.spades = true ∧ h.contains l.hearts = true ∧
    d.contains l.diamonds = true ∧ c.contains l.clubs = true

/-- What every written pattern is: no length is negative, and a group has two members. -/
def IsProper : Pattern → Prop
  | suit p => 0 ≤ p.length
  | group members => 2 ≤ members.length ∧ ∀ p ∈ members, 0 ≤ p.length

instance : DecidablePred IsProper
  | suit p => inferInstanceAs (Decidable (0 ≤ p.length))
  | group _ => inferInstanceAs (Decidable (_ ∧ _))

variable {ps : List Pattern} {row order members : List SuitPattern} {p : SuitPattern}

theorem rows_nil_iff : Rows [] row ↔ row = [] := by
  constructor
  · intro h
    cases h
    rfl
  · rintro rfl
    exact .nil

theorem rows_suit_iff : Rows (.suit p :: ps) row ↔ ∃ r, row = p :: r ∧ Rows ps r := by
  constructor
  · intro h
    cases h with
    | suit h => exact ⟨_, rfl, h⟩
  · rintro ⟨r, rfl, h⟩
    exact .suit h

theorem rows_group_iff :
    Rows (.group members :: ps) row ↔
      ∃ order r, order.Perm members ∧ row = order ++ r ∧ Rows ps r := by
  constructor
  · intro h
    cases h with
    | group hperm h => exact ⟨_, _, hperm, rfl, h⟩
  · rintro ⟨order, r, hperm, rfl, h⟩
    exact .group hperm h

/-- Suits put in front of some patterns stand in front of their rows. -/
theorem rows_map_suit_append :
    Rows (order.map .suit ++ ps) row ↔ ∃ r, row = order ++ r ∧ Rows ps r := by
  induction order generalizing row with
  | nil => simp only [List.map_nil, List.nil_append, exists_eq_left']
  | cons p order ih =>
    rw [List.map_cons, List.cons_append, rows_suit_iff]
    constructor
    · rintro ⟨r, rfl, h⟩
      obtain ⟨t, rfl, ht⟩ := ih.1 h
      exact ⟨t, rfl, ht⟩
    · rintro ⟨t, rfl, ht⟩
      exact ⟨order ++ t, rfl, ih.2 ⟨t, rfl, ht⟩⟩

theorem fixedMinimum_cons (q : Pattern) (ps : List Pattern) :
    fixedMinimum (q :: ps) = total (q.suits.map SuitPattern.minimum) + fixedMinimum ps := by
  rw [fixedMinimum, flatten_cons, List.map_append, total_append, fixedMinimum]

theorem fixedMinimum_map_suit_append (order : List SuitPattern) (ps : List Pattern) :
    fixedMinimum (order.map .suit ++ ps) =
      total (order.map SuitPattern.minimum) + fixedMinimum ps := by
  have hflat : flatten (order.map .suit) = order := by
    rw [flatten, List.flatMap_map]
    exact List.flatMap_singleton' order
  rw [fixedMinimum, flatten_append, hflat, List.map_append, total_append, fixedMinimum]

/-- A row is the suits of the patterns in some order. -/
theorem Rows.perm (h : Rows ps row) : row.Perm (flatten ps) := by
  induction h with
  | nil => exact .nil
  | suit _ ih => exact ih.cons _
  | group hperm _ ih => exact hperm.append ih

/-- The cards that some patterns take in any case are those of any of their rows. -/
theorem Rows.total_minimum (h : Rows ps row) :
    total (row.map SuitPattern.minimum) = fixedMinimum ps :=
  total_eq_of_perm (h.perm.map _)

/-- Proper patterns have no more entries than suits. -/
theorem Rows.length_le (h : Rows ps row) (hps : ∀ p ∈ ps, p.IsProper) :
    ps.length ≤ row.length := by
  induction h with
  | nil => exact Nat.le_refl 0
  | suit _ ih =>
    have := ih fun p hp => hps p (List.mem_cons_of_mem _ hp)
    rw [List.length_cons, List.length_cons]
    omega
  | group hperm _ ih =>
    have hrest := ih fun p hp => hps p (List.mem_cons_of_mem _ hp)
    have hgroup := (hps _ List.mem_cons_self).1
    rw [List.length_cons, List.length_append, hperm.length_eq]
    omega

/-- Proper patterns with a row of one suit pattern are that suit pattern alone. -/
theorem Rows.eq_singleton (h : Rows ps [p]) (hps : ∀ p ∈ ps, p.IsProper) : ps = [.suit p] := by
  cases ps with
  | nil => cases rows_nil_iff.1 h
  | cons q ps =>
    have hrest : ∀ p ∈ ps, p.IsProper := fun p hp => hps p (List.mem_cons_of_mem _ hp)
    cases q with
    | suit q =>
      obtain ⟨r, hr, h⟩ := rows_suit_iff.1 h
      rw [List.cons.injEq] at hr
      obtain ⟨rfl, rfl⟩ := hr
      rw [List.length_eq_zero_iff.1 (Nat.le_zero.1 (h.length_le hrest))]
    | group members =>
      -- a group would fill two places of the row
      obtain ⟨order, r, hperm, hrow, -⟩ := rows_group_iff.1 h
      have hgroup := (hps _ List.mem_cons_self).1
      have hlen := congrArg List.length hrow
      rw [List.length_append, hperm.length_eq, List.length_singleton] at hlen
      omega

/-- Patterns that pass the check are read as rows of four. -/
theorem Rows.length_eq_four (h : Rows ps row) (hcheck : checkArity ps = .ok ()) :
    row.length = 4 := by
  -- the check counts the suits of the patterns, of which every row is an ordering
  rw [h.perm.length_eq]
  unfold checkArity checkCount at hcheck
  split at hcheck
  · cases hcheck
  · split at hcheck
    · cases hcheck
    · omega

end Pattern

end ContractBridge
