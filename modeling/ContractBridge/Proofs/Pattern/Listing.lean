/-
The list of distributions that patterns denote.

An expansion finds distributions in the order of its search and finds some of them twice, once for
each ordering of a group that they match. The list that it hands out is sorted, suit by suit from
spades on, and free of repeats, so it depends on the set of distributions found and on nothing
else: two lists in strictly increasing order with the same members are equal.

Together with `Pattern.mem_distributions`, which says what the members are, this pins the list down
for any patterns at all, also for those that no check of four suits has passed. There the list is
empty exactly if the suits of the patterns, as they are written, cannot hold thirteen cards; that
it does not matter for this in which order a group is read is `fillable_of_completes`.
-/
import Mathlib.Data.List.Forall2
import ContractBridge.Proofs.Pattern.Arity

set_option autoImplicit false

namespace ContractBridge

namespace SuitLengths

variable {k l m : SuitLengths} {ls : List SuitLengths}

/-! ## The order of distributions -/

/-- **Whether a distribution comes before another:** at the first suit where they differ it is the
shorter one. -/
def Precedes (l m : SuitLengths) : Prop := l.toList < m.toList

instance : DecidableRel Precedes := fun l m => inferInstanceAs (Decidable (l.toList < m.toList))

theorem precedes_iff : l.Precedes m ↔
    l.spades < m.spades ∨ l.spades = m.spades ∧ (l.hearts < m.hearts ∨ l.hearts = m.hearts ∧
      (l.diamonds < m.diamonds ∨ l.diamonds = m.diamonds ∧ l.clubs < m.clubs)) := by
  simp only [Precedes, toList, List.cons_lt_cons_iff, List.not_lt_nil, and_false, or_false]

theorem Precedes.trans (hkl : k.Precedes l) (hlm : l.Precedes m) : k.Precedes m := by
  rw [precedes_iff] at *
  omega

theorem notAfter_iff : l.notAfter m = true ↔ l = m ∨ l.Precedes m := by
  obtain ⟨s, h, d, c⟩ := l
  obtain ⟨s', h', d', c'⟩ := m
  simp only [precedes_iff, SuitLengths.mk.injEq, notAfter]
  split
  · rw [decide_eq_true_eq]
    omega
  · split
    · rw [decide_eq_true_eq]
      omega
    · split
      · rw [decide_eq_true_eq]
        omega
      · rw [decide_eq_true_eq]
        omega

theorem notAfter_trans (hkl : k.notAfter l = true) (hlm : l.notAfter m = true) :
    k.notAfter m = true := by
  rw [notAfter_iff] at *
  rcases hkl with rfl | hkl
  · exact hlm
  · rcases hlm with rfl | hlm
    · exact .inr hkl
    · exact .inr (hkl.trans hlm)

theorem notAfter_total (l m : SuitLengths) : (l.notAfter m || m.notAfter l) = true := by
  obtain ⟨s, h, d, c⟩ := l
  obtain ⟨s', h', d', c'⟩ := m
  simp only [Bool.or_eq_true, notAfter_iff, precedes_iff, SuitLengths.mk.injEq]
  omega

/-- Without the repeats, what was sorted increases strictly. -/
theorem pairwise_dropRepeats (h : ls.Pairwise fun l m => l.notAfter m = true) :
    (dropRepeats ls).Pairwise Precedes := by
  induction ls using dropRepeats.induct with
  | case1 m r ih =>
    rw [dropRepeats, if_pos rfl]
    exact ih h.tail
  | case2 k m r hne ih =>
    rw [dropRepeats, if_neg hne]
    obtain ⟨hk, hrest⟩ := List.pairwise_cons.1 h
    refine List.pairwise_cons.2 ⟨fun l hl => ?_, ih hrest⟩
    -- the next entry is another one, and what follows is not before it
    have hkm : k.Precedes m := (notAfter_iff.1 (hk m List.mem_cons_self)).resolve_left hne
    rw [Expansion.mem_dropRepeats] at hl
    rcases List.mem_cons.1 hl with rfl | hl
    · exact hkm
    · rcases notAfter_iff.1 ((List.pairwise_cons.1 hrest).1 l hl) with rfl | hml
      · exact hkm
      · exact hkm.trans hml
  | case3 r hr =>
    rw [dropRepeats.eq_2 r hr]
    rcases r with _ | ⟨l, _ | ⟨m, r⟩⟩
    · exact .nil
    · exact List.pairwise_singleton _ l
    · exact absurd rfl (hr l m r)

/-- **The distinct entries of a list are handed out in strictly increasing order.** -/
theorem pairwise_sortDistinct (ls : List SuitLengths) : (sortDistinct ls).Pairwise Precedes := by
  apply pairwise_dropRepeats
  apply List.pairwise_mergeSort
  · intro k l m hkl hlm
    exact notAfter_trans hkl hlm
  · exact notAfter_total

end SuitLengths

/-! ## What patterns denote -/

namespace Pattern

open Expansion SuitPattern

variable {ps : List Pattern} {l : SuitLengths}

/-- A distribution of thirteen cards that patterns match, with its groups in some order, shows that
the suits as they are written can hold thirteen cards. -/
theorem fillable_of_completes (h : Completes ps [] l) (htotal : l.total = handSize) :
    Fillable ps := by
  obtain ⟨row, lengths, hrow, hfits, hl⟩ := h
  rw [List.nil_append] at hl
  subst hl
  -- the lengths move along with the suits that accept them
  obtain ⟨moved, hmoved, hperm⟩ := List.perm_comp_forall₂ hrow.perm.symm hfits
  refine fillable_iff_exists_lengths.2 ⟨?_, moved, hmoved, ?_⟩
  · rw [← hrow.perm.length_eq, hfits.length_eq]
    rfl
  · rw [total_eq_of_perm hperm, total_toList, htotal]

theorem distributions_eq_nil_iff (hps : ∀ p ∈ ps, p.IsProper) :
    distributions ps = [] ↔ ¬ Fillable ps := by
  constructor
  · intro hnil hfill
    exact hfill.distributions_ne_nil hps hnil
  · intro hfill
    rw [List.eq_nil_iff_forall_not_mem]
    intro l hl
    obtain ⟨hmatches, hpos, htotal⟩ := (mem_distributions hps).1 hl
    exact hfill (fillable_of_completes (completes_nil_iff.2 ⟨hmatches, hpos⟩) htotal)

/-- Four lengths none of which is negative are four natural numbers. -/
theorem exists_naturals_iff : (∀ n ∈ l.toList, 0 ≤ n) ∧ l.total = handSize ↔
    ∃ s h d c : Nat, l = ⟨s, h, d, c⟩ ∧ s + h + d + c = handSize := by
  obtain ⟨s, h, d, c⟩ := l
  simp only [SuitLengths.toList, SuitLengths.total, List.forall_mem_cons, List.not_mem_nil,
    false_imp_iff, implies_true, and_true]
  constructor
  · rintro ⟨⟨hs, hh, hd, hc⟩, htotal⟩
    obtain ⟨s, rfl⟩ := Int.eq_ofNat_of_zero_le hs
    obtain ⟨h, rfl⟩ := Int.eq_ofNat_of_zero_le hh
    obtain ⟨d, rfl⟩ := Int.eq_ofNat_of_zero_le hd
    obtain ⟨c, rfl⟩ := Int.eq_ofNat_of_zero_le hc
    exact ⟨s, h, d, c, rfl, by omega⟩
  · rintro ⟨s, h, d, c, heq, htotal⟩
    rw [SuitLengths.mk.injEq] at heq
    omega

/-- **The distributions of any proper patterns,** however many suits they have: the list increases
strictly, its members are the quadruples of natural numbers with the sum thirteen that match the
patterns for some ordering of each group, and it is empty exactly if the patterns are not four
suits or their suits cannot hold thirteen cards. -/
theorem distributions_eq_matches (hps : ∀ p ∈ ps, p.IsProper) :
    (distributions ps).Pairwise SuitLengths.Precedes ∧
      (∀ l, l ∈ distributions ps ↔
        (∃ s h d c : Nat, l = ⟨s, h, d, c⟩ ∧ s + h + d + c = handSize) ∧ Matches ps l) ∧
      (distributions ps = [] ↔ ¬ Fillable ps) := by
  refine ⟨SuitLengths.pairwise_sortDistinct _, fun l => ?_, distributions_eq_nil_iff hps⟩
  rw [mem_distributions hps, ← exists_naturals_iff, and_comm]

/-- A group that is matched both ways round, before two suits; and with a fifth suit, nothing. -/
theorem distributions_eq_matches_group :
    (∀ p ∈ [group [exactly 5, atMost 5], suit (exactly 2), suit joker], p.IsProper) ∧
      ⟨4, 5, 2, 2⟩ ∈ distributions [group [exactly 5, atMost 5], suit (exactly 2), suit joker] ∧
      (distributions [group [exactly 5, atMost 5], suit (exactly 2), suit joker]).Pairwise
        SuitLengths.Precedes ∧
      distributions [group [exactly 5, atMost 5], suit (exactly 2), suit joker, suit joker] = [] := by
  have hproper : ∀ p ∈ [group [exactly 5, atMost 5], suit (exactly 2), suit joker],
      p.IsProper := by
    simp only [List.forall_mem_cons, IsProper, List.not_mem_nil, false_imp_iff, implies_true]
    decide
  have hlong : ∀ p ∈ [group [exactly 5, atMost 5], suit (exactly 2), suit joker, suit joker],
      p.IsProper := by
    simp only [List.forall_mem_cons, IsProper, List.not_mem_nil, false_imp_iff, implies_true]
    decide
  obtain ⟨hsorted, hmem, -⟩ := distributions_eq_matches hproper
  obtain ⟨-, -, hnil⟩ := distributions_eq_matches hlong
  refine ⟨hproper, (hmem _).2 ⟨⟨4, 5, 2, 2, rfl, rfl⟩, ?_⟩, hsorted, hnil.2 ?_⟩
  · exact ⟨atMost 5, exactly 5, exactly 2, joker, .group (.swap _ _ _) (.suit (.suit .nil)),
      by decide, by decide, by decide, by decide⟩
  · rintro ⟨a, b, c, d, hflat, -⟩
    cases hflat

end Pattern

end ContractBridge
