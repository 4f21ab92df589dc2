/-
The bounds of shapes.

A shape made from a table gets the bounds of its members, and so do a difference and an
intersection. A union instead combines the bounds that its parts have, and it has to look out for
the bounds of a part without members, which are those of no distribution. `HasTightBounds` is
what every shape starts with and what the union keeps: the bounds are the least and the greatest
length of the members in each suit, or the widest ones if there is no member.
-/
import Mathlib.Order.Bounds.Basic
import ContractBridge.Proofs.Sequence
import ContractBridge.Proofs.Shape.Members

set_option autoImplicit false

namespace ContractBridge

namespace SuitLengths

variable {f : Int → Int → Int} {l m : SuitLengths} {ls : List SuitLengths} {suit : Suit}

/-- Two distributions combined suit by suit. -/
def zip (f : Int → Int → Int) (l m : SuitLengths) : SuitLengths :=
  ⟨f l.spades m.spades, f l.hearts m.hearts, f l.diamonds m.diamonds, f l.clubs m.clubs⟩

@[simp] theorem get_zip : (zip f l m).get suit = f (l.get suit) (m.get suit) := by
  cases suit <;> rfl

theorem zipWith_toList : List.zipWith f l.toList m.toList = (zip f l m).toList := rfl

theorem get_foldl_zip :
    (ls.foldl (zip f) l).get suit = (ls.map fun m => m.get suit).foldl f (l.get suit) := by
  induction ls generalizing l with
  | nil => rfl
  | cons m ls ih => rw [List.foldl_cons, ih, get_zip, List.map_cons, List.foldl_cons]

/-- The shortest length of a suit among some distributions. -/
theorem isLeast_foldl_zip :
    IsLeast {n | ∃ m ∈ l :: ls, m.get suit = n} ((ls.foldl (zip min) l).get suit) := by
  have hmin : ((l :: ls).map fun m => m.get suit).min? = some ((ls.foldl (zip min) l).get suit) := by
    rw [List.map_cons, List.min?_cons', get_foldl_zip]
  obtain ⟨hmem, hle⟩ := List.min?_eq_some_iff.1 hmin
  refine ⟨List.mem_map.1 hmem, ?_⟩
  rintro _ ⟨m, hm, rfl⟩
  exact hle _ (List.mem_map.2 ⟨m, hm, rfl⟩)

/-- The longest length of a suit among some distributions. -/
theorem isGreatest_foldl_zip :
    IsGreatest {n | ∃ m ∈ l :: ls, m.get suit = n} ((ls.foldl (zip max) l).get suit) := by
  have hmax : ((l :: ls).map fun m => m.get suit).max? = some ((ls.foldl (zip max) l).get suit) := by
    rw [List.map_cons, List.max?_cons', get_foldl_zip]
  obtain ⟨hmem, hle⟩ := List.max?_eq_some_iff.1 hmax
  refine ⟨List.mem_map.1 hmem, ?_⟩
  rintro _ ⟨m, hm, rfl⟩
  exact hle _ (List.mem_map.2 ⟨m, hm, rfl⟩)

end SuitLengths

namespace Shape

open SuitLengths

variable {s t : Shape} {suit : Suit}

/-- The lengths that the members of a shape have in a suit. -/
def lengthsIn (s : Shape) (suit : Suit) : Set Int := {n | ∃ l ∈ s.members, l.get suit = n}

/-- **The bounds of a shape are those of its members:** in each suit the least and the greatest
length that a member has, and 0 and 13 if there is no member. -/
structure HasTightBounds (s : Shape) : Prop where
  of_isEmpty : s.members = [] →
    s.minLengths = [0, 0, 0, 0] ∧ s.maxLengths = [13, 13, 13, 13]
  of_member : s.members ≠ [] → ∃ lo hi : SuitLengths,
    s.minLengths = lo.toList ∧ s.maxLengths = hi.toList ∧
      ∀ suit, IsLeast (s.lengthsIn suit) (lo.get suit) ∧
        IsGreatest (s.lengthsIn suit) (hi.get suit)

/-! ## Shapes made from a table -/

theorem boundsOf_cons (f : Int → Int → Int) (none : Int) (l : SuitLengths)
    (ls : List SuitLengths) : boundsOf f none (l :: ls) = (ls.foldl (zip f) l).toList := by
  show ls.foldl (fun bounds l => List.zipWith f bounds l.toList) l.toList = _
  induction ls generalizing l with
  | nil => rfl
  | cons m ls ih => rw [List.foldl_cons, List.foldl_cons, zipWith_toList, ih]

theorem hasTightBounds_ofTable (table : BitVec tableSize) : (ofTable table).HasTightBounds := by
  have hmembers : (ofTable table).members = membersOf table := rfl
  cases hls : membersOf table with
  | nil =>
    refine ⟨fun _ => ?_, fun h => absurd (hmembers.trans hls) h⟩
    simp only [ofTable, hls]
    exact ⟨rfl, rfl⟩
  | cons l ls =>
    refine ⟨fun h => ?_, fun _ => ⟨ls.foldl (zip min) l, ls.foldl (zip max) l, ?_, ?_, ?_⟩⟩
    · rw [hmembers, hls] at h
      cases h
    · simp only [ofTable, hls, boundsOf_cons]
    · simp only [ofTable, hls, boundsOf_cons]
    · intro suit
      rw [lengthsIn, hmembers, hls]
      exact ⟨isLeast_foldl_zip, isGreatest_foldl_zip⟩

/-! ## Unions -/

theorem union_of_isEmpty_right (ht : t.isEmpty = true) : s ∪ t = s := by
  have htable : t.table = 0 := beq_iff_eq.1 ht
  show union s t = s
  rw [union, if_pos ht, htable]
  simp

theorem union_of_isEmpty_left (ht : ¬ t.isEmpty = true) (hs : s.isEmpty = true) :
    s ∪ t = t := by
  have htable : s.table = 0 := beq_iff_eq.1 hs
  show union s t = t
  rw [union, if_neg ht, if_pos hs, htable]
  simp

theorem union_of_members (ht : ¬ t.isEmpty = true) (hs : ¬ s.isEmpty = true) :
    s ∪ t = ⟨s.table ||| t.table, List.zipWith min s.minLengths t.minLengths,
      List.zipWith max s.maxLengths t.maxLengths⟩ := by
  show union s t = _
  rw [union, if_neg ht, if_neg hs]

theorem lengthsIn_union : (s ∪ t).lengthsIn suit = s.lengthsIn suit ∪ t.lengthsIn suit := by
  ext n
  simp only [lengthsIn, Set.mem_ofPred_eq, Set.mem_union, mem_union, or_and_right, exists_or]

/-- **The bounds of a union stay those of its members.** -/
theorem HasTightBounds.union (hs : s.HasTightBounds) (ht : t.HasTightBounds) :
    (s ∪ t).HasTightBounds := by
  by_cases htempty : t.isEmpty = true
  · rwa [union_of_isEmpty_right htempty]
  · by_cases hsempty : s.isEmpty = true
    · rwa [union_of_isEmpty_left htempty hsempty]
    · obtain ⟨slo, shi, hsmin, hsmax, hsbounds⟩ := hs.of_member fun h => hsempty (isEmpty_iff.2 h)
      obtain ⟨tlo, thi, htmin, htmax, htbounds⟩ := ht.of_member fun h => htempty (isEmpty_iff.2 h)
      have hbounds : (s ∪ t).minLengths = (zip min slo tlo).toList ∧
          (s ∪ t).maxLengths = (zip max shi thi).toList := by
        rw [union_of_members htempty hsempty, hsmin, htmin, hsmax, htmax]
        exact ⟨zipWith_toList, zipWith_toList⟩
      refine ⟨fun h => ?_, fun _ => ⟨_, _, hbounds.1, hbounds.2, fun suit => ?_⟩⟩
      · obtain ⟨l, hl⟩ := List.exists_mem_of_ne_nil _ fun h => hsempty (isEmpty_iff.2 h)
        have hmem : l ∈ (s ∪ t).members := mem_union.2 (.inl hl)
        rw [h] at hmem
        cases hmem
      · rw [lengthsIn_union, get_zip, get_zip]
        exact ⟨(hsbounds suit).1.union (htbounds suit).1, (hsbounds suit).2.union (htbounds suit).2⟩

/-- **Shapes with the bounds of their members can be added,** and the sum is their union. -/
theorem add_eq_union (hs : s.HasTightBounds) (ht : t.HasTightBounds) :
    s.add t = .ok (s ∪ t) := by
  unfold add
  by_cases hempty : (t.isEmpty || s.isEmpty) = true
  · rw [if_pos hempty]
  · rw [if_neg hempty]
    rw [Bool.or_eq_true, not_or] at hempty
    obtain ⟨slo, shi, hsmin, hsmax, -⟩ := hs.of_member fun h => hempty.2 (isEmpty_iff.2 h)
    obtain ⟨tlo, thi, htmin, htmax, -⟩ := ht.of_member fun h => hempty.1 (isEmpty_iff.2 h)
    rw [union_of_members hempty.1 hempty.2, hsmin, hsmax, htmin, htmax]
    -- neither list of bounds has a single entry
    rfl

end Shape

end ContractBridge
