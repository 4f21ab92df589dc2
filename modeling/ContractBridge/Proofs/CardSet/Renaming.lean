/-
Renaming the places of a card set.

A permutation of the 63 places of a mask acts on masks and on the sets that lie within those
places. The action commutes with everything that is done to sets and keeps sizes, so whatever a
computation finds out about sets by intersecting, joining and counting, it finds out about the
renamed sets as well.

How far the action reaches is `exists_rename_of_parts`: if a set is cut up in two ways, into parts
with the same sizes, some permutation carries the first parts to the second ones and moves nothing
outside the set.
-/
import Mathlib.Algebra.Group.End
import Mathlib.Algebra.Group.Nat.Defs
import Mathlib.Data.Fintype.EquivFin
import ContractBridge.Proofs.CardSet.Lengths

set_option autoImplicit false

namespace ContractBridge

/-- How many places a mask has. -/
def maskWidth : Nat := 63

/-- **A mask:** any choice among its places. -/
abbrev Mask := Fin (2 ^ maskWidth)

/-- A permutation of the places of a mask. -/
abbrev Renaming := Equiv.Perm (Fin maskWidth)

namespace CardSet

variable {s t u : CardSet} {π : Renaming}

/-! ## Sets within the places of a mask -/

/-- Whether the set has no place beyond those of a mask. -/
def IsLow (s : CardSet) : Prop := ∀ i, s.has i = true → i < maskWidth

theorem IsLow.of_has_imp (ht : t.IsLow) (h : ∀ i, s.has i = true → t.has i = true) : s.IsLow :=
  fun i hi => ht i (h i hi)

theorem IsLow.isFinite (hs : s.IsLow) : s.IsFinite := isFinite_iff.2 ⟨maskWidth, hs⟩

theorem isLow_deck : deck.IsLow := fun _ hi => lt_of_has_deck hi

theorem isLow_of_subset (hs : s.subset deck = true) : s.IsLow :=
  isLow_deck.of_has_imp (subset_iff.1 hs)

theorem IsLow.has_eq_false (hs : s.IsLow) {i : Nat} (hi : maskWidth ≤ i) : s.has i = false := by
  rw [← Bool.not_eq_true]
  intro hon
  have hlt := hs i hon
  omega

/-- Sets within the places of a mask are equal if they agree on these. -/
theorem IsLow.ext (hs : s.IsLow) (ht : t.IsLow)
    (h : ∀ p : Fin maskWidth, s.has p = t.has p) : s = t := by
  apply CardSet.ext
  intro i
  by_cases hi : i < maskWidth
  · exact h ⟨i, hi⟩
  · rw [hs.has_eq_false (Nat.not_lt.1 hi), ht.has_eq_false (Nat.not_lt.1 hi)]

theorem IsLow.map_places (hs : s.IsLow) :
    (Finset.univ.filter fun p : Fin maskWidth => s.has p = true).map Fin.valEmbedding =
      s.places := by
  ext i
  rw [mem_places hs.isFinite, Finset.mem_map]
  constructor
  · rintro ⟨p, hp, rfl⟩
    exact (Finset.mem_filter.1 hp).2
  · intro hi
    exact ⟨⟨i, hs i hi⟩, Finset.mem_filter.2 ⟨Finset.mem_univ _, hi⟩, rfl⟩

/-- The size of such a set counts places of a mask. -/
theorem IsLow.card_subtype (hs : s.IsLow) :
    Fintype.card { p : Fin maskWidth // s.has p = true } = s.size := by
  rw [Fintype.card_subtype, ← card_places, ← hs.map_places, Finset.card_map]

/-! ## Renaming -/

/-- **The set with its places renamed.** Places beyond those of a mask are dropped. -/
def rename (π : Renaming) (s : CardSet) : CardSet :=
  ⟨(Nat.ofBits fun p => s.has (π.symm p) : Nat)⟩

theorem has_rename (π : Renaming) (s : CardSet) (p : Fin maskWidth) :
    (s.rename π).has p = s.has (π.symm p) :=
  Nat.testBit_ofBits_lt _ p p.isLt

theorem isLow_rename (π : Renaming) (s : CardSet) : (s.rename π).IsLow := by
  intro i hi
  rw [← Nat.not_le]
  intro hge
  have hoff : (s.rename π).has i = false := Nat.testBit_ofBits_ge _ i hge
  rw [hoff] at hi
  cases hi

theorem rename_union (π : Renaming) (s t : CardSet) :
    (s ∪ t).rename π = s.rename π ∪ t.rename π := by
  have hlow : (s.rename π ∪ t.rename π).IsLow := by
    intro i hi
    rw [has_union, Bool.or_eq_true] at hi
    exact hi.elim (isLow_rename π s i) (isLow_rename π t i)
  apply (isLow_rename π _).ext hlow
  intro p
  simp only [has_rename, has_union]

theorem rename_inter (π : Renaming) (s t : CardSet) :
    (s ∩ t).rename π = s.rename π ∩ t.rename π := by
  have hlow : (s.rename π ∩ t.rename π).IsLow := by
    intro i hi
    rw [has_inter, Bool.and_eq_true] at hi
    exact isLow_rename π s i hi.1
  apply (isLow_rename π _).ext hlow
  intro p
  simp only [has_rename, has_inter]

theorem rename_diff (π : Renaming) (s t : CardSet) :
    (s \ t).rename π = s.rename π \ t.rename π := by
  have hlow : (s.rename π \ t.rename π).IsLow := by
    intro i hi
    rw [has_diff, Bool.and_eq_true] at hi
    exact isLow_rename π s i hi.1
  apply (isLow_rename π _).ext hlow
  intro p
  simp only [has_rename, has_diff]

theorem rename_empty (π : Renaming) : (∅ : CardSet).rename π = ∅ := by
  have hlow : (∅ : CardSet).IsLow := by
    intro i hi
    rw [has_empty] at hi
    cases hi
  apply (isLow_rename π _).ext hlow
  intro p
  simp only [has_rename, has_empty]

/-- **Renaming keeps the size.** -/
theorem size_rename (hs : s.IsLow) (π : Renaming) : (s.rename π).size = s.size := by
  rw [← hs.card_subtype, ← (isLow_rename π s).card_subtype]
  apply Fintype.card_congr
  exact π.symm.subtypeEquiv fun p => by rw [has_rename]

theorem isEmpty_rename (hs : s.IsLow) (π : Renaming) : (s.rename π).isEmpty = s.isEmpty := by
  rw [Bool.eq_iff_iff, isEmpty_iff, isEmpty_iff, ← size_eq_zero_iff hs.isFinite,
    ← size_eq_zero_iff (isLow_rename π s).isFinite, size_rename hs]

/-- A set whose places stay where they are stays what it is. -/
theorem rename_of_fixed (hs : s.IsLow) (h : ∀ p : Fin maskWidth, s.has p = true → π p = p) :
    s.rename π = s := by
  apply (isLow_rename π s).ext hs
  intro p
  -- the place that comes to `p` is `p` itself if either of the two is in the set
  rw [has_rename, Bool.eq_iff_iff]
  constructor
  · intro hp
    have hfixed := h _ hp
    rw [Equiv.apply_symm_apply] at hfixed
    rw [hfixed]
    exact hp
  · intro hp
    have hfixed : π.symm p = p := (Equiv.symm_apply_eq π).2 (h p hp).symm
    rw [hfixed]
    exact hp

/-! ## Parts of a set -/

variable {ι : Type} {P Q : ι → CardSet}

/-- **The sets cut up the set:** each of its places is in exactly one of them, and they have no
others. -/
structure IsCut (u : CardSet) (P : ι → CardSet) : Prop where
  has_imp : ∀ i j, (P i).has j = true → u.has j = true
  unique : ∀ j, u.has j = true → ∃! i, (P i).has j = true

/-- A cut gives each place of the set its part. -/
theorem IsCut.exists_part (hP : u.IsCut P) :
    ∃ part : { p : Fin maskWidth // u.has p = true } → ι,
      ∀ p i, (P i).has p.1 = true ↔ part p = i := by
  have hall : ∀ p : { p : Fin maskWidth // u.has p = true }, ∃ i, (P i).has p.1 = true ∧
      ∀ i', (P i').has p.1 = true → i' = i := fun p => hP.unique p.1 p.2
  -- the part is chosen, and being the only one it is the same for every way to find it
  choose part hpart honly using hall
  refine ⟨part, fun p i => ⟨fun h => (honly p i h).symm, ?_⟩⟩
  rintro rfl
  exact hpart p

/-- The places of a part, counted in the set. -/
theorem IsCut.card_part [DecidableEq ι] (hu : u.IsLow) (hP : u.IsCut P)
    {part : { p : Fin maskWidth // u.has p = true } → ι}
    (hpart : ∀ p i, (P i).has p.1 = true ↔ part p = i) (i : ι) :
    Fintype.card { p // part p = i } = (P i).size := by
  rw [← (hu.of_has_imp (hP.has_imp i)).card_subtype]
  refine Fintype.card_congr ⟨fun p => ⟨p.1.1, (hpart p.1 i).2 p.2⟩,
    fun p => ⟨⟨p.1, hP.has_imp i _ p.2⟩, (hpart _ i).1 p.2⟩, ?_, ?_⟩
  · intro p
    rfl
  · intro p
    rfl

/-- **Two cuts of a set into parts of the same sizes are carried to each other** by a permutation
of the places that moves nothing outside the set. -/
theorem exists_rename_of_parts [DecidableEq ι] (hu : u.IsLow) (hP : u.IsCut P) (hQ : u.IsCut Q)
    (hsize : ∀ i, (P i).size = (Q i).size) :
    ∃ π : Renaming, (∀ p : Fin maskWidth, u.has p = false → π p = p) ∧ u.rename π = u ∧
      ∀ i, (P i).rename π = Q i := by
  obtain ⟨f, hf⟩ := hP.exists_part
  obtain ⟨g, hg⟩ := hQ.exists_part
  have hcard : ∀ i, Fintype.card { p // f p = i } = Fintype.card { p // g p = i } := by
    intro i
    rw [hP.card_part hu hf, hQ.card_part hu hg, hsize]
  -- a bijection on each part, put together on the set and extended by nothing
  let e : Equiv.Perm { p : Fin maskWidth // u.has p = true } :=
    Equiv.ofFiberEquiv fun i => Fintype.equivOfCardEq (hcard i)
  have he : ∀ p, g (e p) = f p := fun p => Equiv.ofFiberEquiv_map _ p
  let π : Renaming := Equiv.Perm.ofSubtype e
  have hout : ∀ p : Fin maskWidth, u.has p = false → π p = p := by
    intro p hp
    apply Equiv.Perm.ofSubtype_apply_of_not_mem
    rw [hp]
    exact Bool.false_ne_true
  have hin : ∀ p (hp : u.has p.val = true), π p = e ⟨p, hp⟩ :=
    fun p hp => Equiv.Perm.ofSubtype_apply_of_mem e hp
  refine ⟨π, hout, ?_, ?_⟩
  · apply (isLow_rename π u).ext hu
    intro p
    obtain ⟨q, rfl⟩ := π.surjective p
    rw [has_rename, Equiv.symm_apply_apply]
    by_cases hq : u.has q = true
    · rw [hin q hq, hq, (e ⟨q, hq⟩).2]
    · rw [hout q (Bool.not_eq_true _ ▸ hq)]
  · intro i
    apply (isLow_rename π _).ext (hu.of_has_imp (hQ.has_imp i))
    intro p
    obtain ⟨q, rfl⟩ := π.surjective p
    rw [has_rename, Equiv.symm_apply_apply, Bool.eq_iff_iff]
    by_cases hq : u.has q = true
    · -- inside the set both sides say which part the place has, which the permutation keeps
      rw [hin q hq, hg (e ⟨q, hq⟩) i, he, ← hf ⟨q, hq⟩ i]
    · rw [hout q (Bool.not_eq_true _ ▸ hq)]
      constructor
      · intro h
        exact absurd (hP.has_imp i _ h) hq
      · intro h
        exact absurd (hQ.has_imp i _ h) hq

end CardSet

/-! ## Masks -/

/-- A number, read as a set and with its places renamed. -/
def renameMask (π : Renaming) (mask : Int) : Int := (CardSet.rename π ⟨mask⟩).bits

/-- A mask with its places renamed. -/
def Mask.rename (π : Renaming) (m : Mask) : Mask :=
  ⟨Nat.ofBits fun p => m.val.testBit (π.symm p), Nat.ofBits_lt_two_pow _⟩

theorem Mask.val_rename (π : Renaming) (m : Mask) :
    ((m.rename π).val : Int) = renameMask π m.val := by
  simp only [Mask.rename, renameMask, CardSet.rename, CardSet.has, Bits.holds_natCast]

theorem Mask.rename_injective (π : Renaming) : Function.Injective (Mask.rename π) := by
  intro m m' h
  apply Fin.ext
  apply Nat.eq_of_testBit_eq
  intro i
  by_cases hi : i < maskWidth
  · -- the bit at a place went to the renamed place
    have hbit := congrArg (fun n : Mask => n.val.testBit (π ⟨i, hi⟩)) h
    simp only [Mask.rename, Nat.testBit_ofBits_lt _ _ (π ⟨i, hi⟩).isLt, Fin.eta,
      Equiv.symm_apply_apply] at hbit
    exact hbit
  · have hpow : ∀ n : Mask, n.val.testBit i = false := by
      intro n
      apply Nat.testBit_lt_two_pow
      exact Nat.lt_of_lt_of_le n.isLt (Nat.pow_le_pow_right (by decide) (Nat.not_lt.1 hi))
    rw [hpow m, hpow m']

/-! ## Sequences of masks -/

variable {k : Nat}

/-- A sequence of masks as a script. -/
def scriptOf (ms : Fin k → Mask) : List Int := List.ofFn fun i => ((ms i).val : Int)

/-- A sequence of masks, renamed from the `m`-th one on. -/
def renameFrom (π : Renaming) (m : Nat) (ms : Fin k → Mask) : Fin k → Mask :=
  fun i => if i.val < m then ms i else (ms i).rename π

theorem length_scriptOf (ms : Fin k → Mask) : (scriptOf ms).length = k := List.length_ofFn

theorem renameFrom_injective (π : Renaming) (m : Nat) :
    Function.Injective (renameFrom π m : (Fin k → Mask) → Fin k → Mask) := by
  intro ms ms' h
  funext i
  have hi := congrFun h i
  simp only [renameFrom] at hi
  by_cases hm : i.val < m
  · rw [if_pos hm, if_pos hm] at hi
    exact hi
  · rw [if_neg hm, if_neg hm] at hi
    exact Mask.rename_injective π hi

/-- The script of a renamed sequence: the first part as it was, and the renamed masks of the
second. -/
theorem scriptOf_renameFrom (π : Renaming) (ms : Fin k → Mask) {u v : List Int}
    (h : scriptOf ms = u ++ v) :
    scriptOf (renameFrom π u.length ms) = u ++ v.map (renameMask π) := by
  have hlen : u.length + v.length = k := by
    rw [← List.length_append, ← h, length_scriptOf]
  -- the lists are compared place by place, on both sides of the first part's end
  have hget : ∀ i (hi : i < k) (hin : i < (u ++ v).length),
      (u ++ v)[i] = ((ms ⟨i, hi⟩).val : Int) := by
    intro i hi hin
    simp only [← h, scriptOf, List.getElem_ofFn]
  apply List.ext_getElem
  · rw [length_scriptOf, List.length_append, List.length_map, hlen]
  · intro i hi _
    rw [length_scriptOf] at hi
    have hmask := hget i hi (by rw [List.length_append]; omega)
    simp only [scriptOf, List.getElem_ofFn, renameFrom]
    by_cases hu : i < u.length
    · rw [List.getElem_append_left hu] at hmask
      rw [if_pos hu, List.getElem_append_left hu, hmask]
    · rw [List.getElem_append_right (Nat.not_lt.1 hu)] at hmask
      rw [if_neg hu, List.getElem_append_right (Nat.not_lt.1 hu), List.getElem_map, hmask,
        Mask.val_rename]

end ContractBridge
