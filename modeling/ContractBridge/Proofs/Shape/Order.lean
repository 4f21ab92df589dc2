/-
The members of shapes in order.

The place of a distribution in the table is its lengths as digits, spades first, so the order of
places is the order of distributions (`index_lt_index_iff`), and reading a table from its start
lists its members in that order, each once. The table keeps nothing else: in which order
distributions were set and how often is gone, and a shape that is made from a list lists it sorted
and without repeats.

So listing and making are inverse. A shape of hands' distributions that is made anew from its list
has the same members, and since its bounds are those of its members it is the same shape: a set of
distributions has no other one (`Represents.eq`).
-/
import Mathlib.Data.List.Sort
import ContractBridge.Proofs.Pattern.Listing
import ContractBridge.Proofs.Shape.Expression
import ContractBridge.Proofs.Shape.Regrouping

set_option autoImplicit false

namespace ContractBridge

namespace SuitLengths

variable {l m : SuitLengths} {ls ms : List SuitLengths}

/-! ## The order of places -/

/-- **Places are in the order of their distributions.** -/
theorem index_lt_index_iff (hl : l.isInTable = true) (hm : m.isInTable = true) :
    l.index < m.index ↔ l.Precedes m := by
  obtain ⟨s, h, d, c⟩ := l
  obtain ⟨s', h', d', c'⟩ := m
  rw [isInTable_iff] at hl hm
  simp only [toList, List.forall_mem_cons, handSize] at hl hm
  rw [precedes_iff]
  simp only [index, pairCount, lengthCount, handSize]
  omega

theorem ofIndex_precedes {i j : Nat} (hij : i < j) (hj : j < Shape.tableSize) :
    (ofIndex i).Precedes (ofIndex j) := by
  rw [← index_lt_index_iff (isInTable_ofIndex i) (isInTable_ofIndex j),
    index_ofIndex (by omega) (by omega), index_ofIndex (by omega) (by omega)]
  omega

/-- A list in order is told by its members. -/
theorem eq_of_pairwise_precedes (hls : ls.Pairwise Precedes) (hms : ms.Pairwise Precedes)
    (h : ∀ l, l ∈ ls ↔ l ∈ ms) : ls = ms := by
  have : Std.Irrefl Precedes := ⟨fun l => by rw [precedes_iff]; omega⟩
  have : Std.Antisymm Precedes := ⟨fun l m hlm hml => by rw [precedes_iff] at *; omega⟩
  exact hls.eq_of_mem_iff hms h

end SuitLengths

namespace Shape

open SuitLengths

variable {s t : Shape} {ls : List SuitLengths} {ps : List Pattern} {c : ShapeCache}

/-! ## Lists of members -/

/-- **The members of a shape are listed in order,** each once. -/
theorem pairwise_members (s : Shape) : s.members.Pairwise Precedes := by
  refine List.pairwise_map.2 ((Bits.ones_pairwise _).imp_of_mem fun _ hj hij => ?_)
  exact ofIndex_precedes hij (BitVec.lt_of_getLsbD (Bits.mem_ones.1 hj))

/-- The shape of what patterns match lists it as the patterns do. -/
theorem members_matching (hps : ∀ p ∈ ps, p.IsProper) :
    (matching ps).members = Pattern.distributions ps := by
  apply eq_of_pairwise_precedes (pairwise_members _) (pairwise_sortDistinct _)
  intro l
  rw [mem_matching hps, isOfHand_iff, and_comm]
  exact (Pattern.mem_distributions hps).symm

/-! ## Making and listing -/

/-- The bounds that are tight for the members of a table are told by the table. -/
theorem HasTightBounds.eq_of_table_eq (hs : s.HasTightBounds) (ht : t.HasTightBounds)
    (h : s.table = t.table) : s = t := by
  have hmembers : s.members = t.members := congrArg membersOf h
  have hlengths : ∀ suit, s.lengthsIn suit = t.lengthsIn suit := by
    intro suit
    rw [lengthsIn, lengthsIn, hmembers]
  have hbounds : s.minLengths = t.minLengths ∧ s.maxLengths = t.maxLengths := by
    by_cases hnil : s.members = []
    · obtain ⟨hsmin, hsmax⟩ := hs.of_isEmpty hnil
      obtain ⟨htmin, htmax⟩ := ht.of_isEmpty (hmembers ▸ hnil)
      exact ⟨hsmin.trans htmin.symm, hsmax.trans htmax.symm⟩
    · obtain ⟨slo, shi, hsmin, hsmax, hsuit⟩ := hs.of_member hnil
      obtain ⟨tlo, thi, htmin, htmax, htsuit⟩ := ht.of_member (hmembers ▸ hnil)
      -- a least and a greatest length are the only ones of their kind
      have hlo : slo = tlo := ext_get fun suit =>
        (hsuit suit).1.unique (hlengths suit ▸ (htsuit suit).1)
      have hhi : shi = thi := ext_get fun suit =>
        (hsuit suit).2.unique (hlengths suit ▸ (htsuit suit).2)
      rw [hsmin, hsmax, htmin, htmax, hlo, hhi]
      exact ⟨rfl, rfl⟩
  obtain ⟨_, _, _⟩ := s
  obtain ⟨_, _, _⟩ := t
  rw [Shape.mk.injEq]
  exact ⟨h, hbounds⟩

/-- **A set of distributions has one shape.** -/
theorem Represents.eq {A : Set SuitLengths} (hs : s.Represents A) (ht : t.Represents A) :
    s = t := by
  refine hs.tight.eq_of_table_eq ht.tight (beq_iff_eq.1 (sameMembers_iff.2 fun l => ?_))
  rw [hs.mem_iff, ht.mem_iff]

/-- **A shape that is made anew from its list is the same shape.** -/
theorem Represents.ofRows_members {A : Set SuitLengths} (hs : s.Represents A) :
    ofRows (rowsOfNumbers s.members) = .ok s := by
  rw [ofRows_rowsOfNumbers hs.isOfHand, Except.ok.injEq]
  refine (represents_ofTable (fun l => ?_) hs.isOfHand).eq hs.ofMembers
  exact mem_ofDistributions fun m hm => (hs.isOfHand m hm).isInTable

/-- Nothing changes if no distribution is put in first. -/
theorem Represents.empty_union {A : Set SuitLengths} (hs : s.Represents A) : ∅ ∪ s = s := by
  have hunion := represents_empty.union hs
  rw [Set.empty_union] at hunion
  exact hunion.eq hs

/-- What the shape of a written pattern lists, by a cache. -/
theorem map_members_get (hc : c.Reached) (text : String) :
    (c.get text).1.map (fun entry => entry.shape.members) = Pattern.compile text := by
  have hget : (c.get text).1.map (fun entry => entry.shape.members) =
      (ofPattern text).map members := by
    rw [← ShapeCache.map_get hc text]
    cases (c.get text).1 <;> rfl
  rw [hget, ofPattern, Pattern.compile]
  cases hparse : Pattern.parse text with
  | error e => rfl
  | ok ps => exact congrArg Except.ok (members_matching (Pattern.isProper_of_parse hparse))

/-- **Making shapes and listing them are inverse.** The shape of any hands' distributions, in any
order and with any repeats, lists them in increasing order, each once. A shape that an expression
gives is the one that is made from its list, bounds and all, and its size is the number of
distributions listed. And what the shape of a written pattern lists, by a cache, is the list that
the pattern denotes, or neither exists, for the same reason. -/
theorem members_inverse (hc : c.Reached) :
    (∀ ls : List SuitLengths, (∀ l ∈ ls, l.IsOfHand) → ∃ s, ofRows (rowsOfNumbers ls) = .ok s ∧
      s.members.Pairwise Precedes ∧ ∀ l, l ∈ s.members ↔ l ∈ ls) ∧
    (∀ (e : ShapeExpr) (s : Shape), (e.eval c).1 = .ok s →
      ofRows (rowsOfNumbers s.members) = .ok s ∧ s.size = s.members.length) ∧
    ∀ text, (c.get text).1.map (fun entry => entry.shape.members) = Pattern.compile text := by
  refine ⟨fun ls hls => ?_, fun e s hs => ?_, map_members_get hc⟩
  · exact ⟨_, ofRows_rowsOfNumbers hls, pairwise_members _,
      fun l => mem_ofDistributions fun m hm => (hls m hm).isInTable⟩
  · exact ⟨(ShapeExpr.represents_of_eval hc hs).ofRows_members, (List.length_map _).symm⟩

/-- At three distributions, two of them the same and the least one last, and at the shape of
them. -/
theorem members_inverse_threeGiven :
    ShapeCache.Reached .new ∧
      (∀ l ∈ [(⟨5, 4, 3, 1⟩ : SuitLengths), ⟨5, 4, 3, 1⟩, ⟨4, 3, 3, 3⟩], l.IsOfHand) ∧
      ∃ s, ofRows (rowsOfNumbers [⟨5, 4, 3, 1⟩, ⟨5, 4, 3, 1⟩, ⟨4, 3, 3, 3⟩]) = .ok s ∧
        s.members = [⟨4, 3, 3, 3⟩, ⟨5, 4, 3, 1⟩] ∧
        ofRows (rowsOfNumbers [⟨4, 3, 3, 3⟩, ⟨5, 4, 3, 1⟩]) = .ok s ∧ s.size = 2 := by
  have hhands : ∀ l ∈ [(⟨5, 4, 3, 1⟩ : SuitLengths), ⟨5, 4, 3, 1⟩, ⟨4, 3, 3, 3⟩], l.IsOfHand := by
    decide
  obtain ⟨hlists, hmakes, -⟩ := members_inverse .new
  obtain ⟨s, hs, horder, hmem⟩ := hlists _ hhands
  have hlist : s.members = [⟨4, 3, 3, 3⟩, ⟨5, 4, 3, 1⟩] := by
    apply eq_of_pairwise_precedes horder (by decide)
    intro l
    rw [hmem]
    simp only [List.mem_cons, List.not_mem_nil, or_false]
    tauto
  obtain ⟨hagain, hsize⟩ := hmakes
    (.tuples (rowsOfNumbers [⟨5, 4, 3, 1⟩, ⟨5, 4, 3, 1⟩, ⟨4, 3, 3, 3⟩])) s hs
  rw [hlist] at hagain hsize
  exact ⟨.new, hhands, s, hs, hlist, hagain, hsize⟩

end Shape

end ContractBridge
