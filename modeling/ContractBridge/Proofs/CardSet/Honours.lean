/-
The honours of a set.

High-card points count the cards of four ranks with weights. The four cards of a rank are a part of
the deck that no other rank has a card of, so of a set there are at most four cards of each rank, and
the cards of different ranks are together at most the cards of the set. From these two bounds alone
follows how many points a hand can have: with thirteen cards the best choice are all aces, kings and
queens and a single jack.
-/
import ContractBridge.Proofs.CardSet.Lengths
import ContractBridge.Total

set_option autoImplicit false

namespace ContractBridge.CardSet

variable {s t : CardSet} {rank : Nat} {ranks : List Nat}

/-! ## Parts of a set -/

theorem IsFinite.inter (hs : s.IsFinite) : (s ∩ t).IsFinite :=
  hs.of_has_imp fun i hi => by
    rw [has_inter, Bool.and_eq_true] at hi
    exact hi.1

/-- The cards of a set inside another one and those outside of it are all its cards. -/
theorem size_inter_add_size_diff (hs : s.IsFinite) : (s ∩ t).size + (s \ t).size = s.size := by
  have hwhole : s ∩ t ∪ s \ t = s := by
    apply ext
    intro i
    rw [has_union, has_inter, has_diff]
    cases s.has i <;> cases t.has i <;> rfl
  rw [← size_union hs.inter hs.diff fun i hi => ?_, hwhole]
  rw [has_inter, Bool.and_eq_true] at hi
  rw [has_diff, hi.2, Bool.not_true, Bool.and_false]

/-! ## Ranks -/

theorem has_rankCards (rank i : Nat) :
    (rankCards rank).has i = true ↔ ∃ suit : Suit, i = rank + laneWidth * suit.index := by
  simp only [rankCards, Suit.all, List.foldl_cons, List.foldl_nil, has_union, has_empty, has_single,
    Bool.false_or, Bool.or_eq_true, decide_eq_true_eq]
  constructor
  · rintro (((h | h) | h) | h)
    · exact ⟨.spades, h.symm⟩
    · exact ⟨.hearts, h.symm⟩
    · exact ⟨.diamonds, h.symm⟩
    · exact ⟨.clubs, h.symm⟩
  · rintro ⟨suit, rfl⟩
    cases suit <;> simp [Suit.index]

theorem size_rankCards (hrank : rank < laneWidth) : (rankCards rank).size = 4 := by
  have hall : ∀ r < laneWidth, (rankCards r).size = 4 := by decide
  exact hall rank hrank

theorem isFinite_rankCards (rank : Nat) : (rankCards rank).IsFinite := by
  refine isFinite_iff.2 ⟨rank + 4 * laneWidth, fun i hi => ?_⟩
  obtain ⟨suit, rfl⟩ := (has_rankCards rank i).1 hi
  have := suit.index_lt_four
  simp only [laneWidth]
  omega

/-- A set has at most four cards of a rank. -/
theorem size_inter_rankCards_le (s : CardSet) (hrank : rank < laneWidth) :
    (s ∩ rankCards rank).size ≤ 4 := by
  rw [← size_rankCards hrank]
  apply size_le_of_has_imp (isFinite_rankCards rank)
  intro i hi
  rw [has_inter, Bool.and_eq_true] at hi
  exact hi.2

/-- Cards of a rank are not among those of another one. -/
theorem inter_rankCards_eq {other : Nat} (hrank : rank < laneWidth) (hother : other < laneWidth)
    (hne : rank ≠ other) : (s \ rankCards rank) ∩ rankCards other = s ∩ rankCards other := by
  apply ext
  intro i
  rw [has_inter, has_inter, has_diff]
  cases hi : (rankCards other).has i with
  | false => rw [Bool.and_false, Bool.and_false]
  | true =>
    have hnot : (rankCards rank).has i = false := by
      rw [← Bool.not_eq_true, has_rankCards]
      rintro ⟨suit, rfl⟩
      obtain ⟨suit', heq⟩ := (has_rankCards other _).1 hi
      simp only [laneWidth] at hrank hother heq
      omega
    rw [hnot, Bool.not_false, Bool.and_true]

/-- **The cards of different ranks are together at most the cards of the set.** -/
theorem total_size_inter_rankCards_le (hs : s.IsFinite) (hranks : ∀ r ∈ ranks, r < laneWidth)
    (hnodup : ranks.Nodup) : total (ranks.map fun r => (s ∩ rankCards r).size) ≤ s.size := by
  induction ranks generalizing s with
  | nil => exact Nat.zero_le _
  | cons rank ranks ih =>
    obtain ⟨hrank, hranks⟩ := List.forall_mem_cons.1 hranks
    obtain ⟨hnew, hnodup⟩ := List.nodup_cons.1 hnodup
    -- the other ranks find their cards also where those of the first one are taken out
    have hrest : (ranks.map fun r => (s ∩ rankCards r).size) =
        ranks.map fun r => ((s \ rankCards rank) ∩ rankCards r).size := by
      refine List.map_congr_left fun r hr => ?_
      rw [inter_rankCards_eq hrank (hranks r hr) fun h => hnew (h ▸ hr)]
    rw [List.map_cons, total_cons, hrest,
      ← size_inter_add_size_diff (t := rankCards rank) hs]
    exact Nat.add_le_add_left (ih hs.diff hranks hnodup) _

/-! ## Points -/

/-- **A hand has at most 37 high-card points.** -/
theorem highCardPoints_le (hs : s.IsFinite) (hsize : s.size ≤ handSize) :
    s.highCardPoints ≤ 37 := by
  have haces : (s ∩ rankCards 14).size ≤ 4 := size_inter_rankCards_le s (by decide)
  have hkings : (s ∩ rankCards 13).size ≤ 4 := size_inter_rankCards_le s (by decide)
  have hqueens : (s ∩ rankCards 12).size ≤ 4 := size_inter_rankCards_le s (by decide)
  have hall : total ([14, 13, 12, 11].map fun r => (s ∩ rankCards r).size) ≤ s.size :=
    total_size_inter_rankCards_le hs (by decide) (by decide)
  simp only [List.map_cons, List.map_nil, total_cons, total_nil] at hall
  simp only [highCardPoints, aces, kings, queens, jacks, handSize] at hsize ⊢
  omega

end ContractBridge.CardSet
