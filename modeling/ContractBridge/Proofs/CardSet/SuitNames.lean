/-
Hands with their suits renamed.

A permutation of the suits moves the cards of each suit to another one and leaves their ranks. It
is a renaming of the places of a mask (`Renaming.ofSuits`), so what is known of renamings applies:
sizes are kept, and so is all that is counted by ranks, in the whole set and suit by suit.
-/
import ContractBridge.Proofs.CardSet.Renaming
import ContractBridge.Proofs.PointCount

set_option autoImplicit false

namespace ContractBridge

/-! ## Places -/

/-- Where a permutation of the suits moves a place. The last place of a lane is no card of the deck
and stays where it is. -/
def Suit.movedPlace (σ : Equiv.Perm Suit) (i : Nat) : Nat :=
  if i % laneWidth < 15 then
    i % laneWidth + laneWidth * (σ ((ofIndex? (i / laneWidth : Nat)).getD .spades)).index
  else i

variable {σ : Equiv.Perm Suit} {suit : Suit} {rank i : Nat}

namespace Suit

theorem movedPlace_of_rank (hrank : rank < 15) : movedPlace σ (rank + laneWidth * suit.index) =
    rank + laneWidth * (σ suit).index := by
  have hmod : (rank + laneWidth * suit.index) % laneWidth = rank := by
    simp only [laneWidth]
    omega
  have hdiv : (rank + laneWidth * suit.index) / laneWidth = suit.index := by
    simp only [laneWidth]
    omega
  rw [movedPlace, hmod, hdiv, if_pos hrank, ofIndex?_index, Option.getD_some]

/-- Ranks are kept. -/
theorem movedPlace_mod (σ : Equiv.Perm Suit) (i : Nat) :
    movedPlace σ i % laneWidth = i % laneWidth := by
  unfold movedPlace
  split
  · rw [Nat.add_mul_mod_self_left, Nat.mod_mod]
  · rfl

/-- A place of a mask is of some rank in some suit, or the last one of a lane. -/
theorem place_cases (hi : i < maskWidth) : i % laneWidth = 15 ∨
    ∃ (suit : Suit) (rank : Nat), rank < 15 ∧ i = rank + laneWidth * suit.index := by
  simp only [maskWidth, laneWidth] at hi ⊢
  obtain ⟨suit, hsuit⟩ := exists_index_eq (n := i / 16) (by omega)
  by_cases hrank : i % 16 < 15
  · exact .inr ⟨suit, i % 16, hrank, by omega⟩
  · exact .inl (by omega)

theorem movedPlace_lt (hi : i < maskWidth) : movedPlace σ i < maskWidth := by
  obtain hlast | ⟨suit, rank, hrank, rfl⟩ := place_cases hi
  · rwa [movedPlace, if_neg (by omega)]
  · rw [movedPlace_of_rank hrank]
    have := (σ suit).index_lt_four
    simp only [maskWidth, laneWidth]
    omega

theorem movedPlace_symm (hi : i < maskWidth) : movedPlace σ.symm (movedPlace σ i) = i := by
  obtain hlast | ⟨suit, rank, hrank, rfl⟩ := place_cases hi
  · have hstay : ∀ τ : Equiv.Perm Suit, movedPlace τ i = i := fun τ => if_neg (by omega)
    rw [hstay, hstay]
  · rw [movedPlace_of_rank hrank, movedPlace_of_rank hrank, Equiv.symm_apply_apply]

end Suit

/-- **The renaming of places by a permutation of the suits.** -/
def Renaming.ofSuits (σ : Equiv.Perm Suit) : Renaming where
  toFun p := ⟨Suit.movedPlace σ p, Suit.movedPlace_lt p.isLt⟩
  invFun p := ⟨Suit.movedPlace σ.symm p, Suit.movedPlace_lt p.isLt⟩
  left_inv p := Fin.ext (Suit.movedPlace_symm p.isLt)
  right_inv p := Fin.ext (@Suit.movedPlace_symm σ.symm p p.isLt)

namespace CardSet

variable {s : CardSet}

/-! ## Cards -/

/-- **A card is in the renamed set if the card of its rank in the old suit was in the set.** -/
theorem has_rename_ofSuits (s : CardSet) (σ : Equiv.Perm Suit) (suit : Suit) (hrank : rank < 15) :
    (s.rename (.ofSuits σ)).has (rank + laneWidth * (σ suit).index) =
      s.has (rank + laneWidth * suit.index) := by
  have hlt : ∀ suit : Suit, rank + laneWidth * suit.index < maskWidth := by
    intro suit
    have := suit.index_lt_four
    simp only [maskWidth, laneWidth]
    omega
  have hback : ((Renaming.ofSuits σ).symm ⟨_, hlt (σ suit)⟩ : Nat) =
      rank + laneWidth * suit.index := by
    show Suit.movedPlace σ.symm _ = _
    rw [Suit.movedPlace_of_rank hrank, Equiv.symm_apply_apply]
  rw [← hback]
  exact has_rename (.ofSuits σ) s ⟨_, hlt (σ suit)⟩

theorem ofSuits_symm_mod (p : Fin maskWidth) :
    ((Renaming.ofSuits σ).symm p : Nat) % laneWidth = p % laneWidth :=
  Suit.movedPlace_mod σ.symm p

/-- Cards of the deck are renamed to cards of the deck. -/
theorem rename_ofSuits_subset (hs : s.subset deck = true) :
    (s.rename (.ofSuits σ)).subset deck = true := by
  rw [subset_iff]
  intro i hi
  have hlt : i < maskWidth := isLow_rename _ s i hi
  have hold : s.has ((Renaming.ofSuits σ).symm ⟨i, hlt⟩) = true := by
    rw [← has_rename]
    exact hi
  have hdeck := subset_iff.1 hs _ hold
  have hrank : _ = i % laneWidth := ofSuits_symm_mod (σ := σ) ⟨i, hlt⟩
  rw [has_deck, decide_eq_true_iff] at hdeck ⊢
  simp only [maskWidth] at hlt
  simp only [laneWidth] at hrank hdeck ⊢
  omega

/-- **The new suit has the renamed cards of the old one.** -/
theorem inSuit_rename_ofSuits (hs : s.subset deck = true) :
    (s.rename (.ofSuits σ)).inSuit (σ suit) = (s.inSuit suit).rename (.ofSuits σ) := by
  have hlow : ((s.rename (.ofSuits σ)).inSuit (σ suit)).IsLow :=
    (isLow_rename _ s).of_has_imp fun i hi => (has_inSuit_iff.1 hi).1
  apply hlow.ext (isLow_rename _ _)
  intro p
  obtain ⟨q, rfl⟩ := (Renaming.ofSuits σ).surjective p
  rw [has_rename, Equiv.symm_apply_apply, Bool.eq_iff_iff, has_inSuit_iff, has_inSuit_iff,
    has_rename, Equiv.symm_apply_apply]
  refine and_congr_right fun hq => ?_
  -- the card is of some suit, and it is of another one before exactly if it is afterwards
  obtain ⟨other, column, hcolumn, hplace⟩ := has_deck_iff_square.1 (subset_iff.1 hs _ hq)
  have hmoved : (Renaming.ofSuits σ q : Nat) = squarePlace (σ other) column := by
    show Suit.movedPlace σ q = _
    rw [← hplace]
    exact Suit.movedPlace_of_rank (by omega)
  rw [hmoved, ← hplace, squarePlace_lane_iff hcolumn, squarePlace_lane_iff hcolumn,
    EmbeddingLike.apply_eq_iff_eq]

/-! ## What is counted by ranks -/

/-- A mask has the places of a rank group of the deck at its rank. -/
theorem has_rankCards_iff (hrank : rank < 15) (hi : i < maskWidth) :
    (rankCards rank).has i = true ↔ i % laneWidth = rank := by
  rw [has_rankCards]
  constructor
  · rintro ⟨suit, rfl⟩
    simp only [laneWidth]
    omega
  · intro h
    obtain hlast | ⟨suit, other, hother, rfl⟩ := Suit.place_cases hi
    · omega
    · rw [Nat.add_mul_mod_self_left, Nat.mod_eq_of_lt (by simp only [laneWidth]; omega)] at h
      exact ⟨suit, by rw [h]⟩

/-- The cards of a rank are the same after renaming the suits. -/
theorem rename_ofSuits_rankCards (hrank : rank < 15) :
    (rankCards rank).rename (.ofSuits σ) = rankCards rank := by
  have hlow : (rankCards rank).IsLow := by
    intro i hi
    obtain ⟨suit, rfl⟩ := (has_rankCards rank i).1 hi
    have := suit.index_lt_four
    simp only [maskWidth, laneWidth]
    omega
  apply (isLow_rename _ _).ext hlow
  intro p
  rw [has_rename, Bool.eq_iff_iff, has_rankCards_iff hrank (Fin.isLt _),
    has_rankCards_iff hrank p.isLt, ofSuits_symm_mod]

/-- **So many cards of a rank there were, so many there are.** -/
theorem size_rename_inter_rankCards (hs : s.IsLow) (hrank : rank < 15) :
    (s.rename (.ofSuits σ) ∩ rankCards rank).size = (s ∩ rankCards rank).size := by
  have hlow : (s ∩ rankCards rank).IsLow := hs.of_has_imp fun i hi => by
    rw [has_inter, Bool.and_eq_true] at hi
    exact hi.1
  conv_lhs => rw [← rename_ofSuits_rankCards (σ := σ) hrank, ← rename_inter, size_rename hlow]

theorem highCardPoints_rename_ofSuits (hs : s.IsLow) :
    (s.rename (.ofSuits σ)).highCardPoints = s.highCardPoints := by
  simp (disch := decide) only [highCardPoints, aces, kings, queens, jacks,
    size_rename_inter_rankCards hs]

/-- A set is worth as much after renaming the suits, whatever counts for it. -/
theorem worth_rename_ofSuits (p : PointCount) (hs : s.IsLow) :
    p.worth (s.rename (.ofSuits σ)) = p.worth s := by
  have hplaces : ∀ {t : CardSet}, t.IsLow →
      p.worth t = ∑ q : Fin maskWidth, if t.has q = true then p.weightAt q else 0 := by
    intro t ht
    rw [PointCount.worth, ← ht.map_places, Finset.sum_map, Finset.sum_filter]
    rfl
  rw [hplaces (isLow_rename _ s), hplaces hs, ← (Renaming.ofSuits σ).symm.sum_comp fun q =>
    if s.has q = true then p.weightAt q else 0]
  refine Finset.sum_congr rfl fun q _ => ?_
  -- the weight of a place depends on its rank
  have hweight : p.weightAt ((Renaming.ofSuits σ).symm q) = p.weightAt q := by
    rw [PointCount.weightAt, ofSuits_symm_mod, PointCount.weightAt]
  rw [has_rename, hweight]

end CardSet

end ContractBridge
