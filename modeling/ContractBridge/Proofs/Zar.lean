/-
Zar points and the names of suits.

The count sorts the suits of a hand by length, and suits of one length stay in suit order. So a
suit is shorter than another one by its length or, at one length, by its name (`IsShorter`), and
the sorted suits are in this order (`pairwise_lengthOrder`). Where a suit comes is the number of
suits that are shorter, so whether a hand has its strength in the long suits can be said without
sorting (`Concentrated`): it depends on the points in the one or two shortest suits.

If the suits are renamed, lengths and points move along, and only the order of equally long suits
may change. The lengths alone decide the points for length, so two such hands differ at most by
the point for strength in the long suits. The point at 25 does not come in between: a hand with 24
points for length has two voids, and then all its points are in the other two suits, whatever they
are called.
-/
import ContractBridge.Proofs.CardSet.SuitNames
import ContractBridge.Zar

set_option autoImplicit false

namespace ContractBridge.Zar

variable {s : CardSet} {x y a b c d : Suit} {l : List Suit}

/-! ## The order of the suits -/

/-- **Whether a suit is shorter than another one,** or as long and before it. -/
def IsShorter (s : CardSet) (x y : Suit) : Prop :=
  (s.inSuit x).size < (s.inSuit y).size ∨
    (s.inSuit x).size = (s.inSuit y).size ∧ x.index < y.index

instance (s : CardSet) : DecidableRel (IsShorter s) := fun _ _ =>
  inferInstanceAs (Decidable (_ ∨ _))

theorem IsShorter.not_symm (h : IsShorter s x y) : ¬ IsShorter s y x := by
  unfold IsShorter at *
  omega

theorem isShorter_or (hne : x ≠ y) : IsShorter s x y ∨ IsShorter s y x := by
  have hindex : x.index ≠ y.index := fun h => hne (Suit.index_inj h)
  unfold IsShorter
  omega

/-- The suits, the shortest first. -/
def lengthOrder (s : CardSet) : List Suit :=
  Suit.all.mergeSort fun x y => (s.inSuit x).size ≤ (s.inSuit y).size

theorem suitsByLength_eq (s : CardSet) : suitsByLength s = (lengthOrder s).map s.inSuit := by
  rw [suitsByLength, lengthOrder]
  exact (List.map_mergeSort (f := s.inSuit) fun _ _ _ _ => rfl).symm

theorem perm_lengthOrder (s : CardSet) : (lengthOrder s).Perm Suit.all := List.mergeSort_perm _ _

/-- Sorting by length alone keeps the order of equally long suits. -/
theorem lengthOrder_eq_mergeSort (s : CardSet) :
    lengthOrder s = Suit.all.mergeSort fun x y => !decide (IsShorter s y x) := by
  -- the library says that sorting is stable by sorting along with the places in the list
  have hplaces : Suit.all.zipIdx = Suit.all.map fun x => (x, x.index) := rfl
  have hkey : ∀ x ∈ Suit.all, ∀ y ∈ Suit.all, (!decide (IsShorter s y x)) =
      List.zipIdxLE (fun x y => decide ((s.inSuit x).size ≤ (s.inSuit y).size))
        (x, x.index) (y, y.index) := by
    intro x _ y _
    rw [Bool.eq_iff_iff, Bool.not_eq_true', decide_eq_false_iff_not, List.zipIdxLE, IsShorter]
    simp only [decide_eq_true_eq]
    split
    · split
      · rw [decide_eq_true_eq]
        omega
      · simp only [iff_true]
        omega
    · simp only [Bool.false_eq_true, iff_false]
      omega
  rw [lengthOrder, ← List.mergeSort_zipIdx, hplaces, ← List.map_mergeSort hkey, List.map_map]
  exact List.map_id _

/-- **The sorted suits are each shorter than those behind.** -/
theorem pairwise_lengthOrder (s : CardSet) : (lengthOrder s).Pairwise (IsShorter s) := by
  have hnodup : (lengthOrder s).Nodup := (perm_lengthOrder s).nodup_iff.2 (by decide)
  have hsorted : (lengthOrder s).Pairwise fun x y => (!decide (IsShorter s y x)) = true := by
    rw [lengthOrder_eq_mergeSort]
    refine List.pairwise_mergeSort ?_ ?_ _
    · intro x y z
      simp only [Bool.not_eq_true', decide_eq_false_iff_not]
      unfold IsShorter
      omega
    · intro x y
      simp only [Bool.or_eq_true, Bool.not_eq_true', decide_eq_false_iff_not]
      unfold IsShorter
      omega
  simp only [Bool.not_eq_true', decide_eq_false_iff_not] at hsorted
  exact (List.Pairwise.and hnodup hsorted).imp fun h => (isShorter_or h.1).resolve_right h.2

/-- The sorted suits are known by their order. -/
theorem lengthOrder_eq (hperm : l.Perm Suit.all) (hpair : l.Pairwise (IsShorter s)) :
    lengthOrder s = l :=
  ((perm_lengthOrder s).trans hperm.symm).eq_of_pairwise
    (fun _ _ _ _ h h' => absurd h' h.not_symm) (pairwise_lengthOrder s) hpair

theorem exists_lengthOrder (s : CardSet) : ∃ a b c d, lengthOrder s = [a, b, c, d] :=
  List.length_eq_four.1 (perm_lengthOrder s).length_eq

/-! ## Points on the side -/

/-- How many suits are shorter. -/
def standing (s : CardSet) (x : Suit) : Nat := ∑ y : Suit, if IsShorter s y x then 1 else 0

/-- **The points on the side:** those in the suits with fewer than so many shorter ones. -/
def sidePoints (s : CardSet) (k : Nat) : Nat :=
  ∑ x : Suit, if standing s x < k then (s.inSuit x).highCardPoints else 0

/-- **Whether a hand has its strength in the long suits.** A middling hand, of 11 to 14 points, has
at most one point in its two shortest suits, a stronger one at most one in its shortest suit. -/
def Concentrated (s : CardSet) : Prop :=
  (10 < s.highCardPoints ∧ s.highCardPoints < 15 ∧ sidePoints s 2 ≤ 1) ∨
    (14 < s.highCardPoints ∧ sidePoints s 1 ≤ 1)

instance : DecidablePred Concentrated := fun _ => inferInstanceAs (Decidable (_ ∨ _))

/-- The point for strength in the long suits. -/
def bonus (s : CardSet) : Int := if Concentrated s then 1 else 0

theorem bonus_cases (s : CardSet) : bonus s = 0 ∨ bonus s = 1 := by
  unfold bonus
  split
  · exact .inr rfl
  · exact .inl rfl

theorem bonus_eq_iff {t : CardSet} : bonus t = bonus s ↔ (Concentrated t ↔ Concentrated s) := by
  unfold bonus
  by_cases ht : Concentrated t <;> by_cases hs : Concentrated s <;> simp [ht, hs]

section ordered

variable (h : lengthOrder s = [a, b, c, d])
include h

/-- A sum over the suits, taken in the order of their lengths. -/
theorem sum_of_order (f : Suit → Nat) : ∑ x, f x = f a + f b + f c + f d := by
  have hperm := ((perm_lengthOrder s).map f).sum_eq
  rw [h] at hperm
  simp only [Suit.all, List.map_cons, List.map_nil, List.sum_cons, List.sum_nil] at hperm
  rw [Suit.sum_eq]
  omega

theorem isShorter_of_order : (IsShorter s a b ∧ IsShorter s a c ∧ IsShorter s a d) ∧
    (IsShorter s b c ∧ IsShorter s b d) ∧ IsShorter s c d := by
  have hpair := pairwise_lengthOrder s
  rw [h] at hpair
  simpa using hpair

/-- A suit stands where it comes in the order. -/
theorem standing_of_order :
    standing s a = 0 ∧ standing s b = 1 ∧ standing s c = 2 ∧ standing s d = 3 := by
  obtain ⟨⟨hab, hac, had⟩, ⟨hbc, hbd⟩, hcd⟩ := isShorter_of_order h
  have hself : ∀ x, ¬ IsShorter s x x := fun x hx => hx.not_symm hx
  simp only [standing, sum_of_order h, hself, hab, hac, had, hbc, hbd, hcd, hab.not_symm,
    hac.not_symm, had.not_symm, hbc.not_symm, hbd.not_symm, hcd.not_symm, if_true, if_false,
    and_self]

theorem sidePoints_of_order : sidePoints s 1 = (s.inSuit a).highCardPoints ∧
    sidePoints s 2 = (s.inSuit a).highCardPoints + (s.inSuit b).highCardPoints := by
  obtain ⟨ha, hb, hc, hd⟩ := standing_of_order h
  simp [sidePoints, sum_of_order h, ha, hb, hc, hd]

end ordered

/-! ## The count -/

/-- The points for length and for strength in the long suits, with the one at 25. -/
def lengthScore (s : CardSet) (shape : Int) : Int :=
  if shape + bonus s = 25 ∧ 3 < (s.inSuit .spades).size then shape + bonus s + 1
  else shape + bonus s

/-- Hands of as many points for length and as many spades score alike, apart from the point for
strength in the long suits, if they agree on that point where the one at 25 is in reach. -/
theorem lengthScore_add_bonus {t : CardSet} {shape : Int}
    (hspades : (t.inSuit .spades).size = (s.inSuit .spades).size)
    (hlong : 24 ≤ shape → bonus t = bonus s) :
    lengthScore t shape + bonus s = lengthScore s shape + bonus t := by
  -- with fewer points for length the score stays below 25, with or without the point
  by_cases hshape : 24 ≤ shape
  · rw [lengthScore, lengthScore, hlong hshape, hspades]
  · have hs := bonus_cases s
    have ht := bonus_cases t
    rw [lengthScore, lengthScore, if_neg (by omega), if_neg (by omega)]
    omega

section deckCards

variable (hs : s.subset .deck = true) (h : lengthOrder s = [a, b, c, d])
include hs h

/-- A set has the high-card points of its suits. -/
theorem highCardPoints_of_order : s.highCardPoints =
    (s.inSuit a).highCardPoints + (s.inSuit b).highCardPoints + (s.inSuit c).highCardPoints +
      (s.inSuit d).highCardPoints := by
  have htotal := PointCount.total_highCardPoints_suits hs
  rw [Suit.total_map_all, sum_of_order h] at htotal
  exact htotal.symm

/-- The point for strength in the long suits goes to the concentrated hands. -/
theorem isConcentrated_eq : isConcentrated s.highCardPoints
    ((s.inSuit d).highCardPoints + (s.inSuit c).highCardPoints) (s.inSuit b).highCardPoints =
      decide (Concentrated s) := by
  have hpoints := highCardPoints_of_order hs h
  obtain ⟨hone, htwo⟩ := sidePoints_of_order h
  rw [Bool.eq_iff_iff, decide_eq_true_iff, Concentrated, hone, htwo]
  simp only [isConcentrated, Bool.or_eq_true, Bool.and_eq_true, decide_eq_true_eq]
  omega

theorem lengthAndConcentration_eq : lengthAndConcentration s =
    .ok (lengthScore s
      (shapePoints (s.inSuit d).size (s.inSuit c).size (s.inSuit a).size)) := by
  have hsuit := fun x => PointCount.evaluate_milton (CardSet.inSuit_subset hs x)
  have hbonus : ∀ n : Int, (if isConcentrated s.highCardPoints
      ((s.inSuit d).highCardPoints + (s.inSuit c).highCardPoints) (s.inSuit b).highCardPoints = true
        then n + 1 else n) = n + bonus s := by
    intro n
    rw [isConcentrated_eq hs h, bonus]
    by_cases hconcentrated : Concentrated s <;> simp [hconcentrated]
  rw [lengthAndConcentration, suitsByLength_eq, h, PointCount.evaluate_milton hs]
  simp only [List.map_cons, List.map_nil, hsuit]
  refine congrArg Except.ok ?_
  simp only [hbonus]
  rfl

/-- **The Zar points of deck cards,** once their suits are in order. -/
theorem points_of_order : points s = .ok (wrap (PointCount.zarHonours.worth s) +
    lengthScore s (shapePoints (s.inSuit d).size (s.inSuit c).size (s.inSuit a).size) -
      shortHonoursMalus s) := by
  rw [points, PointCount.evaluate_eq hs, lengthAndConcentration_eq hs h]
  rfl

end deckCards

/-! ## Hands with two voids -/

theorem sum_size_inSuit (hs : s.subset .deck = true) : ∑ x, (s.inSuit x).size = s.size := by
  have hlengths := CardSet.get_suitLengths_eq_size (CardSet.isFinite_deck.of_subset hs)
  have htotal : s.suitLengths.get .spades + s.suitLengths.get .hearts +
      s.suitLengths.get .diamonds + s.suitLengths.get .clubs = s.size :=
    CardSet.suitLengths_total hs
  rw [hlengths, hlengths, hlengths, hlengths] at htotal
  rw [Suit.sum_eq]
  omega

/-- A hand with 24 points for length has all its cards in two suits, and its strength there. -/
theorem concentrated_iff_of_long (hs : s.subset .deck = true) (hsize : s.size = handSize)
    (h : lengthOrder s = [a, b, c, d])
    (hlong : 24 ≤ shapePoints (s.inSuit d).size (s.inSuit c).size (s.inSuit a).size) :
    Concentrated s ↔ 10 < s.highCardPoints := by
  have hfinite : s.IsFinite := CardSet.isFinite_deck.of_subset hs
  obtain ⟨⟨hab, -, -⟩, ⟨hbc, -⟩, hcd⟩ := isShorter_of_order h
  have htotal : (s.inSuit a).size + (s.inSuit b).size + (s.inSuit c).size + (s.inSuit d).size =
      13 := by
    rw [← sum_of_order h fun x => (s.inSuit x).size, sum_size_inSuit hs, hsize, handSize]
  have hvoid : ∀ x, (s.inSuit x).size = 0 → (s.inSuit x).highCardPoints = 0 := by
    intro x hx
    rw [(CardSet.size_eq_zero_iff (hfinite.inSuit x)).1 hx]
    decide
  unfold IsShorter at hab hbc hcd
  unfold shapePoints at hlong
  obtain ⟨hone, htwo⟩ := sidePoints_of_order h
  rw [Concentrated, hone, htwo, hvoid a (by omega), hvoid b (by omega)]
  omega

/-! ## Renamed suits -/

/-- Whether a renaming of the suits keeps the order of equally long ones. -/
def KeepsOrder (s : CardSet) (σ : Equiv.Perm Suit) : Prop :=
  ∀ x y, (s.inSuit x).size = (s.inSuit y).size → x.index < y.index → (σ x).index < (σ y).index

instance (s : CardSet) (σ : Equiv.Perm Suit) : Decidable (KeepsOrder s σ) :=
  inferInstanceAs (Decidable (∀ _ _, _))

section renamed

variable {σ : Equiv.Perm Suit} (hs : s.subset .deck = true)
include hs

theorem size_inSuit_renamed (x : Suit) :
    ((s.rename (.ofSuits σ)).inSuit (σ x)).size = (s.inSuit x).size := by
  rw [CardSet.inSuit_rename_ofSuits hs, CardSet.size_rename]
  exact CardSet.isLow_of_subset (CardSet.inSuit_subset hs x)

theorem highCardPoints_inSuit_renamed (x : Suit) :
    ((s.rename (.ofSuits σ)).inSuit (σ x)).highCardPoints = (s.inSuit x).highCardPoints := by
  rw [CardSet.inSuit_rename_ofSuits hs, CardSet.highCardPoints_rename_ofSuits]
  exact CardSet.isLow_of_subset (CardSet.inSuit_subset hs x)

/-- A suit has as many unguarded honours by another name. -/
theorem suitMalus_inSuit_renamed (x : Suit) :
    suitMalus ((s.rename (.ofSuits σ)).inSuit (σ x)) = suitMalus (s.inSuit x) := by
  have hlow : (s.inSuit x).IsLow := CardSet.isLow_of_subset (CardSet.inSuit_subset hs x)
  rw [CardSet.inSuit_rename_ofSuits hs]
  simp (disch := decide) only [suitMalus, CardSet.kings, CardSet.queens, CardSet.jacks,
    CardSet.size_rename hlow, CardSet.size_rename_inter_rankCards hlow]

theorem shortHonoursMalus_renamed :
    shortHonoursMalus (s.rename (.ofSuits σ)) = shortHonoursMalus s := by
  rw [shortHonoursMalus, shortHonoursMalus, Suit.total_map_all, Suit.total_map_all,
    ← Equiv.sum_comp σ]
  exact Finset.sum_congr rfl fun x _ => suitMalus_inSuit_renamed hs x

/-- The sorted lengths of a hand do not depend on the names of its suits. -/
theorem lengths_renamed :
    (lengthOrder (s.rename (.ofSuits σ))).map (fun x => ((s.rename (.ofSuits σ)).inSuit x).size) =
      (lengthOrder s).map fun x => (s.inSuit x).size := by
  have hsorted : ∀ t : CardSet,
      ((lengthOrder t).map fun x => (t.inSuit x).size).Pairwise (· ≤ ·) := by
    intro t
    rw [List.pairwise_map]
    exact (pairwise_lengthOrder t).imp fun hxy => by
      unfold IsShorter at hxy
      omega
  have hall : ∀ x, x ∈ Suit.all := fun x => by cases x <;> decide
  have hnames : (Suit.all.map σ).Perm Suit.all := by
    refine (List.perm_ext_iff_of_nodup (List.Nodup.map σ.injective (by decide)) (by decide)).2 ?_
    intro x
    exact iff_of_true (List.mem_map.2 ⟨σ.symm x, hall _, σ.apply_symm_apply x⟩) (hall x)
  have hmoved : (Suit.all.map σ).map (fun x => ((s.rename (.ofSuits σ)).inSuit x).size) =
      Suit.all.map fun x => (s.inSuit x).size := by
    rw [List.map_map]
    exact List.map_congr_left fun x _ => size_inSuit_renamed hs x
  -- both lists are sorted, and each is a rearrangement of the lengths in suit order
  refine List.Perm.eq_of_pairwise' (hsorted _) (hsorted s) ?_
  refine ((perm_lengthOrder _).map _).trans ((hnames.symm.map _).trans ?_)
  rw [hmoved]
  exact ((perm_lengthOrder s).map _).symm

/-- A renaming that keeps the order of equally long suits keeps the order of all. -/
theorem isShorter_renamed (hkeep : KeepsOrder s σ) :
    IsShorter (s.rename (.ofSuits σ)) (σ x) (σ y) ↔ IsShorter s x y := by
  have himp : ∀ x y, IsShorter s x y → IsShorter (s.rename (.ofSuits σ)) (σ x) (σ y) := by
    intro x y hxy
    unfold IsShorter at *
    rw [size_inSuit_renamed hs, size_inSuit_renamed hs]
    exact hxy.imp_right fun ⟨hsize, hindex⟩ => ⟨hsize, hkeep x y hsize hindex⟩
  refine ⟨fun hxy => ?_, himp x y⟩
  have hne : x ≠ y := by
    rintro rfl
    exact hxy.not_symm hxy
  exact (isShorter_or hne).resolve_right fun hyx => hxy.not_symm (himp y x hyx)

/-- With equally long suits in their order, the strength of a hand lies where it did. -/
theorem concentrated_renamed (hkeep : KeepsOrder s σ) :
    Concentrated (s.rename (.ofSuits σ)) ↔ Concentrated s := by
  have hstanding : ∀ x, standing (s.rename (.ofSuits σ)) (σ x) = standing s x := by
    intro x
    rw [standing, standing, ← Equiv.sum_comp σ]
    simp only [isShorter_renamed hs hkeep]
  have hside : ∀ k, sidePoints (s.rename (.ofSuits σ)) k = sidePoints s k := by
    intro k
    rw [sidePoints, sidePoints, ← Equiv.sum_comp σ]
    simp only [hstanding, highCardPoints_inSuit_renamed hs]
  rw [Concentrated, Concentrated, hside, hside,
    CardSet.highCardPoints_rename_ofSuits (CardSet.isLow_of_subset hs)]

/-- **Zar points depend on the names of equally long suits through one point only.** Rename the
hearts, diamonds and clubs of a hand of thirteen deck cards in any way. Both hands have Zar points,
and apart from the point for strength in the long suits they have the same; so they have the same
altogether exactly if both hands get this point or neither does. This is so if the renaming keeps
the order of equally long suits. -/
theorem points_renamed (hsize : s.size = handSize) (hspades : σ .spades = .spades) :
    ∃ n m : Int, points s = .ok n ∧ points (s.rename (.ofSuits σ)) = .ok m ∧
      m + bonus s = n + bonus (s.rename (.ofSuits σ)) ∧
      (m = n ↔ (Concentrated (s.rename (.ofSuits σ)) ↔ Concentrated s)) ∧
      (KeepsOrder s σ → m = n) := by
  have ht : (s.rename (.ofSuits σ)).subset .deck = true := CardSet.rename_ofSuits_subset hs
  have hlow : s.IsLow := CardSet.isLow_of_subset hs
  have htsize : (s.rename (.ofSuits σ)).size = handSize := by rw [CardSet.size_rename hlow, hsize]
  obtain ⟨a, b, c, d, h⟩ := exists_lengthOrder s
  obtain ⟨a', b', c', d', h'⟩ := exists_lengthOrder (s.rename (.ofSuits σ))
  have hlengths := lengths_renamed (σ := σ) hs
  rw [h, h'] at hlengths
  simp only [List.map_cons, List.map_nil, List.cons.injEq, and_true] at hlengths
  obtain ⟨ha, -, hc, hd⟩ := hlengths
  have hpoints := points_of_order ht h'
  rw [ha, hc, hd, shortHonoursMalus_renamed hs,
    CardSet.worth_rename_ofSuits PointCount.zarHonours hlow] at hpoints
  have hsame : ((s.rename (.ofSuits σ)).inSuit .spades).size = (s.inSuit .spades).size := by
    have hmoved := size_inSuit_renamed (σ := σ) hs .spades
    rwa [hspades] at hmoved
  have hscore := lengthScore_add_bonus hsame fun hlong => by
    rw [bonus_eq_iff, concentrated_iff_of_long hs hsize h hlong,
      concentrated_iff_of_long ht htsize h' (by rwa [ha, hc, hd]),
      CardSet.highCardPoints_rename_ofSuits hlow]
  refine ⟨_, _, points_of_order hs h, hpoints, by omega, ?_, fun hkeep => ?_⟩
  · rw [← bonus_eq_iff]
    omega
  · have hbonus := bonus_eq_iff.2 (concentrated_renamed hs hkeep)
    omega

end renamed

/-- At a hand of 4432 whose points are in the long suits, with hearts and clubs renamed to each
other. -/
theorem points_renamed_fourFourThreeTwo :
    points ⟨0x000c6004300c7004⟩ = .ok 39 ∧
      points (CardSet.rename (.ofSuits (Equiv.swap .hearts .clubs)) ⟨0x000c6004300c7004⟩) =
        .ok 39 := by
  have horder : lengthOrder ⟨0x000c6004300c7004⟩ = [.clubs, .diamonds, .spades, .hearts] :=
    lengthOrder_eq (by decide) (by decide)
  have hpoints : points ⟨0x000c6004300c7004⟩ = .ok 39 :=
    (points_of_order (by decide) horder).trans (congrArg Except.ok (by decide))
  have hspades : Equiv.swap Suit.hearts Suit.clubs .spades = .spades := by decide
  obtain ⟨n, m, hn, hm, -, -, hkeep⟩ := points_renamed (s := ⟨0x000c6004300c7004⟩) (by decide)
    (by decide) hspades
  rw [hpoints, Except.ok.injEq] at hn
  rw [hm, hkeep (by decide), ← hn]
  exact ⟨hpoints, rfl⟩

/-- **One point may hang on the names:** with three hearts and three diamonds, the suit with the ace
and the queen is the longer one only if it is the diamonds. -/
theorem points_differ_renamed :
    ¬ ∀ (s : CardSet) (σ : Equiv.Perm Suit), s.subset .deck = true → s.size = handSize →
      σ .spades = .spades → points (s.rename (.ofSuits σ)) = points s := by
  intro hclaim
  have horder : lengthOrder ⟨0x000c001c5004601c⟩ = [.clubs, .hearts, .diamonds, .spades] :=
    lengthOrder_eq (by decide) (by decide)
  have hrenamed : CardSet.rename (.ofSuits (Equiv.swap .hearts .diamonds)) ⟨0x000c001c5004601c⟩ =
      ⟨0x000c5004001c601c⟩ := by decide +kernel
  have horder' : lengthOrder ⟨0x000c5004001c601c⟩ = [.clubs, .hearts, .diamonds, .spades] :=
    lengthOrder_eq (by decide) (by decide)
  have hpoints : points ⟨0x000c001c5004601c⟩ = .ok 29 :=
    (points_of_order (by decide) horder).trans (congrArg Except.ok (by decide))
  have hpoints' : points ⟨0x000c5004001c601c⟩ = .ok 30 :=
    (points_of_order (by decide) horder').trans (congrArg Except.ok (by decide))
  have hsame := hclaim ⟨0x000c001c5004601c⟩ (Equiv.swap .hearts .diamonds) (by decide) (by decide)
    (by decide)
  rw [hrenamed, hpoints, hpoints'] at hsame
  cases hsame

end ContractBridge.Zar
