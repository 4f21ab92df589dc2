/-
How many sets of cards there are.

A set that ends is told by its places, and every finite set of numbers is the places of one, so the
sets of so many cards of a given set are counted by a binomial coefficient (`encard_subsets`). The
hands of a distribution are counted suit by suit: a hand is its four suits, and the suits are chosen
independently of each other (`encard_suitLengths`).
-/
import Mathlib.Data.Fintype.BigOperators
import Mathlib.Data.Fintype.Pi
import Mathlib.Data.Nat.Choose.Basic
import Mathlib.Data.Set.Card
import ContractBridge.Proofs.CardSet.Holding
import ContractBridge.Proofs.CardSet.Listing
import ContractBridge.Proofs.Shape.Members
import ContractBridge.Total

set_option autoImplicit false

namespace ContractBridge

instance : Fintype Suit := ⟨{.spades, .hearts, .diamonds, .clubs}, fun suit => by
  cases suit <;> decide⟩

namespace SuitLengths

/-- The number of ways to choose the cards of a distribution, suit by suit. -/
def choices (l : SuitLengths) : Nat :=
  handSize.choose l.spades.toNat * handSize.choose l.hearts.toNat *
    handSize.choose l.diamonds.toNat * handSize.choose l.clubs.toNat

theorem choices_eq_prod (l : SuitLengths) :
    l.choices = ∏ suit : Suit, handSize.choose (l.get suit).toNat := by
  have hall : (Finset.univ : Finset Suit) = {.spades, .hearts, .diamonds, .clubs} := rfl
  rw [hall, Finset.prod_insert (by decide), Finset.prod_insert (by decide),
    Finset.prod_insert (by decide), Finset.prod_singleton, ← mul_assoc, ← mul_assoc]
  rfl

end SuitLengths

namespace CardSet

variable {s t : CardSet} {l : SuitLengths}

/-! ## Sets and their places -/

/-- Every finite set of numbers is the places of a set that ends. -/
theorem exists_places_eq (p : Finset Nat) : ∃ s : CardSet, s.IsFinite ∧ s.places = p := by
  induction p using Finset.induction with
  | empty => exact ⟨∅, by decide, rfl⟩
  | insert i p _ ih =>
    obtain ⟨s, hs, rfl⟩ := ih
    refine ⟨single i ∪ s, (isFinite_single i).union hs, ?_⟩
    ext j
    rw [mem_places ((isFinite_single i).union hs), Finset.mem_insert, mem_places hs, has_union,
      has_single, Bool.or_eq_true, decide_eq_true_iff, eq_comm]

/-- **The number of sets of `k` cards of a set.** -/
theorem encard_subsets (ht : t.IsFinite) (k : Nat) :
    {s : CardSet | s.subset t = true ∧ s.size = k}.encard = t.size.choose k := by
  have himage : places '' {s : CardSet | s.subset t = true ∧ s.size = k} =
      t.places.powersetCard k := by
    ext p
    rw [Set.mem_image, Finset.mem_coe, Finset.mem_powersetCard]
    constructor
    · rintro ⟨s, ⟨hsub, rfl⟩, rfl⟩
      exact ⟨places_subset (ht.of_subset hsub) ht (subset_iff.1 hsub), card_places s⟩
    · rintro ⟨hp, rfl⟩
      obtain ⟨s, hs, rfl⟩ := exists_places_eq p
      refine ⟨s, ⟨subset_iff.2 fun i hi => ?_, (card_places s).symm⟩, rfl⟩
      exact (mem_places ht).1 (hp ((mem_places hs).2 hi))
  have hinj : Set.InjOn places {s : CardSet | s.subset t = true ∧ s.size = k} :=
    fun s hs s' hs' => eq_of_places_eq (ht.of_subset hs.1) (ht.of_subset hs'.1)
  rw [← hinj.encard_image, himage, Set.encard_coe_eq_coe_finsetCard, Finset.card_powersetCard,
    card_places]

/-- **The hands:** the sets of thirteen deck cards. -/
def allHands : Set CardSet := {hand | hand.subset deck = true ∧ hand.size = handSize}

theorem encard_allHands : allHands.encard = Nat.choose 52 handSize := by
  rw [allHands, encard_subsets isFinite_deck, size_deck]

/-! ## Hands suit by suit -/

/-- A length is the number of cards that are held in the suit. -/
theorem get_suitLengths_eq_size (hs : s.IsFinite) (suit : Suit) :
    s.suitLengths.get suit = (s.inSuit suit).size := by
  rw [get_suitLengths, laneSize_eq_size_lane hs, inSuit]

theorem size_inSuit_deck (suit : Suit) : (deck.inSuit suit).size = handSize := by
  cases suit <;> decide

/-- The places that a set holds in a suit. -/
def suitPlaces (s : CardSet) (suit : Suit) : Finset Nat := (s.inSuit suit).places

theorem mem_suitPlaces (hs : s.IsFinite) {suit : Suit} {i : Nat} :
    i ∈ s.suitPlaces suit ↔ s.has i = true ∧ laneWidth * suit.index ≤ i ∧
      i < laneWidth * suit.index + laneWidth := by
  rw [suitPlaces, mem_places (hs.inSuit suit), has_inSuit_iff]

/-- Sets of deck cards are told by what they hold of each suit. -/
theorem injOn_suitPlaces : Set.InjOn suitPlaces {s | s.subset deck = true} := by
  intro s hs t ht h
  have hsuit : ∀ suit, s.inSuit suit = t.inSuit suit := fun suit =>
    eq_of_places_eq ((isFinite_deck.of_subset hs).inSuit suit)
      ((isFinite_deck.of_subset ht).inSuit suit) (congrFun h suit)
  rw [← foldl_inSuit (subset_iff.1 hs), ← foldl_inSuit (subset_iff.1 ht)]
  simp only [hsuit]

/-- Whatever is chosen of each suit, some set of deck cards holds that. -/
theorem exists_suitPlaces_eq {f : Suit → Finset Nat} (hf : ∀ suit, f suit ⊆ deck.suitPlaces suit) :
    ∃ s : CardSet, s.subset deck = true ∧ s.suitPlaces = f := by
  obtain ⟨s, hs, hplaces⟩ := exists_places_eq (Finset.univ.biUnion f)
  have hhas : ∀ i, s.has i = true ↔ ∃ suit, i ∈ f suit := by
    intro i
    rw [← mem_places hs, hplaces, Finset.mem_biUnion]
    simp only [Finset.mem_univ, true_and]
  refine ⟨s, subset_iff.2 fun i hi => ?_, funext fun suit => Finset.ext fun i => ?_⟩
  · obtain ⟨suit, hi⟩ := (hhas i).1 hi
    exact ((mem_suitPlaces isFinite_deck).1 (hf suit hi)).1
  · rw [mem_suitPlaces hs, hhas]
    constructor
    · rintro ⟨⟨other, hi⟩, hlane⟩
      -- what is chosen of another suit lies in another lane
      have hother := ((mem_suitPlaces isFinite_deck).1 (hf other hi)).2
      have hsame : other = suit := Suit.index_inj (by
        simp only [laneWidth] at hlane hother
        omega)
      exact hsame ▸ hi
    · intro hi
      exact ⟨⟨suit, hi⟩, ((mem_suitPlaces isFinite_deck).1 (hf suit hi)).2⟩

/-- **The number of sets of deck cards of a distribution.** -/
theorem encard_suitLengths (hl : l.isInTable = true) :
    {s : CardSet | s.subset deck = true ∧ s.suitLengths = l}.encard = l.choices := by
  have himage : suitPlaces '' {s : CardSet | s.subset deck = true ∧ s.suitLengths = l} =
      Fintype.piFinset fun suit => (deck.suitPlaces suit).powersetCard (l.get suit).toNat := by
    ext f
    rw [Set.mem_image, Finset.mem_coe, Fintype.mem_piFinset]
    simp only [Finset.mem_powersetCard]
    constructor
    · rintro ⟨s, ⟨hsub, rfl⟩, rfl⟩ suit
      have hs := isFinite_deck.of_subset hsub
      refine ⟨fun i hi => ?_, ?_⟩
      · rw [mem_suitPlaces hs] at hi
        exact (mem_suitPlaces isFinite_deck).2 ⟨subset_iff.1 hsub i hi.1, hi.2⟩
      · rw [get_suitLengths_eq_size hs, Int.toNat_natCast, suitPlaces, card_places]
    · intro hf
      obtain ⟨s, hsub, rfl⟩ := exists_suitPlaces_eq fun suit => (hf suit).1
      have hs := isFinite_deck.of_subset hsub
      refine ⟨s, ⟨hsub, SuitLengths.ext_get fun suit => ?_⟩, rfl⟩
      have hbounds := SuitLengths.forall_mem_toList.1 (SuitLengths.isInTable_iff.1 hl) suit
      rw [get_suitLengths_eq_size hs, ← card_places]
      have hcard : (s.inSuit suit).places.card = (l.get suit).toNat := (hf suit).2
      omega
  have hinj : Set.InjOn suitPlaces {s : CardSet | s.subset deck = true ∧ s.suitLengths = l} :=
    injOn_suitPlaces.mono fun s hs => hs.1
  rw [← hinj.encard_image, himage, Set.encard_coe_eq_coe_finsetCard, Fintype.card_piFinset,
    SuitLengths.choices_eq_prod]
  simp only [Finset.card_powersetCard, suitPlaces, card_places, size_inSuit_deck]

/-- The sets of deck cards of several distributions are as many as those of each together. -/
theorem encard_suitLengths_mem {ls : List SuitLengths} (hls : ∀ l ∈ ls, l.isInTable = true)
    (hnodup : ls.Nodup) :
    {s : CardSet | s.subset deck = true ∧ s.suitLengths ∈ ls}.encard =
      total (ls.map SuitLengths.choices) := by
  induction ls with
  | nil => simp
  | cons l ls ih =>
    obtain ⟨hl, hls⟩ := List.forall_mem_cons.1 hls
    obtain ⟨hnew, hnodup⟩ := List.nodup_cons.1 hnodup
    have hsplit : {s : CardSet | s.subset deck = true ∧ s.suitLengths ∈ l :: ls} =
        {s : CardSet | s.subset deck = true ∧ s.suitLengths = l} ∪
          {s : CardSet | s.subset deck = true ∧ s.suitLengths ∈ ls} := by
      ext s
      simp only [Set.mem_ofPred_eq, Set.mem_union, List.mem_cons, and_or_left]
    have hdisjoint : Disjoint {s : CardSet | s.subset deck = true ∧ s.suitLengths = l}
        {s : CardSet | s.subset deck = true ∧ s.suitLengths ∈ ls} := by
      rw [Set.disjoint_left]
      rintro s ⟨-, rfl⟩ ⟨-, hmem⟩
      exact hnew hmem
    rw [hsplit, Set.encard_union_eq hdisjoint, encard_suitLengths hl, ih hls hnodup,
      List.map_cons, total_cons, Nat.cast_add]

end CardSet

end ContractBridge
