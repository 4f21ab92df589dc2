/-
The probability of a shape.

The share that a shape reports is a quotient of two sums of products of binomial coefficients. The
coefficients are read off a triangle of sums (`binomial_eq_choose`), and a sum of products over the
members is the number of hands that the shape includes, since every hand of a shape has exactly one
distribution and the hands of a distribution are chosen suit by suit (`encard_hands`). So the share
is the number of hands of the shape over the number of all hands, rounded once, with what rounding
can do said by `Double.abs_value_ofRatio_sub_le`.

For the shape of all distributions both numbers are the same, and one is not rounded.
-/
import ContractBridge.Proofs.CardSet.Counting
import ContractBridge.Proofs.Double.Rounding
import ContractBridge.Proofs.Shape.Hands
import ContractBridge.Proofs.Shape.Order
import ContractBridge.Shape.Probability

set_option autoImplicit false

namespace ContractBridge

/-! ## The triangle -/

/-- A row of the triangle lists the binomial coefficients. -/
theorem binomialRow_eq (n : Nat) : binomialRow n = (List.range (n + 1)).map n.choose := by
  induction n with
  | zero => rfl
  | succ n ih =>
    have hlonger : (List.range (n + 1)).map n.choose ++ [0] =
        (List.range (n + 2)).map n.choose := by
      rw [List.range_succ (n := n + 1), List.map_append, List.map_singleton, Nat.choose_succ_self]
    rw [binomialRow, ih, hlonger, List.range_succ_eq_map (n := n + 1), List.map_cons, List.map_cons,
      List.zipWith_cons_cons, List.map_map, List.map_map, List.zipWith_map, List.zipWith_self,
      Nat.zero_add, Nat.choose_zero_right]
    rfl

theorem binomial_eq_choose (n k : Nat) : binomial n k = n.choose k := by
  rw [binomial, binomialRow_eq, List.getD_eq_getElem?_getD, List.getElem?_map]
  rcases Nat.lt_or_ge k (n + 1) with hk | hk
  · rw [List.getElem?_range hk]
    rfl
  · rw [List.getElem?_eq_none (by simpa using hk), Nat.choose_eq_zero_of_lt hk]
    rfl

namespace Shape

variable {s : Shape}

theorem handsOf_eq_choices (l : SuitLengths) : handsOf l = l.choices := by
  simp only [handsOf, SuitLengths.toList, List.map_cons, List.map_nil, List.foldl_cons,
    List.foldl_nil, one_mul, binomial_eq_choose, SuitLengths.choices]

theorem handCount_eq (s : Shape) : s.handCount = total (s.members.map SuitLengths.choices) := by
  rw [handCount, funext handsOf_eq_choices]

/-! ## The hands of a shape -/

/-- The hands that the shape includes. -/
def hands (s : Shape) : Set CardSet := {hand ∈ CardSet.allHands | s.includes hand = .ok true}

theorem nodup_members (s : Shape) : s.members.Nodup :=
  s.pairwise_members.imp fun h heq => by
    rw [heq, SuitLengths.precedes_iff] at h
    omega

/-- **A shape includes as many hands as its members have choices.** -/
theorem encard_hands (hs : ∀ l ∈ s.members, l.IsOfHand) :
    s.hands.encard = total (s.members.map SuitLengths.choices) := by
  have hhands : s.hands = {hand | hand.subset .deck = true ∧ hand.suitLengths ∈ s.members} := by
    ext hand
    constructor
    · rintro ⟨⟨hdeck, -⟩, hincludes⟩
      rw [includes_eq_mem s hdeck, Except.ok.injEq, decide_eq_true_iff] at hincludes
      exact ⟨hdeck, hincludes⟩
    · rintro ⟨hdeck, hmem⟩
      refine ⟨⟨hdeck, size_of_suitLengths_mem hs hdeck hmem⟩, ?_⟩
      rw [includes_eq_mem s hdeck, decide_eq_true hmem]
  rw [hhands]
  exact CardSet.encard_suitLengths_mem (fun l hl => (hs l hl).isInTable) s.nodup_members

/-- The shape of all distributions includes every hand. -/
theorem hands_all : all.hands = CardSet.allHands := by
  refine Set.sep_eq_self_iff_mem_true.2 fun hand ⟨hdeck, hsize⟩ => ?_
  rw [includes_eq_mem _ hdeck,
    decide_eq_true (mem_all.2 (SuitLengths.isOfHand_suitLengths hdeck hsize))]

/-- A shape includes at most all hands. -/
theorem total_choices_le (hs : ∀ l ∈ s.members, l.IsOfHand) :
    total (s.members.map SuitLengths.choices) ≤ Nat.choose 52 handSize := by
  have hsub : s.hands ⊆ CardSet.allHands := Set.sep_subset _ _
  have hle := Set.encard_le_encard hsub
  rw [encard_hands hs, CardSet.encard_allHands] at hle
  exact_mod_cast hle

/-! ## The share -/

theorem probability_eq (s : Shape) : s.probability =
    .ofRatio (total (s.members.map SuitLengths.choices) : Nat) (Nat.choose 52 handSize) := by
  rw [probability, handCount_eq, binomial_eq_choose]

theorem choose_deck_pos : 0 < Nat.choose 52 handSize := Nat.choose_pos (by decide)

theorem choose_deck_lt : Nat.choose 52 handSize < 2 ^ 53 := by
  rw [Nat.choose_eq_descFactorial_div_factorial]
  decide

/-- The share of all hands is one, without an error. -/
theorem value_probability_all : all.probability.value = 1 := by
  have hcount : total (all.members.map SuitLengths.choices) = Nat.choose 52 handSize := by
    have henc := encard_hands (s := all) fun l hl => mem_all.1 hl
    rw [hands_all, CardSet.encard_allHands] at henc
    exact_mod_cast henc.symm
  have hone : ((Nat.choose 52 handSize : Int) : ℚ) / (Nat.choose 52 handSize : Nat) =
      (1 : Int) * 2 ^ (0 : Int) := by
    rw [Int.cast_natCast, div_self (Nat.cast_ne_zero.2 choose_deck_pos.ne')]
    norm_num
  rw [probability_eq, hcount, Double.value_ofRatio_of_eq choose_deck_pos (by norm_num) hone, hone]
  norm_num

end Shape

namespace ShapeExpr

variable {e : ShapeExpr} {c : ShapeCache} {s : Shape}

/-- **The probability of a shape counts hands.** For every shape that an expression gives, with
whatever cache, the choices of its members together are the number of hands that the shape includes,
and the probability is that number over the number of all hands, rounded: it is off by at most one
part in `2 ^ 53`. Both numbers are below `2 ^ 53`, so nothing but the quotient is rounded. Of the
shape of all distributions the probability is exactly one. -/
theorem probability_counts_hands (hc : c.Reached) (hs : (e.eval c).1 = .ok s) :
    ∃ count : ℕ, count = total (s.members.map SuitLengths.choices) ∧ s.hands.encard = count ∧
      CardSet.allHands.encard = Nat.choose 52 handSize ∧
      count ≤ Nat.choose 52 handSize ∧ Nat.choose 52 handSize < 2 ^ 53 ∧
      s.probability = .ofRatio count (Nat.choose 52 handSize) ∧
      |s.probability.value - count / Nat.choose 52 handSize| ≤
        count / Nat.choose 52 handSize / 2 ^ 53 ∧
      Shape.all.probability.value = 1 := by
  have hhand := (represents_of_eval hc hs).isOfHand
  refine ⟨_, rfl, Shape.encard_hands hhand, CardSet.encard_allHands, Shape.total_choices_le hhand,
    Shape.choose_deck_lt, s.probability_eq, ?_, Shape.value_probability_all⟩
  have herror := Double.abs_value_ofRatio_sub_le
    (total (s.members.map SuitLengths.choices) : Nat) Shape.choose_deck_pos
  rwa [← s.probability_eq, Int.cast_natCast, Nat.abs_cast] at herror

/-- At the shape of a single distribution, four spades and three cards of each other suit: of
the hands about one in 38 is like that. -/
theorem probability_counts_hands_fourSpades :
    ∃ s : Shape, ShapeCache.Reached .new ∧
      ((tuples (Shape.rowsOfNumbers [⟨4, 3, 3, 3⟩])).eval .new).1 = .ok s ∧
      s.hands.encard = (16726464040 : ℕ) ∧
      s.probability = .ofRatio 16726464040 (Nat.choose 52 handSize) ∧
      |s.probability.value - 16726464040 / Nat.choose 52 handSize| ≤
        16726464040 / Nat.choose 52 handSize / 2 ^ 53 := by
  have hhands : ∀ l ∈ [(⟨4, 3, 3, 3⟩ : SuitLengths)], l.IsOfHand := by decide
  have heval : ((tuples (Shape.rowsOfNumbers [⟨4, 3, 3, 3⟩])).eval .new).1 =
      .ok (Shape.ofDistributions [⟨4, 3, 3, 3⟩]) := Shape.ofRows_rowsOfNumbers hhands
  have hlist : (Shape.ofDistributions [⟨4, 3, 3, 3⟩]).members = [⟨4, 3, 3, 3⟩] := by
    apply SuitLengths.eq_of_pairwise_precedes (Shape.pairwise_members _)
      (List.pairwise_singleton _ _)
    exact fun l => Shape.mem_ofDistributions fun m hm => (hhands m hm).isInTable
  have hcount : total ([⟨4, 3, 3, 3⟩].map SuitLengths.choices) = 16726464040 := by decide
  obtain ⟨count, hsum, hincluded, -, -, -, hshare, herror, -⟩ := probability_counts_hands .new heval
  rw [hlist, hcount] at hsum
  subst hsum
  exact ⟨_, .new, heval, hincluded, hshare, herror⟩

end ShapeExpr

end ContractBridge
