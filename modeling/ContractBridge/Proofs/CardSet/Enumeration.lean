/-
A set taken apart into its cards and put together again.

The list from the lowest card on and the list from the highest card on are made by two loops that
share no step: one isolates the lowest place by the number's negative, the other reads the leading
place off the width. What they share is what they list, and a list in strict order is known by its
entries (`ListsUp.unique`). So the one is the other read backwards (`toListDown_eq_reverse`), a bound
on the steps makes no difference once it reaches the number of cards (`climb_eq_toList`,
`descend_eq_reverse`), and the first and the last card are those that the two loops begin with.
-/
import ContractBridge.Proofs.CardSet.Climbing
import ContractBridge.Proofs.CardSet.Signs

set_option autoImplicit false

namespace ContractBridge.CardSet

variable {s : CardSet} {l m : List Card} {fuel : Nat}

/-! ## Lists in strict order -/

theorem ListsUp.unique (hl : ListsUp s l) (hm : ListsUp s m) : l = m := by
  have : Std.Irrefl fun c d : Card => c.offset < d.offset := ⟨fun c => Int.lt_irrefl c.offset⟩
  have : Std.Antisymm fun c d : Card => c.offset < d.offset :=
    ⟨fun _ _ hcd hdc => absurd hdc (Int.lt_asymm hcd)⟩
  refine hl.rising.eq_of_mem_iff hm.rising fun c => ?_
  rw [hl.mem_iff, hm.mem_iff]

theorem ListsDown.reverse (h : ListsDown s l) : ListsUp s l.reverse where
  mem_iff c := by rw [List.mem_reverse, h.mem_iff]
  rising := List.pairwise_reverse.2 h.falling

/-- A list of the cards has as many entries as the set has cards. -/
theorem ListsUp.length_eq (hs : s.IsFinite) (h : ListsUp s l) : s.size = l.length := by
  have hrising : (l.map Card.place).Pairwise (· < ·) := by
    refine List.pairwise_map.2 (h.rising.imp_of_mem fun {c d} hc hd hcd => ?_)
    obtain ⟨i, -, rfl⟩ := (h.mem_iff c).1 hc
    obtain ⟨j, -, rfl⟩ := (h.mem_iff d).1 hd
    exact Int.ofNat_lt.1 hcd
  have hplaces : ∀ i, s.has i = true ↔ i ∈ l.map Card.place := by
    intro i
    rw [List.mem_map]
    constructor
    · intro hi
      exact ⟨⟨i⟩, (h.mem_iff _).2 ⟨i, hi, rfl⟩, rfl⟩
    · rintro ⟨c, hc, rfl⟩
      obtain ⟨i, hi, rfl⟩ := (h.mem_iff c).1 hc
      exact hi
  rw [size_eq_length hs hrising.nodup hplaces, List.length_map]

/-! ## The two loops -/

/-- **The rising loop ends within as many steps as there are cards,** so that a higher bound on
them lists the same cards. -/
theorem climb_eq_toList (hs : s.IsFinite) (hfuel : s.size ≤ fuel) : climb fuel s.bits = s.toList :=
  (listsUp_climb hs hfuel).unique (listsUp_toList hs)

/-- **The falling loop ends within as many steps,** with the same cards the other way round. -/
theorem descend_eq_reverse (hs : s.IsFinite) (hfuel : s.size ≤ fuel) :
    descend fuel s.bits = s.toList.reverse :=
  List.reverse_eq_iff.1 ((listsDown_descend hs hfuel).reverse.unique (listsUp_toList hs))

theorem toListDown_eq_reverse (hs : s.IsFinite) : s.toListDown = s.toList.reverse :=
  List.reverse_eq_iff.1 ((listsDown_toListDown hs).reverse.unique (listsUp_toList hs))

/-- The rising loop begins with the lowest card. -/
theorem head?_climb (fuel : Nat) (s : CardSet) : (climb (fuel + 1) s.bits).head? = s.min? := by
  unfold climb min?
  split <;> rfl

/-- The falling loop begins with the card at the leading place. -/
theorem head?_descend (fuel : Nat) (s : CardSet) : (descend (fuel + 1) s.bits).head? = s.max? := by
  unfold descend max?
  split
  · rfl
  · next hbits =>
    have hwidth : Bits.width s.bits = s.bits.natAbs.log2 + 1 := if_neg hbits
    have hcard : ((Bits.width s.bits - 1 : Nat) : Int) = (Bits.width s.bits : Int) - 1 := by omega
    rw [List.head?_cons, hcard]

/-! ## First and last -/

theorem min?_eq_head? (hs : s.IsFinite) : s.min? = s.toList.head? := by
  rw [← head?_climb s.size, climb_eq_toList hs (Nat.le_succ _)]

theorem max?_eq_getLast? (hs : s.IsFinite) : s.max? = s.toList.getLast? := by
  rw [← head?_descend s.size, descend_eq_reverse hs (Nat.le_succ _), List.head?_reverse]

theorem min?_eq_none_iff : s.min? = none ↔ s = ∅ := by
  rw [← isEmpty_iff, isEmpty, beq_iff_eq, min?]
  split <;> simp [*]

theorem max?_eq_none_iff : s.max? = none ↔ s = ∅ := by
  rw [← isEmpty_iff, isEmpty, beq_iff_eq, max?]
  split <;> simp [*]

/-! ## The set of the cards listed -/

theorem ofCards_toList (hs : s.IsFinite) : ofCards s.toList = s := by
  apply ext
  intro i
  rw [Bool.eq_iff_iff, has_ofCards]
  constructor
  · rintro ⟨c, hc, rfl⟩
    obtain ⟨i, hi, rfl⟩ := ((listsUp_toList hs).mem_iff c).1 hc
    exact hi
  · intro hi
    exact ⟨⟨i⟩, ((listsUp_toList hs).mem_iff _).2 ⟨i, hi, rfl⟩, rfl⟩

/-- **A set that ends is listed completely, in order, and so that it can be told from its list.**
Both loops have ended after as many steps as it has cards. The first list holds the cards of the set
and no others, in strictly rising order, the second one the same cards the other way round, and
their number is the size. The lowest and the highest card are the first and the last of them, and
only the set of no card has neither. The set of the cards listed is the set itself. -/
theorem toList_enumerates (hs : s.IsFinite) :
    (∀ fuel, s.size ≤ fuel → climb fuel s.bits = s.toList ∧ descend fuel s.bits = s.toListDown) ∧
      (∀ c, c ∈ s.toList ↔ ∃ i, s.has i = true ∧ c = ⟨i⟩) ∧
      (s.toList.Pairwise fun c d => c.offset < d.offset) ∧
      s.toListDown = s.toList.reverse ∧
      s.size = s.toList.length ∧
      (s.min? = s.toList.head? ∧ (s.min? = none ↔ s = ∅)) ∧
      (s.max? = s.toList.getLast? ∧ (s.max? = none ↔ s = ∅)) ∧
      ofCards s.toList = s := by
  have hlists : ListsUp s s.toList := listsUp_toList hs
  have hreverse : s.toListDown = s.toList.reverse := toListDown_eq_reverse hs
  refine ⟨fun fuel hfuel => ⟨climb_eq_toList hs hfuel, ?_⟩, hlists.mem_iff, hlists.rising, hreverse,
    hlists.length_eq hs, ⟨min?_eq_head? hs, min?_eq_none_iff⟩,
    ⟨max?_eq_getLast? hs, max?_eq_none_iff⟩, ofCards_toList hs⟩
  rw [hreverse]
  exact descend_eq_reverse hs hfuel

/-- At the two and the ace of spades and a card beyond the deck. -/
theorem toList_enumerates_beyondDeck :
    (⟨0x400000000000004004⟩ : CardSet).IsFinite ∧
      climb 100 0x400000000000004004 = [⟨2⟩, ⟨14⟩, ⟨70⟩] ∧
      descend 100 0x400000000000004004 = [⟨70⟩, ⟨14⟩, ⟨2⟩] ∧
      (⟨0x400000000000004004⟩ : CardSet).size = 3 ∧
      (⟨0x400000000000004004⟩ : CardSet).min? = some ⟨2⟩ ∧
      (⟨0x400000000000004004⟩ : CardSet).max? = some ⟨70⟩ ∧
      ofCards [⟨2⟩, ⟨14⟩, ⟨70⟩] = ⟨0x400000000000004004⟩ := by
  have hs : (⟨0x400000000000004004⟩ : CardSet).IsFinite := by decide
  have hlist : (⟨0x400000000000004004⟩ : CardSet).toList = [⟨2⟩, ⟨14⟩, ⟨70⟩] := by decide
  have hsize : (⟨0x400000000000004004⟩ : CardSet).size ≤ 100 := by decide
  obtain ⟨hends, -, -, hreverse, hlength, hmin, hmax, hcards⟩ := toList_enumerates hs
  rw [hlist] at hends hreverse hlength hmin hmax hcards
  rw [hreverse] at hends
  exact ⟨hs, (hends 100 hsize).1, (hends 100 hsize).2, hlength, hmin.1, hmax.1, hcards⟩

end ContractBridge.CardSet
