/-
What a draw gives.

A draw moves cards out of the undecided part of a set, into the given part or the kept part, and
counts down how many are still wanted. `Draw.Splits` is what every mask preserves: the three parts
make up the set, the counts are right, and there are always enough undecided cards for those still
wanted. At the end nothing is wanted, so a draw of `n` cards gives `n` cards of the set and leaves
the others, whatever the masks were.

The second half says which masks a draw takes, in terms of the machine that it is.
-/
import ContractBridge.CardSet.Draw
import ContractBridge.Proofs.MaskSource
import ContractBridge.Proofs.CardSet.Places

set_option autoImplicit false

namespace ContractBridge

variable {s : CardSet} {n : Nat}

namespace Draw

/-! ## The invariant -/

/-- **A draw of `n` cards from a set, somewhere between its start and its end.** -/
structure Splits (s : CardSet) (n : Nat) (d : Draw) : Prop where
  given_imp : ∀ i, d.given.has i = true → s.has i = true
  kept_imp : ∀ i, d.kept.has i = true → s.has i = true ∧ d.given.has i = false
  undecided_eq : d.undecided = (s \ d.given) \ d.kept
  left_eq : d.left = d.undecided.size
  given_size : d.given.size + d.wanted = n
  wanted_le : d.wanted ≤ d.left

theorem splits_start (h : n ≤ s.size) : Splits s n (start s n) where
  given_imp i hi := by
    rw [start, CardSet.has_empty] at hi
    cases hi
  kept_imp i hi := by
    rw [start, CardSet.has_empty] at hi
    cases hi
  undecided_eq := by
    apply CardSet.ext
    intro i
    simp only [start, CardSet.has_diff, CardSet.has_empty, Bool.not_false, Bool.and_true]
  left_eq := rfl
  given_size := by rw [start, CardSet.size_empty, Nat.zero_add]
  wanted_le := h

variable {d : Draw} {c : CardSet}

theorem Splits.undecided_imp (h : Splits s n d) {i : Nat} (hi : d.undecided.has i = true) :
    s.has i = true ∧ d.given.has i = false ∧ d.kept.has i = false := by
  rw [h.undecided_eq, CardSet.has_diff, CardSet.has_diff, Bool.and_eq_true, Bool.and_eq_true,
    Bool.not_eq_true', Bool.not_eq_true'] at hi
  exact ⟨hi.1.1, hi.1.2, hi.2⟩

/-- The undecided cards without a part of them, which is `left` without its size. -/
theorem Splits.left_sub (hs : s.IsFinite) (h : Splits s n d)
    (hc : ∀ i, c.has i = true → d.undecided.has i = true) :
    d.left - c.size = (d.undecided \ c).size := by
  have hfinite : d.undecided.IsFinite := hs.of_has_imp fun i hi => (h.undecided_imp hi).1
  have hdiff := CardSet.size_diff_add hfinite hc
  have hleft := h.left_eq
  omega

/-- Undecided cards that fit are given. -/
theorem Splits.give (hs : s.IsFinite) (h : Splits s n d)
    (hc : ∀ i, c.has i = true → d.undecided.has i = true) (hk : c.size ≤ d.wanted) :
    Splits s n { d with undecided := d.undecided \ c, given := d.given ∪ c,
                        left := d.left - c.size, wanted := d.wanted - c.size } := by
  -- what is given is not undecided any more, so no card is counted twice
  have happart : ∀ i, d.given.has i = true → c.has i = false := by
    intro i hi
    rw [← Bool.not_eq_true]
    intro hic
    rw [(h.undecided_imp (hc i hic)).2.1] at hi
    cases hi
  have hsize : (d.given ∪ c).size = d.given.size + c.size := by
    apply CardSet.size_union (hs.of_has_imp h.given_imp) _ happart
    exact hs.of_has_imp fun i hi => (h.undecided_imp (hc i hi)).1
  have hgiven := h.given_size
  have hwanted := h.wanted_le
  refine ⟨?_, ?_, ?_, h.left_sub hs hc, ?_, ?_⟩
  · intro i hi
    rw [CardSet.has_union, Bool.or_eq_true] at hi
    rcases hi with hi | hi
    · exact h.given_imp i hi
    · exact (h.undecided_imp (hc i hi)).1
  · intro i hi
    refine ⟨(h.kept_imp i hi).1, ?_⟩
    rw [CardSet.has_union, (h.kept_imp i hi).2, Bool.false_or, ← Bool.not_eq_true]
    intro hic
    rw [(h.undecided_imp (hc i hic)).2.2] at hi
    cases hi
  · show d.undecided \ c = (s \ (d.given ∪ c)) \ d.kept
    apply CardSet.ext
    intro i
    rw [h.undecided_eq]
    simp only [CardSet.has_diff, CardSet.has_union, Bool.not_or, Bool.and_assoc]
    rw [Bool.and_comm (!d.kept.has i)]
  · show (d.given ∪ c).size + (d.wanted - c.size) = n
    omega
  · show d.wanted - c.size ≤ d.left - c.size
    omega

/-- Undecided cards that are not needed are kept. -/
theorem Splits.keep (hs : s.IsFinite) (h : Splits s n d)
    (hc : ∀ i, c.has i = true → d.undecided.has i = true) (hk : c.size + d.wanted ≤ d.left) :
    Splits s n { d with undecided := d.undecided \ c, kept := d.kept ∪ c,
                        left := d.left - c.size } := by
  refine ⟨h.given_imp, ?_, ?_, h.left_sub hs hc, h.given_size, ?_⟩
  · intro i hi
    rw [CardSet.has_union, Bool.or_eq_true] at hi
    rcases hi with hi | hi
    · exact h.kept_imp i hi
    · have hic := h.undecided_imp (hc i hi)
      exact ⟨hic.1, hic.2.1⟩
  · show d.undecided \ c = (s \ d.given) \ (d.kept ∪ c)
    apply CardSet.ext
    intro i
    rw [h.undecided_eq]
    simp only [CardSet.has_diff, CardSet.has_union, Bool.not_or, Bool.and_assoc]
  · show d.wanted ≤ d.left - c.size
    omega

/-- **A mask preserves the invariant,** whatever cards it chooses. -/
theorem Splits.step (hs : s.IsFinite) (h : Splits s n d) (mask : Int) :
    Splits s n (d.step mask) := by
  have hchosen : ∀ i, (⟨mask⟩ ∩ d.undecided : CardSet).has i = true →
      d.undecided.has i = true := by
    intro i hi
    rw [CardSet.has_inter, Bool.and_eq_true] at hi
    exact hi.2
  -- no card chosen, cards given, cards kept, mask passed over
  simp only [Draw.step]
  split
  · exact h
  · split
    · exact h.give hs hchosen ‹_›
    · split
      · exact h.keep hs hchosen ‹_›
      · exact h

theorem Splits.of_feeds {used : List Int} {e : Draw} (hs : s.IsFinite) (h : Splits s n d)
    (hfeeds : MaskSource.Feeds isDone Draw.step d used e) : Splits s n e := by
  induction hfeeds with
  | done _ => exact h
  | step _ _ ih => exact ih (h.step hs _)

/-! ## The end -/

/-- At the end nothing is wanted: either the count says so, or no card is undecided. -/
theorem Splits.wanted_eq_zero (h : Splits s n d) (hdone : d.isDone = true) : d.wanted = 0 := by
  rw [isDone, Bool.or_eq_true, beq_iff_eq, beq_iff_eq] at hdone
  have hwanted := h.wanted_le
  omega

/-- What stays in the set is what was not given. -/
theorem Splits.remainder_eq (hs : s.IsFinite) (h : Splits s n d) : d.remainder = s \ d.given := by
  have hunion : d.kept ∪ d.undecided = s \ d.given := by
    apply CardSet.ext
    intro i
    rw [h.undecided_eq, CardSet.has_union, CardSet.has_diff]
    cases hi : d.kept.has i with
    | false => rw [Bool.false_or, Bool.not_false, Bool.and_true]
    | true =>
      rw [CardSet.has_diff, (h.kept_imp i hi).1, (h.kept_imp i hi).2]
      rfl
  unfold remainder
  split
  · rename_i hleft
    -- no card is undecided, so the kept ones are all that was not given
    have hfinite : d.undecided.IsFinite := hs.of_has_imp fun i hi => (h.undecided_imp hi).1
    have hnone : d.undecided = ∅ := by
      rw [← CardSet.size_eq_zero_iff hfinite, ← h.left_eq]
      exact hleft
    rw [← hunion, hnone]
    apply CardSet.ext
    intro i
    rw [CardSet.has_union, CardSet.has_empty, Bool.or_false]
  · exact hunion

end Draw

/-- **`n` cards of a set, and the others.** -/
structure Drawn.IsOf (drawn : Drawn) (s : CardSet) (n : Nat) : Prop where
  given_imp : ∀ i, drawn.given.has i = true → s.has i = true
  given_size : drawn.given.size = n
  rest_eq : drawn.rest = s \ drawn.given

section IsOf

variable {drawn : Drawn}

theorem Drawn.IsOf.rest_isFinite (hs : s.IsFinite) (h : drawn.IsOf s n) : drawn.rest.IsFinite := by
  rw [h.rest_eq]
  exact hs.diff

/-- What is drawn is gone. -/
theorem Drawn.IsOf.size_rest_add (hs : s.IsFinite) (h : drawn.IsOf s n) :
    drawn.rest.size + n = s.size := by
  rw [h.rest_eq, ← h.given_size]
  exact CardSet.size_diff_add hs h.given_imp

/-- **All cards of a set are drawn in one way only.** -/
theorem Drawn.IsOf.given_eq (hs : s.IsFinite) (h : drawn.IsOf s s.size) : drawn.given = s :=
  CardSet.eq_of_subset_of_size_le hs h.given_imp (Nat.le_of_eq h.given_size.symm)

end IsOf

namespace CardSet

open Drawing MaskSource

variable {drawn : Drawn} {used : List Int}

/-! ## The masks of a draw -/

theorem drawFrom_eq_ok_iff {src rest : MaskSource} : s.drawFrom n src = .ok drawn rest ↔
    ∃ used d, Yields src used rest ∧ Feeds Draw.isDone Draw.step (.start s n) used d ∧
      drawn = ⟨d.given, d.remainder⟩ := by
  simp only [drawFrom]
  generalize hfeed : src.feed Draw.isDone Draw.step (.start s n) = final
  obtain ⟨d, mid⟩ := final
  constructor
  · intro h
    cases hdone : d.isDone with
    | false =>
      rw [hdone] at h
      cases h
    | true =>
      rw [hdone] at h
      cases h
      obtain ⟨used, hyields, hfeeds⟩ := feed_eq_iff.1 ⟨hfeed, hdone⟩
      exact ⟨used, d, hyields, hfeeds, rfl⟩
  · rintro ⟨used, e, hyields, hfeeds, rfl⟩
    obtain ⟨hfeed', hdone⟩ := feed_eq_iff.2 ⟨used, hyields, hfeeds⟩
    rw [hfeed] at hfeed'
    cases hfeed'
    rw [hdone]
    rfl

theorem isLocal_drawFrom : IsLocal (s.drawFrom n) := by
  intro src drawn rest h
  obtain ⟨used, d, hyields, hfeeds, rfl⟩ := drawFrom_eq_ok_iff.1 h
  refine ⟨used, hyields, ?_⟩
  intro src rest hyields
  exact drawFrom_eq_ok_iff.2 ⟨used, d, hyields, hfeeds, rfl⟩

theorem takes_drawFrom_iff : Takes (s.drawFrom n) used drawn ↔
    ∃ d, Feeds Draw.isDone Draw.step (.start s n) used d ∧ drawn = ⟨d.given, d.remainder⟩ := by
  constructor
  · intro h
    obtain ⟨src, rest, hyields⟩ := exists_yields used
    obtain ⟨used', d, hyields', hfeeds, hdrawn⟩ := drawFrom_eq_ok_iff.1 (h hyields)
    rw [hyields.eq hyields']
    exact ⟨d, hfeeds, hdrawn⟩
  · rintro ⟨d, hfeeds, hdrawn⟩ src rest hyields
    exact drawFrom_eq_ok_iff.2 ⟨used, d, hyields, hfeeds, hdrawn⟩

theorem drawFrom_eq_error {src rest : MaskSource} {e : Error}
    (h : s.drawFrom n src = .error e rest) : e = .sourceExhausted ∧ rest.size = 0 := by
  simp only [drawFrom] at h
  generalize hfeed : src.feed Draw.isDone Draw.step (.start s n) = final at h
  obtain ⟨d, mid⟩ := final
  cases hdone : d.isDone with
  | true =>
    rw [hdone] at h
    cases h
  | false =>
    rw [hdone] at h
    cases h
    exact ⟨rfl, size_eq_zero_of_feed hfeed hdone⟩

theorem checkDraw_cases (s : CardSet) (n : Int) :
    n < 0 ∧ s.checkDraw n = .error (.negativeDraw n) ∨
    (s.size : Int) < n ∧ s.checkDraw n = .error (.notEnoughCards n s.size) ∨
    0 ≤ n ∧ n ≤ s.size ∧ s.checkDraw n = .ok n.toNat := by
  unfold checkDraw
  split
  · exact .inl ⟨‹_›, rfl⟩
  · split
    · exact .inr (.inl ⟨‹_›, rfl⟩)
    · exact .inr (.inr ⟨by omega, by omega, rfl⟩)

/-- A number of cards that is there is drawn as it is. -/
theorem draw_of_le (h : n ≤ s.size) : s.draw n = s.drawFrom n := by
  rcases checkDraw_cases s n with ⟨hneg, -⟩ | ⟨hmany, -⟩ | ⟨-, -, hcheck⟩
  · omega
  · omega
  · rw [draw, hcheck]
    rfl

theorem draw_eq (s : CardSet) (n : Int) :
    (∃ e, s.draw n = throw e) ∨ ∃ k : Nat, n = k ∧ k ≤ s.size ∧ s.draw n = s.drawFrom k := by
  rcases checkDraw_cases s n with ⟨-, hcheck⟩ | ⟨-, hcheck⟩ | ⟨hnonneg, hle, -⟩
  · exact .inl ⟨.negativeDraw n, by rw [draw, hcheck]⟩
  · exact .inl ⟨.notEnoughCards n s.size, by rw [draw, hcheck]⟩
  · obtain ⟨k, rfl⟩ := Int.eq_ofNat_of_zero_le hnonneg
    have hk : k ≤ s.size := by omega
    exact .inr ⟨k, rfl, hk, draw_of_le hk⟩

theorem isLocal_draw (n : Int) : IsLocal (s.draw n) := by
  obtain ⟨e, h⟩ | ⟨k, -, -, h⟩ := draw_eq s n
  · rw [h]
    exact isLocal_throw e
  · rw [h]
    exact isLocal_drawFrom

theorem draw_eq_error {src rest : MaskSource} {e : Error} {n : Int}
    (h : s.draw n src = .error e rest) :
    e = .negativeDraw n ∨ e = .notEnoughCards n s.size ∨ e = .sourceExhausted := by
  rcases checkDraw_cases s n with ⟨-, hcheck⟩ | ⟨-, hcheck⟩ | ⟨-, -, hcheck⟩
  · rw [draw, hcheck] at h
    cases h
    exact .inl rfl
  · rw [draw, hcheck] at h
    cases h
    exact .inr (.inl rfl)
  · rw [draw, hcheck] at h
    exact .inr (.inr (drawFrom_eq_error h).1)

/-- **A draw of `n` cards gives `n` cards of the set and leaves the others.** -/
theorem isOf_of_draw {src rest : MaskSource} (hs : s.IsFinite)
    (h : s.draw n src = .ok drawn rest) : drawn.IsOf s n := by
  obtain ⟨e, hdraw⟩ | ⟨k, hk, hsize, hdraw⟩ := draw_eq s n
  · rw [hdraw] at h
    cases h
  · obtain rfl : n = k := Int.ofNat.inj hk
    rw [hdraw] at h
    obtain ⟨used, d, -, hfeeds, rfl⟩ := drawFrom_eq_ok_iff.1 h
    have hsplits : d.Splits s n := (Draw.splits_start hsize).of_feeds hs hfeeds
    refine ⟨hsplits.given_imp, ?_, hsplits.remainder_eq hs⟩
    have hwanted := hsplits.wanted_eq_zero hfeeds.isDone
    have hgiven := hsplits.given_size
    show d.given.size = n
    omega

/-- The set that a draw leaves has fewer cards by what was drawn. -/
theorem rest_of_draw {src rest : MaskSource} (hs : s.IsFinite)
    (h : s.draw n src = .ok drawn rest) : drawn.rest.IsFinite ∧ drawn.rest.size + n = s.size :=
  ⟨(isOf_of_draw hs h).rest_isFinite hs, (isOf_of_draw hs h).size_rest_add hs⟩

/-- **Cards that are there can be drawn,** if there are masks enough. -/
theorem meets_draw_of_le (hs : s.IsFinite) (h : n ≤ s.size) :
    Meets (s.draw n) (fun drawn => drawn.IsOf s n)
      fun e rest => e = .sourceExhausted ∧ rest.size = 0 := by
  intro src
  split
  · exact isOf_of_draw hs ‹_›
  · rename_i e rest hrun
    rw [draw_of_le h] at hrun
    exact drawFrom_eq_error hrun

theorem isOf_of_takes (hs : s.IsFinite) (h : Takes (s.draw n) used drawn) : drawn.IsOf s n := by
  obtain ⟨src, rest, hyields⟩ := exists_yields used
  exact isOf_of_draw hs (h hyields)

end CardSet

end ContractBridge
