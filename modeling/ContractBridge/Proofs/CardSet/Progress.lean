/-
When a draw comes to its end.

A mask may be wasted on a draw: it chooses no undecided card, or so many that they can be neither
given nor kept. So the number of masks is no measure, and there are runs of any length that never
end. Two things hold of every run all the same. A mask that changes the draw decides a card at least,
so no more masks change it than there are cards (`changes_add_left_le`). And a mask that offers one
undecided card is never wasted: as long as the draw goes on a card is wanted, and the one card fits
(`undecided_step_single`). No mask makes a card undecided again. So once each card has been offered
alone, in any order and with any other masks in between, the draw is done (`isDone_after`).

The masks that a draw in place takes are the first of its script, and the changes are counted among
these (`takeOut_takes`).
-/
import ContractBridge.Proofs.CardSet.Listing
import ContractBridge.Proofs.CardSet.TakingOut

set_option autoImplicit false

namespace ContractBridge

open MaskSource

variable {s : CardSet} {n : Nat}

namespace Draw

variable {d : Draw} {mask : Int} {masks : List Int} {i : Nat}

/-! ## Runs -/

/-- The draw after some masks, of which it takes none once it is done. -/
def after : Draw → List Int → Draw
  | d, [] => d
  | d, mask :: masks => if d.isDone then d else after (d.step mask) masks

/-- **How many masks of a list change the draw,** of those that it takes. -/
def changes : Draw → List Int → Nat
  | _, [] => 0
  | d, mask :: masks =>
    if d.isDone then 0 else (if d.step mask = d then 0 else 1) + changes (d.step mask) masks

/-- Once a draw is done, nothing changes it. -/
theorem changes_of_isDone (h : d.isDone = true) (masks : List Int) : d.changes masks = 0 := by
  cases masks with
  | nil => rfl
  | cons mask masks => exact if_pos h

/-- **The masks of a script that are fed to a draw** are the first ones. They bring it where all
masks of the script bring it, and all changes are made by them. -/
theorem feed_script (d : Draw) (masks : List Int) (taken : Option Nat) : ∃ used unused,
    masks = used ++ unused ∧ d.after masks = d.after used ∧ d.changes masks = d.changes used ∧
      feed isDone step ⟨.script masks, taken⟩ d =
        (d.after used, ⟨.script unused, taken.map (· + used.length)⟩) := by
  induction masks generalizing d taken with
  | nil =>
    refine ⟨[], [], rfl, rfl, rfl, (feed_of_empty rfl).trans ?_⟩
    cases taken <;> rfl
  | cons mask masks ih =>
    by_cases hdone : d.isDone = true
    · refine ⟨[], mask :: masks, rfl, if_pos hdone, if_pos hdone, (feed_of_done hdone).trans ?_⟩
      cases taken <;> rfl
    · obtain ⟨used, unused, rfl, hafter, hchanges, hfeed⟩ := ih (d.step mask) (taken.map (· + 1))
      refine ⟨mask :: used, unused, rfl, ?_, ?_, ?_⟩
      · simp only [after, hdone, hafter, if_false, Bool.false_eq_true]
      · simp only [changes, hdone, hchanges, if_false, Bool.false_eq_true]
      · rw [feed_of_next (Bool.eq_false_iff.2 hdone) rfl, hfeed, after, if_neg hdone, Option.map_map]
        simp only [List.length_cons, Function.comp_def, Nat.add_assoc, Nat.add_comm 1]

/-! ## One mask -/

/-- All that a mask can do: nothing, or it chooses undecided cards, which are given or kept. -/
theorem step_cases (d : Draw) (mask : Int) :
    d.step mask = d ∨ ∃ c : CardSet, c = ⟨mask⟩ ∩ d.undecided ∧ c ≠ ∅ ∧
      (d.step mask).undecided = d.undecided \ c ∧ (d.step mask).left = d.left - c.size := by
  simp only [step]
  split
  · exact .inl rfl
  · rename_i hsome
    rw [CardSet.isEmpty_iff] at hsome
    split
    · exact .inr ⟨_, rfl, hsome, rfl, rfl⟩
    · split
      · exact .inr ⟨_, rfl, hsome, rfl, rfl⟩
      · exact .inl rfl

/-- No mask makes a card undecided again. -/
theorem undecided_of_step (h : (d.step mask).undecided.has i = true) :
    d.undecided.has i = true := by
  rcases step_cases d mask with hstep | ⟨c, -, -, hundecided, -⟩
  · rwa [hstep] at h
  · rw [hundecided, CardSet.has_diff, Bool.and_eq_true] at h
    exact h.1

/-- A mask that changes a draw decides a card. -/
theorem Splits.left_step_lt (hs : s.IsFinite) (h : Splits s n d) (hne : d.step mask ≠ d) :
    (d.step mask).left < d.left := by
  rcases step_cases d mask with hstep | ⟨c, rfl, hsome, -, hleft⟩
  · exact absurd hstep hne
  · have hfinite : d.undecided.IsFinite := hs.of_has_imp fun j hj => (h.undecided_imp hj).1
    have hchosen : ∀ j, (⟨mask⟩ ∩ d.undecided : CardSet).has j = true →
        d.undecided.has j = true := by
      intro j hj
      rw [CardSet.has_inter, Bool.and_eq_true] at hj
      exact hj.2
    have hpos := mt (CardSet.size_eq_zero_iff (hfinite.of_has_imp hchosen)).1 hsome
    have hle := CardSet.size_le_of_has_imp hfinite hchosen
    rw [← h.left_eq] at hle
    omega

/-- **A card that is offered alone is decided,** as long as the draw goes on. -/
theorem undecided_step_single (hdone : d.isDone = false) (hi : d.undecided.has i = true) :
    (d.step (Bits.bit i)).undecided.has i = false := by
  have hchosen : (⟨Bits.bit i⟩ ∩ d.undecided : CardSet) = .single i := by
    apply CardSet.ext
    intro j
    rw [CardSet.has_inter, show (⟨Bits.bit i⟩ : CardSet) = .single i from rfl, CardSet.has_single]
    by_cases hij : i = j
    · rw [← hij, hi, decide_eq_true rfl, Bool.and_true]
    · rw [decide_eq_false hij, Bool.false_and]
  have hsome : (CardSet.single i).isEmpty = false := by
    rw [← Bool.not_eq_true, CardSet.isEmpty_iff]
    intro hnone
    have hsize := CardSet.size_single i
    rw [hnone, CardSet.size_empty] at hsize
    cases hsize
  -- a card is wanted, or the draw would be done
  have hwanted : 1 ≤ d.wanted := by
    rw [isDone, Bool.or_eq_false_iff, beq_eq_false_iff_ne, beq_eq_false_iff_ne] at hdone
    omega
  simp only [step, hchosen, hsome, CardSet.size_single, hwanted, if_true, Bool.false_eq_true,
    if_false, CardSet.has_diff, CardSet.has_single, decide_true, Bool.not_true, Bool.and_false]

/-! ## Many masks -/

/-- **Each change is paid for by a decided card.** -/
theorem Splits.changes_add_left_le (hs : s.IsFinite) (h : Splits s n d) (masks : List Int) :
    d.changes masks + (d.after masks).left ≤ d.left := by
  induction masks generalizing d with
  | nil => exact Nat.le_of_eq (Nat.zero_add _)
  | cons mask masks ih =>
    rw [changes, after]
    split
    · exact Nat.le_of_eq (Nat.zero_add _)
    · have htail := ih (h.step hs mask)
      split
      · rename_i hsame
        rw [hsame] at htail ⊢
        omega
      · rename_i hne
        have hlt := h.left_step_lt hs hne
        omega

/-- **A draw is done after masks that offer each undecided card alone.** -/
theorem Splits.isDone_after (hs : s.IsFinite) (h : Splits s n d)
    (hall : ∀ i, d.undecided.has i = true → Bits.bit i ∈ masks) : (d.after masks).isDone = true := by
  induction masks generalizing d with
  | nil =>
    -- nothing was offered, so nothing is undecided
    have hfinite : d.undecided.IsFinite := hs.of_has_imp fun i hi => (h.undecided_imp hi).1
    have hnone : d.undecided = ∅ := by
      apply CardSet.ext
      intro i
      rw [CardSet.has_empty, ← Bool.not_eq_true]
      exact fun hi => absurd (hall i hi) List.not_mem_nil
    have hleft : d.left = 0 := by
      rw [h.left_eq]
      exact (CardSet.size_eq_zero_iff hfinite).2 hnone
    rw [after, isDone, hleft]
    rfl
  | cons mask masks ih =>
    rw [after]
    split
    · assumption
    · rename_i hdone
      rw [Bool.not_eq_true] at hdone
      refine ih (h.step hs mask) fun i hi => ?_
      -- a card that is still undecided was not the one just offered
      have hbefore := undecided_of_step hi
      rcases List.mem_cons.1 (hall i hbefore) with hmask | hlater
      · rw [← hmask, undecided_step_single hdone hbefore] at hi
        cases hi
      · exact hlater

end Draw

namespace CardSet

/-- **What a draw on a script does, and the masks that it takes.** -/
theorem drawWith_script (hn : n ≤ s.size) (masks : List Int) : ∃ used unused,
    masks = used ++ unused ∧ (Draw.start s n).after masks = (Draw.start s n).after used ∧
      (Draw.start s n).changes masks = (Draw.start s n).changes used ∧
      s.drawWith n (.given (.ofScript masks)) =
        (if ((Draw.start s n).after used).isDone then
          .ok ⟨((Draw.start s n).after used).given, ((Draw.start s n).after used).remainder⟩
        else .error .sourceExhausted, some used.length) := by
  have hcheck : s.checkDraw n = .ok n := by
    rcases checkDraw_cases s n with ⟨hneg, -⟩ | ⟨hmany, -⟩ | ⟨-, -, hcheck⟩
    · omega
    · omega
    · exact hcheck
  obtain ⟨used, unused, hmasks, hafter, hchanges, hfeed⟩ :=
    Draw.feed_script (.start s n) masks (some 0)
  refine ⟨used, unused, hmasks, hafter, hchanges, ?_⟩
  simp only [drawWith, hcheck, SourceSetting.resolve, drawFrom, ofScript, hfeed]
  cases ((Draw.start s n).after used).isDone <;> simp

/-- A draw that its masks bring to an end ends well. -/
theorem exists_takeOut_of_isDone (hs : s.IsFinite) (hn : n ≤ s.size) {masks : List Int}
    (h : ((Draw.start s n).after masks).isDone = true) :
    ∃ given, takeOut n (.given (.ofScript masks)) s = .ok given (s \ given) ∧
      (given.size : Int) = n ∧ given.subset s = true := by
  obtain ⟨used, unused, -, hafter, -, hdraw⟩ := drawWith_script hn masks
  rw [hafter] at h
  rw [h, if_pos rfl] at hdraw
  rcases takeOut_cases s n (.given (.ofScript masks)) with ⟨drawn, hok, htake⟩ | ⟨_, hfails, -⟩
  · obtain ⟨k, hk, hof⟩ := isOf_of_drawWith hs hok
    rw [hof.rest_eq] at htake
    exact ⟨_, htake, by rw [hof.given_size, hk], subset_iff.2 hof.given_imp⟩
  · rw [hdraw] at hfails
    cases hfails

/-- A negative number is refused, and the masks are not looked at. -/
theorem takeOut_of_neg {m : Int} (hneg : m < 0) (setting : SourceSetting) :
    takeOut m setting s = .error (.negativeDraw m) s := by
  rcases takeOut_cases s m setting with ⟨_, hok, -⟩ | ⟨e, hfails, htake⟩
  · cases (drawWith_eq_error_iff.2 (.negative hneg)).symm.trans hok
  · cases (drawWith_eq_error_iff.2 (.negative hneg)).symm.trans hfails
    exact htake

/-- **The masks that a draw in place takes** are the first ones. They alone change the draw, and
what is given is what they give. -/
theorem takeOut_takes {m : Int} (hm : m ≤ s.size) (masks : List Int) : ∃ used unused,
    masks = used ++ unused ∧
      (s.drawWith m (.given (.ofScript masks))).2 = some used.length ∧
      (∀ given rest, takeOut m (.given (.ofScript masks)) s = .ok given rest →
        given = ((Draw.start s m.toNat).after used).given) ∧
      (Draw.start s m.toNat).changes masks = (Draw.start s m.toNat).changes used := by
  rcases Int.lt_or_le m 0 with hneg | hnonneg
  · have hdone : (Draw.start s m.toNat).isDone = true := by
      rw [Int.toNat_of_nonpos hneg.le, Draw.isDone, Bool.or_eq_true]
      exact .inr rfl
    refine ⟨[], masks, rfl, ?_, fun given rest htake => ?_, Draw.changes_of_isDone hdone masks⟩
    · rw [drawWith, checkDraw, if_pos hneg]
      rfl
    · cases (takeOut_of_neg hneg _).symm.trans htake
  · lift m to Nat using hnonneg
    have hle : m ≤ s.size := by omega
    obtain ⟨used, unused, hmasks, -, hchanges, hdraw⟩ := drawWith_script hle masks
    refine ⟨used, unused, hmasks, by rw [hdraw], fun given rest htake => ?_, hchanges⟩
    rcases takeOut_cases s m (.given (.ofScript masks)) with ⟨drawn, hok, htake'⟩ | ⟨_, -, hfails⟩
    · cases htake'.symm.trans htake
      rw [hdraw] at hok
      split at hok
      · cases hok
        rfl
      · cases hok
    · cases hfails.symm.trans htake

/-- **A draw ends once each card has been offered alone,** unless its number is negative. The masks
may come in any order, with any others in between, and the draw that ends gives cards of the set, as
many as were asked for. Whatever the masks are, those that the draw takes are the first of them, and
no more of them change it than the set has cards. -/
theorem takeOut_ends_of_offered (hs : s.IsFinite) {m : Int} (hm : m ≤ s.size) (masks : List Int) :
    ((∀ i, s.has i = true → Bits.bit i ∈ masks) →
      (∃ given, takeOut m (.given (.ofScript masks)) s = .ok given (s \ given) ∧
          (given.size : Int) = m ∧ given.subset s = true) ∨
        m < 0 ∧ takeOut m (.given (.ofScript masks)) s = .error (.negativeDraw m) s) ∧
    (∃ used unused, masks = used ++ unused ∧
      (s.drawWith m (.given (.ofScript masks))).2 = some used.length ∧
      (∀ given rest, takeOut m (.given (.ofScript masks)) s = .ok given rest →
        given = ((Draw.start s m.toNat).after used).given) ∧
      (Draw.start s m.toNat).changes masks = (Draw.start s m.toNat).changes used) ∧
    (Draw.start s m.toNat).changes masks ≤ s.size := by
  have hstart : Draw.Splits s m.toNat (.start s m.toNat) := Draw.splits_start (by omega)
  refine ⟨fun hall => ?_, takeOut_takes hm masks, ?_⟩
  · rcases Int.lt_or_le m 0 with hneg | hnonneg
    · exact .inr ⟨hneg, takeOut_of_neg hneg _⟩
    · lift m to Nat using hnonneg
      exact .inl (exists_takeOut_of_isDone hs (by omega) (hstart.isDone_after hs hall))
  · have hle := hstart.changes_add_left_le hs masks
    have hleft : (Draw.start s m.toNat).left = s.size := rfl
    omega

/-- Two cards out of the king and ace of spades and the ace of clubs, places 13, 14 and 62. The
first mask chooses none of the three and the second all of them, which do not fit, so both change
nothing; then each card is offered alone, and the last one is not needed. -/
theorem takeOut_ends_of_offered_aces :
    (⟨0x4000000000006000⟩ : CardSet).IsFinite ∧
    (2 : Int) ≤ (⟨0x4000000000006000⟩ : CardSet).size ∧
    (∃ given, takeOut 2 (.given (.ofScript
      [1, 0x7fffffffffffffff, Bits.bit 62, Bits.bit 13, Bits.bit 14])) ⟨0x4000000000006000⟩ =
        .ok given (⟨0x4000000000006000⟩ \ given) ∧
      (given.size : Int) = 2 ∧ given.subset ⟨0x4000000000006000⟩ = true) ∧
    (∃ used unused,
      [1, 0x7fffffffffffffff, Bits.bit 62, Bits.bit 13, Bits.bit 14] = used ++ unused ∧
      used.length = 4 ∧ (Draw.start ⟨0x4000000000006000⟩ 2).changes used ≤ 3) := by
  have hs : (⟨0x4000000000006000⟩ : CardSet).IsFinite := by decide
  have hn : (2 : Int) ≤ (⟨0x4000000000006000⟩ : CardSet).size := by decide
  have hcards : (⟨0x4000000000006000⟩ : CardSet) = (.single 13 ∪ .single 14) ∪ .single 62 := by
    decide
  have hoffered : ∀ i, (⟨0x4000000000006000⟩ : CardSet).has i = true →
      Bits.bit i ∈ [1, 0x7fffffffffffffff, Bits.bit 62, Bits.bit 13, Bits.bit 14] := by
    intro i hi
    rw [hcards, has_union, has_union, has_single, has_single, has_single, Bool.or_eq_true,
      Bool.or_eq_true, decide_eq_true_iff, decide_eq_true_iff, decide_eq_true_iff] at hi
    rcases hi with (rfl | rfl) | rfl <;> simp only [List.mem_cons, true_or, or_true]
  obtain ⟨hends, ⟨used, unused, hmasks, htaken, -, hused⟩, hchanges⟩ :=
    takeOut_ends_of_offered hs hn [1, 0x7fffffffffffffff, Bits.bit 62, Bits.bit 13, Bits.bit 14]
  rw [hused] at hchanges
  have hfour : used.length = 4 := Option.some.inj (htaken.symm.trans (by decide +kernel))
  rcases hends hoffered with htakes | ⟨hneg, -⟩
  · exact ⟨hs, hn, htakes, used, unused, hmasks, hfour, hchanges⟩
  · exact absurd hneg (by decide)

end CardSet

end ContractBridge
