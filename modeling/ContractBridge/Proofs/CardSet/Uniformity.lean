/-
Every way to draw is as likely as every other.

A draw commits whole chosen sets at once and passes over others by their size, so no single step
of it is fair to the cards. What it does have is that it never looks at a card other than through
sets and their sizes: with all masks renamed by a permutation of the places, the draw from the
renamed set takes the same turns and gives the renamed cards (`takes_draw_rename`).

Any part of a set is carried to any other part of the same size by a permutation that leaves the
set what it is. Renaming masks by it is a one-to-one map from the sequences of masks that draw the
one part to those that draw the other, for sequences of every length.
-/
import Mathlib.Data.Fintype.Pi
import ContractBridge.Proofs.CardSet.Draw
import ContractBridge.Proofs.CardSet.Renaming

set_option autoImplicit false

namespace ContractBridge

open MaskSource Drawing

/-! ## A renamed draw -/

namespace Draw

/-- A draw under way with its cards renamed. -/
def rename (π : Renaming) (d : Draw) : Draw :=
  { d with undecided := d.undecided.rename π, kept := d.kept.rename π, given := d.given.rename π }

variable {d e : Draw} {π : Renaming} {used : List Int}

theorem rename_start {s : CardSet} (hs : s.IsLow) (n : Nat) (π : Renaming) :
    (start s n).rename π = start (s.rename π) n := by
  simp only [rename, start, CardSet.rename_empty, CardSet.size_rename hs]

theorem has_undecided_step {mask : Int} {i : Nat} (h : (d.step mask).undecided.has i = true) :
    d.undecided.has i = true := by
  simp only [step] at h
  split at h
  · exact h
  · split at h
    · rw [CardSet.has_diff, Bool.and_eq_true] at h
      exact h.1
    · split at h
      · rw [CardSet.has_diff, Bool.and_eq_true] at h
        exact h.1
      · exact h

/-- **A mask does to a renamed draw what it did, renamed.** The cards it chooses are renamed, and
there are as many of them. -/
theorem step_rename (hd : d.undecided.IsLow) (π : Renaming) (mask : Int) :
    (d.step mask).rename π = (d.rename π).step (renameMask π mask) := by
  have hlow : (⟨mask⟩ ∩ d.undecided : CardSet).IsLow := hd.of_has_imp fun i hi => by
    rw [CardSet.has_inter, Bool.and_eq_true] at hi
    exact hi.2
  have hchosen : (⟨renameMask π mask⟩ ∩ d.undecided.rename π : CardSet) =
      (⟨mask⟩ ∩ d.undecided : CardSet).rename π := (CardSet.rename_inter π ⟨mask⟩ _).symm
  -- every test of a step is one of the size of the chosen cards
  simp only [step, rename, hchosen, CardSet.isEmpty_rename hlow, CardSet.size_rename hlow]
  split
  · rfl
  · split
    · simp only [CardSet.rename_diff, CardSet.rename_union]
    · split
      · simp only [CardSet.rename_diff, CardSet.rename_union]
      · rfl

/-- A whole run, renamed. -/
theorem feeds_rename (hd : d.undecided.IsLow) (h : Feeds isDone step d used e) (π : Renaming) :
    Feeds isDone step (d.rename π) (used.map (renameMask π)) (e.rename π) := by
  induction h with
  | done hdone => exact .done hdone
  | step hdone _ ih =>
    refine .step hdone ?_
    rw [← step_rename hd]
    exact ih (hd.of_has_imp fun _ => has_undecided_step)

theorem remainder_rename (d : Draw) (π : Renaming) :
    (d.rename π).remainder = d.remainder.rename π := by
  unfold remainder
  by_cases h : d.left = 0
  · rw [if_pos h]
    exact if_pos h
  · rw [if_neg h, CardSet.rename_union]
    exact if_neg h

end Draw

/-- The drawn cards and the cards left, renamed. -/
def Drawn.rename (π : Renaming) (drawn : Drawn) : Drawn :=
  ⟨drawn.given.rename π, drawn.rest.rename π⟩

namespace CardSet

variable {s t t' : CardSet} {n k : Nat}

/-- **Renamed masks draw the renamed cards from the renamed set.** -/
theorem takes_draw_rename {m : Int} {used : List Int} {drawn : Drawn} (hs : s.IsLow)
    (h : Takes (s.draw m) used drawn) (π : Renaming) :
    Takes ((s.rename π).draw m) (used.map (renameMask π)) (drawn.rename π) := by
  obtain ⟨e, hdraw⟩ | ⟨n, rfl, hn, hdraw⟩ := draw_eq s m
  · rw [hdraw] at h
    obtain ⟨src, rest, hyields⟩ := exists_yields used
    cases h hyields
  · rw [hdraw] at h
    obtain ⟨d, hfeeds, rfl⟩ := takes_drawFrom_iff.1 h
    rw [draw_of_le (by rw [size_rename hs]; exact hn), takes_drawFrom_iff]
    refine ⟨d.rename π, ?_, ?_⟩
    · rw [← Draw.rename_start hs]
      exact Draw.feeds_rename hs hfeeds π
    · rw [Draw.remainder_rename]
      rfl

/-! ## Counting the sequences of masks -/

/-- The cards that a draw gives on some masks, if they are enough for it. -/
def drawOn (s : CardSet) (n : Nat) (ms : Fin k → Mask) : Option CardSet :=
  match s.draw n (.ofScript (scriptOf ms)) with
  | .ok drawn _ => some drawn.given
  | .error _ _ => none

/-- **How many sequences of `k` masks draw exactly these cards.** -/
def drawCount (s : CardSet) (n k : Nat) (t : CardSet) : Nat :=
  (Finset.univ.filter fun ms : Fin k → Mask => s.drawOn n ms = some t).card

theorem drawOn_eq_some_iff {ms : Fin k → Mask} : s.drawOn n ms = some t ↔
    ∃ used tail drawn, scriptOf ms = used ++ tail ∧ Takes (s.draw n) used drawn ∧
      drawn.given = t := by
  rw [drawOn]
  constructor
  · intro h
    cases hdraw : s.draw n (.ofScript (scriptOf ms)) with
    | error e src =>
      rw [hdraw] at h
      cases h
    | ok drawn src =>
      rw [hdraw] at h
      obtain ⟨used, hyields, htakes⟩ := isLocal_draw n hdraw
      obtain ⟨tail, hscript, -⟩ := hyields.of_script
      exact ⟨used, tail, drawn, hscript, htakes, Option.some.inj h⟩
  · rintro ⟨used, tail, drawn, hscript, htakes, rfl⟩
    obtain ⟨_, hyields⟩ := yields_script used tail (some 0)
    rw [hscript, ofScript, htakes hyields]

/-- The cards themselves, taken as one mask, are drawn at once. -/
theorem takes_draw_self (hs : s.IsFinite) (ht : ∀ i, t.has i = true → s.has i = true)
    (hn : t.size = n) (hpos : 0 < n) :
    ∃ drawn : Drawn, Takes (s.draw n) [t.bits] drawn ∧ drawn.given = t := by
  have hle : t.size ≤ s.size := size_le_of_has_imp hs ht
  have hchosen : (⟨t.bits⟩ ∩ s : CardSet) = t := by
    apply CardSet.ext
    intro i
    rw [has_inter]
    show (t.has i && s.has i) = t.has i
    cases hi : t.has i with
    | false => rw [Bool.false_and]
    | true => rw [ht i hi, Bool.true_and]
  have hsome : t.isEmpty = false := by
    rw [← Bool.not_eq_true, isEmpty_iff, ← size_eq_zero_iff (hs.of_has_imp ht)]
    omega
  -- the one mask chooses `n` cards, which fit, and then no more are wanted
  have hstep : (Draw.start s n).step t.bits = ⟨s \ t, ∅, ∅ ∪ t, s.size - n, 0⟩ := by
    simp only [Draw.step, Draw.start, hchosen, hsome, hn, Nat.le_refl, Nat.sub_self, if_true,
      Bool.false_eq_true, if_false]
  rw [draw_of_le (by omega)]
  refine ⟨_, takes_drawFrom_iff.2 ⟨⟨s \ t, ∅, ∅ ∪ t, s.size - n, 0⟩, .step ?_ ?_, rfl⟩, ?_⟩
  · simp only [Draw.isDone, Draw.start, Bool.or_eq_false_iff, beq_eq_false_iff_ne]
    omega
  · rw [hstep]
    exact .done (Bool.or_eq_true_iff.2 (.inr rfl))
  · apply CardSet.ext
    intro i
    rw [has_union, has_empty, Bool.false_or]

/-- Every set of `n` cards is drawn on some sequences of masks. -/
theorem drawCount_pos (hs : s.IsLow) (ht : t.subset s = true) (hn : t.size = n) (hpos : 0 < n)
    (hk : 0 < k) : 0 < s.drawCount n k t := by
  rw [subset_iff] at ht
  let m : Mask := ⟨Nat.ofBits fun p => t.has p, Nat.ofBits_lt_two_pow _⟩
  have hself : t.rename (Equiv.refl _) = t := rename_of_fixed (hs.of_has_imp ht) fun _ _ => rfl
  have hm : (m.val : Int) = t.bits := by
    rw [← hself]
    simp only [rename, Equiv.refl_symm, Equiv.refl_apply, m]
  obtain ⟨drawn, htakes, hgiven⟩ := takes_draw_self hs.isFinite ht hn hpos
  obtain ⟨k, rfl⟩ : ∃ l, k = l + 1 := ⟨k - 1, by omega⟩
  apply Finset.card_pos.2
  refine ⟨fun _ => m, Finset.mem_filter.2 ⟨Finset.mem_univ _, ?_⟩⟩
  refine drawOn_eq_some_iff.2
    ⟨_, List.ofFn fun _ : Fin k => (m.val : Int), drawn, ?_, htakes, hgiven⟩
  rw [scriptOf, List.ofFn_succ, hm]
  rfl

/-! ## Fairness -/

/-- A set cut into a part of it and the others. -/
def cutAt (s t : CardSet) : Bool → CardSet
  | true => t
  | false => s \ t

theorem isCut_cutAt (h : ∀ i, t.has i = true → s.has i = true) : s.IsCut (s.cutAt t) where
  has_imp b j hj := by
    match b, hj with
    | true, hj => exact h j hj
    | false, hj =>
      rw [cutAt, has_diff, Bool.and_eq_true] at hj
      exact hj.1
  unique j hj := by
    refine ⟨t.has j, ?_, ?_⟩
    · cases ht : t.has j with
      | true => exact ht
      | false => rw [cutAt, has_diff, hj, ht]; rfl
    · intro b hb
      match b, hb with
      | true, hb => exact hb.symm
      | false, hb =>
        rw [cutAt, has_diff, Bool.and_eq_true, Bool.not_eq_true'] at hb
        exact hb.2.symm

/-- At least as many sequences draw the one part as the other. -/
theorem drawCount_le (hs : s.IsLow) (ht : ∀ i, t.has i = true → s.has i = true)
    (ht' : ∀ i, t'.has i = true → s.has i = true) (hsize : t.size = t'.size) :
    s.drawCount n k t ≤ s.drawCount n k t' := by
  have hsizes : ∀ b, (s.cutAt t b).size = (s.cutAt t' b).size := by
    intro b
    match b with
    | true => exact hsize
    | false =>
      have hdiff := size_diff_add hs.isFinite ht
      have hdiff' := size_diff_add hs.isFinite ht'
      show (s \ t).size = (s \ t').size
      omega
  -- the permutation carries one part to the other and keeps the set
  obtain ⟨π, -, hself, hparts⟩ :=
    exists_rename_of_parts hs (isCut_cutAt ht) (isCut_cutAt ht') hsizes
  have hcarry : t.rename π = t' := hparts true
  -- renaming all masks maps the sequences for the one part into those for the other
  apply Finset.card_le_card_of_injOn (renameFrom π 0)
  · intro ms hms
    have hdraw := (Finset.mem_filter.1 (Finset.mem_coe.1 hms)).2
    obtain ⟨used, tail, drawn, hscript, htakes, hgiven⟩ := drawOn_eq_some_iff.1 hdraw
    have hrenamed := takes_draw_rename hs htakes π
    rw [hself] at hrenamed
    refine Finset.mem_coe.2 (Finset.mem_filter.2 ⟨Finset.mem_univ _, ?_⟩)
    refine drawOn_eq_some_iff.2
      ⟨_, tail.map (renameMask π), drawn.rename π, ?_, hrenamed, ?_⟩
    · have hall := scriptOf_renameFrom π ms (u := []) (v := used ++ tail) hscript
      rw [List.map_append] at hall
      exact hall
    · rw [← hcarry, ← hgiven]
      rfl
  · exact (renameFrom_injective π 0).injOn

/-- **A draw is fair, exactly.** From a set within the places of a mask, any two sets of `n` of its
cards are drawn on the same number of sequences of `k` masks, for every `k`. -/
theorem drawCount_eq_of_subset (hs : s.IsLow) (ht : t.subset s = true)
    (ht' : t'.subset s = true) (hn : t.size = n) (hn' : t'.size = n) (k : Nat) :
    s.drawCount n k t = s.drawCount n k t' := by
  have hsize : t.size = t'.size := hn.trans hn'.symm
  rw [subset_iff] at ht ht'
  apply Nat.le_antisymm
  · exact drawCount_le hs ht ht' hsize
  · exact drawCount_le hs ht' ht hsize.symm

/-- At two of the four lowest spades, drawn on three masks. -/
theorem drawCount_eq_of_subset_spades :
    (⟨0x3c⟩ : CardSet).drawCount 2 3 ⟨0xc⟩ = (⟨0x3c⟩ : CardSet).drawCount 2 3 ⟨0x28⟩ ∧
      0 < (⟨0x3c⟩ : CardSet).drawCount 2 3 ⟨0xc⟩ := by
  have hlow : (⟨0x3c⟩ : CardSet).IsLow := isLow_of_subset (by decide)
  refine ⟨?_, drawCount_pos hlow (by decide) (by decide) (by decide) (by decide)⟩
  exact drawCount_eq_of_subset hlow (by decide) (by decide) (by decide) (by decide) 3

end CardSet

end ContractBridge
