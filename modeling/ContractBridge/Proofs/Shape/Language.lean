/-
What a written pattern accepts.

This is the shape language from end to end. A text is scanned, parsed, expanded into
distributions, stored as a table and kept in a cache; a hand is measured suit by suit and looked
up. The statement below forgets all of it: the shape that the cache gives for a text includes a
hand of thirteen deck cards exactly when the hand's four lengths match the patterns the text
reads as (`Pattern.Matches`), whatever the cache was asked before.

The cache may answer from an entry, so the first part says that every entry of a cache that came
of asking and clearing is what compiling its text gives.
-/
import ContractBridge.Proofs.Shape.Members
import ContractBridge.Shape.Cache

set_option autoImplicit false

namespace ContractBridge

namespace ShapeCache

/-! ## Answers of a cache -/

/-- **The caches that come of asking and clearing.** -/
inductive Reached : ShapeCache → Prop
  | new : Reached .new
  | get {c : ShapeCache} (text : String) : Reached c → Reached (c.get text).2
  | clear {c : ShapeCache} : Reached c → Reached c.clear

variable {c : ShapeCache} {text : String} {entry : NumberedShape}

theorem ofPattern_of_find? (hc : c.Reached) (h : c.find? text = some entry) :
    Shape.ofPattern text = .ok entry.shape := by
  induction hc generalizing text entry with
  | new => cases h
  | clear => cases h
  | @get c asked _ ih =>
    unfold get at h
    cases hfind : c.find? asked with
    | some found =>
      rw [hfind] at h
      exact ih h
    | none =>
      rw [hfind] at h
      cases hshape : Shape.ofPattern asked with
      | error e =>
        rw [hshape] at h
        exact ih h
      | ok shape =>
        rw [hshape] at h
        -- the new entry is in front of those there were
        by_cases htext : text = asked
        · subst htext
          simp only [find?, List.lookup_cons_self, Option.some.injEq] at h
          rw [hshape, ← h]
        · have hne : (text == asked) = false := beq_false_of_ne htext
          simp only [find?, List.lookup_cons, hne] at h
          exact ih h

/-- What a cache gives for a text is what compiling it gives. -/
theorem ofPattern_of_get (hc : c.Reached) (h : (c.get text).1 = .ok entry) :
    Shape.ofPattern text = .ok entry.shape := by
  unfold get at h
  cases hfind : c.find? text with
  | some found =>
    rw [hfind] at h
    cases h
    exact ofPattern_of_find? hc hfind
  | none =>
    rw [hfind] at h
    cases hshape : Shape.ofPattern text with
    | error e => rw [hshape] at h; cases h
    | ok shape => rw [hshape] at h; cases h; rfl

end ShapeCache

/-! ## Matching hands -/

namespace Shape

variable {ps : List Pattern} {hand : CardSet}

/-- The distribution of a hand is one of those that match exactly when its lengths match. -/
theorem holds_matching (hps : ∀ p ∈ ps, p.IsProper) (hdeck : hand.subset .deck = true)
    (hsize : hand.size = handSize) :
    (matching ps).holds hand.suitLengths.index.toNat = true ↔
      Pattern.Matches ps hand.suitLengths := by
  have hhand := SuitLengths.isOfHand_suitLengths hdeck hsize
  -- the distribution is in the table, so to be listed is to be looked up
  have hlisted : hand.suitLengths ∈ (matching ps).members ↔
      (matching ps).holds hand.suitLengths.index.toNat = true :=
    mem_members.trans (and_iff_right hhand.isInTable)
  rw [← hlisted, mem_matching hps, and_iff_right hhand]

/-- **A written pattern accepts the hands whose lengths match it.** Every text that the cache
has a shape for reads as patterns whose rows are four suit patterns, and the shape includes a
hand of thirteen deck cards exactly when one of the rows accepts its lengths. -/
theorem get_includes_iff_matches {c : ShapeCache} (hc : c.Reached) {text : String}
    {entry : NumberedShape} (h : (c.get text).1 = .ok entry) :
    ∃ ps, Pattern.parse text = .ok ps ∧ (∀ row, Pattern.Rows ps row → row.length = 4) ∧
      ∀ hand : CardSet, hand.subset .deck = true → hand.size = handSize →
        ∃ member, entry.shape.includes hand = .ok member ∧
          (member = true ↔ Pattern.Matches ps hand.suitLengths) := by
  obtain ⟨ps, hparse, hshape⟩ := except_bind_eq_ok_iff.1 (ShapeCache.ofPattern_of_get hc h)
  have hmatching : matching ps = entry.shape := Except.ok.inj hshape
  have hps := Pattern.isProper_of_parse hparse
  obtain ⟨-, -, -, -, hcheck⟩ := Pattern.parse_eq_ok hparse
  refine ⟨ps, hparse, fun row hrow => hrow.length_eq_four hcheck, ?_⟩
  intro hand hdeck hsize
  refine ⟨_, includes_eq entry.shape hdeck, ?_⟩
  rw [← hmatching]
  exact holds_matching hps hdeck hsize

/-- At a pattern with a group, read here with its members the other way round: one spade, four
hearts, five diamonds and three clubs. -/
theorem get_includes_iff_matches_group :
    ∃ entry, ShapeCache.Reached .new ∧ (ShapeCache.new.get "(4x)3+3").1 = .ok entry ∧
      entry.shape.includes ⟨0x70007c0078004000⟩ = .ok true := by
  have hparse : Pattern.parse "(4x)3+3" =
      .ok [.group [.exactly 4, .joker], .suit (.atLeast 3), .suit (.exactly 3)] :=
    Pattern.parse_eq_of_decide (by decide +kernel)
  have hcompile : ofPattern "(4x)3+3" =
      .ok (matching [.group [.exactly 4, .joker], .suit (.atLeast 3), .suit (.exactly 3)]) := by
    unfold ofPattern
    rw [hparse]
    rfl
  have hget : (ShapeCache.new.get "(4x)3+3").1 =
      .ok ⟨matching [.group [.exactly 4, .joker], .suit (.atLeast 3), .suit (.exactly 3)], 0⟩ := by
    simp only [ShapeCache.get, ShapeCache.new, ShapeCache.find?, List.lookup_nil, hcompile]
  obtain ⟨ps, hps, -, hhands⟩ := get_includes_iff_matches .new hget
  rw [hparse, Except.ok.injEq] at hps
  subst hps
  obtain ⟨member, hincludes, hiff⟩ := hhands ⟨0x70007c0078004000⟩ (by decide) (by decide)
  refine ⟨_, .new, hget, ?_⟩
  rw [hincludes, hiff.2]
  exact ⟨.joker, .exactly 4, .atLeast 3, .exactly 3,
    .group (List.Perm.swap _ _ _) (.suit (.suit .nil)), by decide, by decide, by decide, by decide⟩

end Shape

end ContractBridge
