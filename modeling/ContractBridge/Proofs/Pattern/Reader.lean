/-
Written patterns are proper.

The grammar has one digit for a length, without a sign, and a group has two members at least. So what
a derivation means can be written (`IsWritable`), and it is always `IsProper`. What is read is what a
derivation means.
-/
import ContractBridge.Proofs.Pattern.Acceptance
import ContractBridge.Proofs.Pattern.Row

set_option autoImplicit false

namespace ContractBridge

/-- What can be written with a digit for the length. -/
def SuitPattern.IsWritable (p : SuitPattern) : Prop := 0 ≤ p.length ∧ p.length ≤ 13

instance (p : SuitPattern) : Decidable p.IsWritable := inferInstanceAs (Decidable (_ ∧ _))

/-- **What can be written:** suits with a digit for each length, and groups of two or more. -/
def Pattern.IsWritable : Pattern → Prop
  | suit p => p.IsWritable
  | group members => 2 ≤ members.length ∧ ∀ p ∈ members, p.IsWritable

instance : (p : Pattern) → Decidable p.IsWritable
  | .suit p => inferInstanceAs (Decidable p.IsWritable)
  | .group _ => inferInstanceAs (Decidable (_ ∧ _))

theorem Pattern.IsWritable.isProper {p : Pattern} (h : p.IsWritable) : p.IsProper := by
  match p, h with
  | .suit _, h => exact h.1
  | .group _, ⟨hlength, hmembers⟩ => exact ⟨hlength, fun p hp => (hmembers p hp).1⟩

/-- A derivation means what can be written. -/
theorem WrittenSuit.isWritable_pattern (s : WrittenSuit) : s.pattern.IsWritable := by
  match s with
  | .length d m => exact ⟨Int.natCast_nonneg _, Int.ofNat_le.2 d.value_le⟩
  | .joker _ => exact ⟨Int.le_refl 0, (by decide : (0 : Int) ≤ 13)⟩

theorem WrittenPattern.isWritable_pattern (d : WrittenPattern) : d.pattern.IsWritable := by
  match d with
  | .suit s => exact s.isWritable_pattern
  | .group first second others =>
    refine ⟨Nat.le_add_left 2 _, fun p hp => ?_⟩
    obtain ⟨s, -, rfl⟩ := List.mem_map.1 hp
    exact s.isWritable_pattern

namespace Pattern

open WrittenPattern

/-- What the reading of a written pattern went through. -/
theorem parse_eq_ok {text : String} {ps : List Pattern} (h : parse text = .ok ps) :
    ∃ tokens rest, Token.scan text.toList = .ok tokens ∧ readAll tokens = .ok (ps, rest) ∧
      checkArity ps = .ok () := by
  obtain ⟨tokens, hscan, hread⟩ := except_bind_eq_ok_iff.1 (parse_eq_ok_iff.1 h)
  obtain ⟨⟨qs, _⟩, hqs, heq⟩ := except_bind_eq_ok_iff.1 hread
  cases heq
  obtain ⟨⟨rs, rest⟩, hall, hcheck⟩ := except_bind_eq_ok_iff.1 hqs
  obtain ⟨_, harity, heq⟩ := except_bind_eq_ok_iff.1 hcheck
  cases heq
  exact ⟨tokens, _, hscan, hall, harity⟩

/-- What a given text reads as can be decided, although errors cannot be compared. -/
theorem parse_eq_of_decide {text : String} {ps : List Pattern}
    (h : (match parse text with
      | .ok qs => decide (qs = ps)
      | .error _ => false) = true) : parse text = .ok ps := by
  split at h
  · rename_i qs hqs
    rw [hqs, of_decide_eq_true h]
  · cases h

/-- What a given text is refused for can be decided, although errors cannot be compared. -/
theorem parse_eq_error_of_decide {text : String} {fault : PatternFault}
    (h : (match parse text with
      | .error (.pattern given source) => decide (given = fault ∧ source = some text)
      | _ => false) = true) : parse text = .error (.pattern fault (some text)) := by
  split at h
  · rename_i given source hparse
    obtain ⟨rfl, rfl⟩ := of_decide_eq_true h
    exact hparse
  · cases h

/-- What is read is what a derivation means. -/
theorem exists_derivation_of_parse {text : String} {ps : List Pattern} (h : parse text = .ok ps) :
    ∃ ds, text.toList = spelled ds ∧ ds.map WrittenPattern.pattern = ps := by
  have hread := parse_eq_ok_iff.1 h
  rcases ofText_cases text.toList with ⟨_, _, _, _, -, -, -, hfault⟩ | ⟨_, _, -, -, hfault⟩ |
    ⟨ds, htext, hsuits⟩
  · rw [hread] at hfault
    cases hfault
  · rw [hread] at hfault
    cases hfault
  · rw [hread] at hsuits
    exact ⟨ds, htext, (fourSuits_eq_ok_iff.1 hsuits.symm).2⟩

theorem isWritable_of_parse {text : String} {ps : List Pattern} (h : parse text = .ok ps) :
    ∀ p ∈ ps, p.IsWritable := by
  obtain ⟨ds, -, rfl⟩ := exists_derivation_of_parse h
  intro p hp
  obtain ⟨d, -, rfl⟩ := List.mem_map.1 hp
  exact d.isWritable_pattern

/-- **Written patterns are proper.** -/
theorem isProper_of_parse {text : String} {ps : List Pattern} (h : parse text = .ok ps) :
    ∀ p ∈ ps, p.IsProper :=
  fun p hp => (isWritable_of_parse h p hp).isProper

end Pattern

end ContractBridge
