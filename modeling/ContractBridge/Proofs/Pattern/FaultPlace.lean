/-
Syntax errors are located.

A written pattern that is refused for its syntax names a place. If a character occurs in it that
occurs in no pattern, the place is that of the first such character, whatever else is wrong; the
scanner looks at all of the text before a pattern is read. Otherwise it is the place where the
text leaves the grammar (`IsFaultPlace`), of which there is one only.
-/
import ContractBridge.Proofs.Pattern.Reader

set_option autoImplicit false

namespace ContractBridge

/-- The characters of patterns, `[0-9A-Da-dxX+()-]`. -/
def IsPatternChar (c : Char) : Prop :=
  BeginsSuit c ∨ c = '+' ∨ c = '-' ∨ c = '(' ∨ c = ')'

instance (c : Char) : Decidable (IsPatternChar c) := inferInstanceAs (Decidable (_ ∨ _))

/-- The characters of patterns are those that the scanner makes a token of. -/
theorem exists_ofChar_iff {c : Char} :
    (∃ kind, TokenKind.ofChar c = .ok kind) ↔ IsPatternChar c := by
  constructor
  · rintro ⟨kind, hkind⟩
    have hspelling := TokenKind.isSpelling_of_ofChar hkind
    cases kind with
    | length n =>
      obtain ⟨d, rfl, -⟩ := hspelling
      exact .inl (.inl d.isLengthDigit)
    | joker => exact .inl (.inr hspelling.symm)
    | modifier m =>
      cases m with
      | exact => cases hspelling
      | atLeast => cases hspelling; exact .inr (.inl rfl)
      | atMost => cases hspelling; exact .inr (.inr (.inl rfl))
    | openParen => exact .inr (.inr (.inr (.inl hspelling)))
    | closeParen => exact .inr (.inr (.inr (.inr hspelling)))
    | finish => exact hspelling.elim
  · rintro ((hdigit | rfl | rfl) | rfl | rfl | rfl | rfl)
    · exact ⟨_, TokenKind.ofChar_digit ⟨c, hdigit⟩⟩
    all_goals exact ⟨_, rfl⟩

/-- The first element that passes a test, found behind elements that do not. -/
theorem findIdx_append_cons {α : Type} {p : α → Bool} {l r : List α} {a : α}
    (hl : ∀ b ∈ l, p b = false) (ha : p a = true) : (l ++ a :: r).findIdx p = l.length := by
  rw [List.findIdx_append, List.findIdx_eq_length.2 hl, if_neg (Nat.lt_irrefl _),
    List.findIdx_cons, ha, cond_true, Nat.zero_add]

namespace Pattern

/-- **A syntax error is where the text goes wrong:** at its first character that is in no pattern,
and if there is none, at the place of the fault. -/
theorem place_of_syntaxError {text : String} {cause : SyntaxFault} {place : Int}
    {source : Option String}
    (h : parse text = .error (.pattern (.syntaxError cause place) source)) :
    ((∃ c ∈ text.toList, ¬ IsPatternChar c) →
      place = text.toList.findIdx fun c => ¬ IsPatternChar c) ∧
    ((∀ c ∈ text.toList, IsPatternChar c) →
      ∃ p : Nat, place = p ∧ ∀ q, IsFaultPlace text.toList q ↔ q = p) := by
  obtain ⟨_, hfault, heq⟩ := parse_eq_error_iff.1 h
  cases heq
  rcases ofText_cases text.toList with ⟨l, c, r, _, htext, hl, hc, hread⟩ |
    ⟨p, _, htokens, hplace, hread⟩ | ⟨ds, -, hread⟩
  · rw [hfault] at hread
    cases hread
    have hbad : ¬ IsPatternChar c := by
      rw [← exists_ofChar_iff, hc]
      rintro ⟨_, ⟨⟩⟩
    rw [htext]
    refine ⟨fun _ => ?_, fun hall => absurd (hall c ?_) hbad⟩
    · rw [findIdx_append_cons (p := fun c => ¬ IsPatternChar c) _ (decide_eq_true hbad)]
      exact fun b hb => decide_eq_false (not_not_intro (exists_ofChar_iff.1 (hl b hb)))
    · exact List.mem_append_right l List.mem_cons_self
  · rw [hfault] at hread
    cases hread
    refine ⟨?_, fun _ => ⟨p, rfl, fun q => ⟨fun hq => hq.unique hplace, ?_⟩⟩⟩
    · rintro ⟨c, hc, hbad⟩
      exact absurd (exists_ofChar_iff.1 (htokens c hc)) hbad
    · rintro rfl
      exact hplace
  · rw [hfault] at hread
    exact absurd ⟨cause, place, rfl⟩
      (not_isSyntax_of_checkArity (fourSuits_eq_error_iff.1 hread.symm))

/-- A group of one suit is to blame as a whole, behind a suit here, and not its closing parenthesis,
which is the first character that no shape has there. -/
theorem place_of_syntaxError_smallGroup :
    IsFaultPlace "5(4)44".toList 1 ∧ ¬ IsFaultPlace "5(4)44".toList 3 := by
  have hparse : parse "5(4)44" =
      .error (.pattern (.syntaxError .smallGroup 1) (some "5(4)44")) :=
    parse_eq_error_of_decide (by decide +kernel)
  have hchars : ("5(4)44".toList.all fun c => IsPatternChar c) = true := by decide
  obtain ⟨p, hp, hplace⟩ := (place_of_syntaxError hparse).2 fun c hc =>
    of_decide_eq_true (List.all_eq_true.1 hchars c hc)
  obtain rfl : 1 = p := Int.ofNat.inj hp
  exact ⟨(hplace 1).2 rfl, fun h => absurd ((hplace 3).1 h) (by decide)⟩

end Pattern

end ContractBridge
