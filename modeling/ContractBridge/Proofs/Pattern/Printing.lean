/-
Printing and reading patterns are inverse.

A printed pattern is a text with one derivation for each suit: a capital digit with its mark, or
`x`, which also stands for a zero with a plus. So whatever can be written with one digit for each
length (`IsWritable`) is what some derivation means that is spelled as the pattern is printed, and a
printed pattern reads as itself.

In the other direction a text may have small letters, a capital `X` and zeros with a plus, and the
printer has none of them. It rewrites these and nothing else (`printedForm`), since no mark stands
behind a suit that has not taken it.
-/
import ContractBridge.Proofs.Pattern.Reader

set_option autoImplicit false

namespace ContractBridge

open WrittenPattern

/-! ## The printed form of a text -/

/-- A digit as a capital, and a joker as a small letter. -/
def printedChar (c : Char) : Char :=
  if 'a' ≤ c ∧ c ≤ 'd' then c.toUpper else if c = 'X' then 'x' else c

/-- **A text as it is printed:** letters of lengths are capitals, and `x` is small and stands for
`0+` too. -/
def printedForm : List Char → List Char
  | [] => []
  | '0' :: '+' :: r => 'x' :: printedForm r
  | c :: r => printedChar c :: printedForm r

theorem printedForm_cons {c : Char} {r : List Char} (h : c = '0' → r.head? ≠ some '+') :
    printedForm (c :: r) = printedChar c :: printedForm r := by
  rw [printedForm]
  rintro t rfl rfl
  exact h rfl rfl

/-! ## Digits -/

namespace LengthDigit

/-- A digit is printed as a capital. -/
theorem hexadecimal_value (d : LengthDigit) : Text.hexadecimal d.value = [printedChar d.char] :=
  d.forall_of_codePoint (P := fun d => Text.hexadecimal d.value = [printedChar d.char]) (by decide)

theorem value_eq_zero_iff (d : LengthDigit) : d.value = 0 ↔ d.char = '0' :=
  d.forall_of_codePoint (P := fun d => d.value = 0 ↔ d.char = '0') (by decide)

end LengthDigit

/-- A length up to thirteen is printed as a digit. -/
theorem exists_lengthDigit {n : Int} (hn : 0 ≤ n) (hle : n ≤ 13) :
    ∃ d : LengthDigit, d.value = n ∧ Text.hexadecimal n = [d.char] := by
  have hall : ∀ k < 14, ∃ hk : IsLengthDigit (Nat.digitChar k).toUpper,
      LengthDigit.value ⟨_, hk⟩ = k ∧ Text.hexadecimal k = [(Nat.digitChar k).toUpper] := by
    decide
  lift n to Nat using hn
  obtain ⟨hk, hvalue, hshown⟩ := hall n (by omega)
  exact ⟨⟨_, hk⟩, by rw [hvalue], hshown⟩

/-! ## What is printed is spelled -/

/-- Where every element of a list is what something means that is spelled as the element is shown,
this is so of the whole list. -/
theorem exists_spelling {α β : Type} {chars : α → List Char} {pattern : α → β}
    {shown : β → List Char} {l : List β} (h : ∀ b ∈ l, ∃ a, pattern a = b ∧ chars a = shown b) :
    ∃ m : List α, m.map pattern = l ∧ m.flatMap chars = l.flatMap shown := by
  induction l with
  | nil => exact ⟨[], rfl, rfl⟩
  | cons b l ih =>
    obtain ⟨⟨a, hmeans, hchars⟩, hl⟩ := List.forall_mem_cons.1 h
    obtain ⟨m, hm, hspelled⟩ := ih hl
    refine ⟨a :: m, ?_, ?_⟩
    · rw [List.map_cons, hmeans, hm]
    · rw [List.flatMap_cons, List.flatMap_cons, hchars, hspelled]

theorem SuitPattern.IsWritable.exists_derivation {p : SuitPattern} (h : p.IsWritable) :
    ∃ s : WrittenSuit, s.pattern = p ∧ s.chars = p.shown := by
  unfold SuitPattern.shown
  split
  · next hjoker => exact ⟨.joker false, hjoker.symm, rfl⟩
  · obtain ⟨d, hvalue, hshown⟩ := exists_lengthDigit h.1 h.2
    refine ⟨.length d p.modifier, ?_, ?_⟩
    · rw [WrittenSuit.pattern, hvalue]
    · rw [hshown]
      rfl

theorem Pattern.IsWritable.exists_derivation {p : Pattern} (h : p.IsWritable) :
    ∃ d : WrittenPattern, d.pattern = p ∧ d.chars = p.shown := by
  match p, h with
  | .suit p, h =>
    obtain ⟨s, hmeans, hchars⟩ := SuitPattern.IsWritable.exists_derivation h
    exact ⟨.suit s, congrArg Pattern.suit hmeans, hchars⟩
  | .group members, ⟨hlength, hmembers⟩ =>
    obtain ⟨ss, hmeans, hchars⟩ :=
      exists_spelling fun p hp => (hmembers p hp).exists_derivation
    rw [← hmeans, List.length_map] at hlength
    match ss, hlength with
    | first :: second :: others, _ =>
      refine ⟨.group first second others, congrArg Pattern.group hmeans, ?_⟩
      rw [WrittenPattern.chars, hchars]
      rfl

/-! ## What is read is printed -/

/-- The printed form goes through parts one by one, if a part is not changed by what is behind
it. -/
theorem printedForm_flatMap_append {α : Type} {chars shown : α → List Char}
    (hchars : ∀ a r, Unmarked (chars a ++ r))
    (h : ∀ a r, Unmarked r → printedForm (chars a ++ r) = shown a ++ printedForm r) (l : List α)
    {r : List Char} (hr : Unmarked r) :
    printedForm (l.flatMap chars ++ r) = l.flatMap shown ++ printedForm r := by
  induction l with
  | nil => rfl
  | cons a l ih =>
    rw [List.flatMap_cons, List.append_assoc, h a _ (unmarked_flatMap_append hchars l hr), ih,
      List.flatMap_cons, List.append_assoc]

/-- A length is printed as its digit and its mark, unless it is a zero with a plus. -/
theorem WrittenSuit.shown_length {d : LengthDigit} {m : Modifier}
    (h : m = .atLeast → d.char ≠ '0') :
    (length d m).pattern.shown = printedChar d.char :: m.mark := by
  have hne : (length d m).pattern ≠ .joker := by
    intro hjoker
    rw [pattern, SuitPattern.joker, SuitPattern.mk.injEq] at hjoker
    exact h hjoker.2 (d.value_eq_zero_iff.1 (Int.ofNat.inj hjoker.1))
  rw [SuitPattern.shown, if_neg hne, pattern, d.hexadecimal_value]
  rfl

theorem WrittenSuit.printedForm_append (s : WrittenSuit) (r : List Char) (hr : Unmarked r) :
    printedForm (s.chars ++ r) = s.pattern.shown ++ printedForm r := by
  match s with
  | .joker true => rfl
  | .joker false => rfl
  | .length d .exact =>
    rw [shown_length (m := .exact) nofun]
    exact printedForm_cons fun _ => hr .atLeast '+' (.head _)
  | .length d .atMost =>
    rw [shown_length (m := .atMost) nofun]
    exact printedForm_cons fun _ => nofun
  | .length d .atLeast =>
    by_cases hzero : d.char = '0'
    · -- a zero with a plus means the same as an `x`
      have hjoker : (length d .atLeast).pattern = .joker := by
        rw [pattern, d.value_eq_zero_iff.2 hzero]
        rfl
      rw [hjoker, chars, hzero]
      rfl
    · rw [shown_length fun _ => hzero]
      exact printedForm_cons fun h => absurd h hzero

theorem WrittenPattern.printedForm_append (d : WrittenPattern) (r : List Char) (hr : Unmarked r) :
    printedForm (d.chars ++ r) = d.pattern.shown ++ printedForm r := by
  match d with
  | .suit s => exact s.printedForm_append r hr
  | .group first second others =>
    have hclosing : Unmarked (')' :: r) := unmarked_cons (by decide) (by decide)
    have hmembers := printedForm_flatMap_append WrittenSuit.unmarked_append
      WrittenSuit.printedForm_append (first :: second :: others) hclosing
    rw [chars, pattern, Pattern.shown, List.flatMap_map, List.cons_append, List.append_assoc,
      List.cons_append, List.append_assoc]
    exact congrArg ('(' :: ·) hmembers

/-! ## Written patterns -/

namespace Pattern

variable {text : String} {ps : List Pattern}

/-- What is printed of patterns that can be written reads as them. -/
theorem parse_shown (hps : ∀ p ∈ ps, p.IsWritable) (harity : checkArity ps = .ok ()) :
    parse (String.ofList (ps.flatMap shown)) = .ok ps := by
  obtain ⟨ds, rfl, hds⟩ := exists_spelling fun p hp => (hps p hp).exists_derivation
  rw [parse_eq_ok_iff, String.toList_ofList, ← hds]
  exact (ofText_spelled ds).trans (fourSuits_eq_ok_iff.2 ⟨harity, rfl⟩)

/-- What is printed of patterns that were read is the printed form of their text. -/
theorem shown_of_parse (h : parse text = .ok ps) : ps.flatMap shown = printedForm text.toList := by
  obtain ⟨ds, htext, rfl⟩ := exists_derivation_of_parse h
  have hprinted := printedForm_flatMap_append WrittenPattern.unmarked_append
    WrittenPattern.printedForm_append ds unmarked_nil
  rw [List.append_nil] at hprinted
  rw [htext, List.flatMap_map]
  exact (hprinted.trans (List.append_nil _)).symm

/-- **Printing and reading are inverse.** Patterns that can be written, and that describe four
suits of thirteen cards, are read from what is printed of them; and what is printed of patterns
that were read is the text they were read from, with capital digits, with small letters `x`, and
with an `x` in the place of every zero with a plus. -/
theorem parse_printed :
    (∀ ps : List Pattern, (∀ p ∈ ps, p.IsWritable) → checkArity ps = .ok () →
      parse (String.ofList (ps.flatMap shown)) = .ok ps) ∧
    ∀ (text : String) (ps : List Pattern), parse text = .ok ps →
      ps.flatMap shown = printedForm text.toList :=
  ⟨fun _ => parse_shown, fun _ _ => shown_of_parse⟩

/-- At a group with any length and a capital digit, which was written with a small one and a zero
with a plus. -/
theorem parse_printed_group :
    parse "(Ax)3-0" =
        .ok [.group [.exactly 10, .joker], .suit (.atMost 3), .suit (.exactly 0)] ∧
      [Pattern.group [.exactly 10, .joker], .suit (.atMost 3), .suit (.exactly 0)].flatMap shown =
        printedForm "(a0+)3-0".toList := by
  have hshown : String.ofList ([Pattern.group [.exactly 10, .joker], .suit (.atMost 3),
      .suit (.exactly 0)].flatMap shown) = "(Ax)3-0" := by decide
  have hread := parse_printed.1 [.group [.exactly 10, .joker], .suit (.atMost 3),
    .suit (.exactly 0)] (by decide) rfl
  rw [hshown] at hread
  exact ⟨hread, parse_printed.2 _ _ (parse_eq_of_decide (by decide +kernel))⟩

end Pattern

end ContractBridge
