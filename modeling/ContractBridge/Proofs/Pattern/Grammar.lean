/-
The grammar of written patterns.

    shape := (group | suit)*
    group := '(' suit suit suit* ')'
    suit  := [0-9A-Da-d] ('+' | '-')? | [xX]

A derivation is a tree of these rules. It spells a text (`chars`) and it means a pattern
(`pattern`), and both are read off the tree without a scanner or a parser, so a reader can be held
against them. A list of derivations is a derivation of a whole shape.

The grammar is unambiguous: what is spelled determines the derivation (`spelled_injective`). The
only place where that takes an argument is behind a length, where a mark belongs to the length
before it; nothing that may follow a suit begins with a mark (`Unmarked`).
-/
import ContractBridge.Pattern

set_option autoImplicit false

namespace ContractBridge

/-! ## Derivations -/

/-- The class `[0-9A-Da-d]`. -/
def IsLengthDigit (c : Char) : Prop :=
  ('0' ≤ c ∧ c ≤ '9') ∨ ('A' ≤ c ∧ c ≤ 'D') ∨ ('a' ≤ c ∧ c ≤ 'd')

instance (c : Char) : Decidable (IsLengthDigit c) := inferInstanceAs (Decidable (_ ∨ _ ∨ _))

/-- A digit that may stand for a length. -/
structure LengthDigit where
  char : Char
  isLengthDigit : IsLengthDigit char

/-- The value of a hexadecimal digit. -/
def LengthDigit.value (d : LengthDigit) : Nat :=
  if d.char ≤ '9' then d.char.toNat - '0'.toNat
  else if d.char ≤ 'D' then 10 + (d.char.toNat - 'A'.toNat)
  else 10 + (d.char.toNat - 'a'.toNat)

/-- The digits are among the first code points, and those can be gone through one by one. -/
theorem LengthDigit.forall_of_codePoint {P : LengthDigit → Prop}
    (h : ∀ k < 0x80, ∀ hk : IsLengthDigit (Char.ofNat k), P ⟨Char.ofNat k, hk⟩)
    (d : LengthDigit) : P d := by
  obtain ⟨c, hc⟩ := d
  have hlt : c.toNat < 0x80 := by
    rcases hc with ⟨-, h⟩ | ⟨-, h⟩ | ⟨-, h⟩ <;> exact Nat.lt_of_le_of_lt h (by decide)
  have hchar := Char.ofNat_toNat c
  generalize c.toNat = k at hlt hchar
  subst hchar
  exact h k hlt hc

theorem LengthDigit.value_le (d : LengthDigit) : d.value ≤ 13 :=
  d.forall_of_codePoint (P := fun d => d.value ≤ 13) (by decide)

/-- **A derivation of a suit:** a digit with or without a mark, or an `x` in either case. -/
inductive WrittenSuit where
  | length (digit : LengthDigit) (modifier : Modifier)
  | joker (capital : Bool)

/-- **A derivation of a suit or of a group,** which has two suits at least. -/
inductive WrittenPattern where
  | suit (s : WrittenSuit)
  | group (first second : WrittenSuit) (others : List WrittenSuit)

namespace WrittenSuit

/-- The characters that a suit is spelled with. -/
def chars : WrittenSuit → List Char
  | length digit modifier => digit.char :: modifier.mark
  | joker true => ['X']
  | joker false => ['x']

/-- What a suit means. An `x` is any length, zero or more. -/
def pattern : WrittenSuit → SuitPattern
  | length digit modifier => ⟨digit.value, modifier⟩
  | joker _ => ⟨0, .atLeast⟩

end WrittenSuit

namespace WrittenPattern

/-- The characters that a suit or a group is spelled with. -/
def chars : WrittenPattern → List Char
  | suit s => s.chars
  | group first second others =>
    '(' :: ((first :: second :: others).flatMap WrittenSuit.chars ++ [')'])

/-- What a suit or a group means. -/
def pattern : WrittenPattern → Pattern
  | suit s => .suit s.pattern
  | group first second others => .group ((first :: second :: others).map WrittenSuit.pattern)

/-- The characters that a shape is spelled with. -/
def spelled (ds : List WrittenPattern) : List Char := ds.flatMap chars

end WrittenPattern

/-! ## First characters -/

/-- Whether a text begins with no mark of a length. -/
def Unmarked (cs : List Char) : Prop := ∀ m : Modifier, ∀ c ∈ m.mark, cs.head? ≠ some c

theorem unmarked_nil : Unmarked [] := by
  intro m c _ h
  cases h

theorem unmarked_cons {c : Char} {cs : List Char} (hplus : c ≠ '+') (hminus : c ≠ '-') :
    Unmarked (c :: cs) := by
  intro m b hb h
  cases h
  cases m with
  | exact => cases hb
  | atLeast => exact hplus (List.mem_singleton.1 hb)
  | atMost => exact hminus (List.mem_singleton.1 hb)

theorem LengthDigit.ne_of_not {d : LengthDigit} {c : Char} (h : ¬ IsLengthDigit c) :
    d.char ≠ c := by
  rintro rfl
  exact h d.isLengthDigit

/-- Whether a suit may begin with a character. -/
def BeginsSuit (c : Char) : Prop := IsLengthDigit c ∨ c = 'X' ∨ c = 'x'

instance (c : Char) : Decidable (BeginsSuit c) := inferInstanceAs (Decidable (_ ∨ _))

/-- A suit begins with a digit or an `x`. -/
theorem WrittenSuit.exists_cons (s : WrittenSuit) : ∃ c r, s.chars = c :: r ∧ BeginsSuit c := by
  match s with
  | .length digit modifier => exact ⟨_, _, rfl, .inl digit.isLengthDigit⟩
  | .joker true => exact ⟨_, _, rfl, .inr (.inl rfl)⟩
  | .joker false => exact ⟨_, _, rfl, .inr (.inr rfl)⟩

/-- A character that no suit begins with. -/
theorem WrittenSuit.append_ne_cons {s : WrittenSuit} {c : Char} {r cs : List Char}
    (h : ¬ BeginsSuit c) : s.chars ++ r ≠ c :: cs := by
  obtain ⟨b, t, hchars, hb⟩ := s.exists_cons
  rw [hchars, List.cons_append]
  intro heq
  rw [List.cons.injEq] at heq
  rw [heq.1] at hb
  exact h hb

theorem WrittenSuit.unmarked_append (s : WrittenSuit) (r : List Char) :
    Unmarked (s.chars ++ r) := by
  obtain ⟨c, t, hchars, hc⟩ := s.exists_cons
  rw [hchars, List.cons_append]
  apply unmarked_cons
  · rintro rfl
    exact absurd hc (by decide)
  · rintro rfl
    exact absurd hc (by decide)

theorem WrittenPattern.unmarked_append (d : WrittenPattern) (r : List Char) :
    Unmarked (d.chars ++ r) := by
  match d with
  | .suit s => exact s.unmarked_append r
  | .group _ _ _ => exact unmarked_cons (by decide) (by decide)

/-- Parts with no mark in front have none in front of all of them. -/
theorem unmarked_flatMap_append {α : Type} {chars : α → List Char}
    (hchars : ∀ a r, Unmarked (chars a ++ r)) (l : List α) {r : List Char} (hr : Unmarked r) :
    Unmarked (l.flatMap chars ++ r) := by
  match l with
  | [] => exact hr
  | a :: l =>
    rw [List.flatMap_cons, List.append_assoc]
    exact hchars a _

theorem WrittenPattern.unmarked_spelled (ds : List WrittenPattern) : Unmarked (spelled ds) := by
  rw [← List.append_nil (spelled ds)]
  exact unmarked_flatMap_append unmarked_append ds unmarked_nil

theorem unmarked_members (ss : List WrittenSuit) (r : List Char) :
    Unmarked (ss.flatMap WrittenSuit.chars ++ ')' :: r) :=
  unmarked_flatMap_append WrittenSuit.unmarked_append ss (unmarked_cons (by decide) (by decide))

/-! ## At most one derivation -/

/-- A mark belongs to the length before it. -/
theorem mark_append_inj {m k : Modifier} {r t : List Char} (hr : m = .exact → Unmarked r)
    (ht : Unmarked t) (h : m.mark ++ r = k.mark ++ t) : m = k ∧ r = t := by
  cases m <;> cases k <;>
    simp only [Modifier.mark, List.nil_append, List.cons_append, List.cons.injEq] at h
  -- a mark on one side only would begin the other side's rest, which begins with none
  case exact.exact => exact ⟨rfl, h⟩
  case atLeast.atLeast => exact ⟨rfl, h.2⟩
  case atMost.atMost => exact ⟨rfl, h.2⟩
  case exact.atLeast => exact absurd (by rw [h]; rfl) (hr rfl .atLeast '+' (.head _))
  case exact.atMost => exact absurd (by rw [h]; rfl) (hr rfl .atMost '-' (.head _))
  case atLeast.exact => exact absurd (by rw [← h]; rfl) (ht .atLeast '+' (.head _))
  case atMost.exact => exact absurd (by rw [← h]; rfl) (ht .atMost '-' (.head _))
  case atLeast.atMost => exact absurd h.1 (by decide)
  case atMost.atLeast => exact absurd h.1 (by decide)

/-- Whether a suit is over where a text goes on: a length alone would take a mark. -/
def WrittenSuit.IsOver : WrittenSuit → List Char → Prop
  | length _ .exact, r => Unmarked r
  | _, _ => True

theorem WrittenSuit.isOver_of_unmarked (s : WrittenSuit) (r : List Char) (h : Unmarked r) :
    s.IsOver r := by
  match s with
  | .length _ .exact => exact h
  | .length _ .atLeast | .length _ .atMost | .joker _ => trivial

theorem WrittenSuit.append_inj {s t : WrittenSuit} {r u : List Char} (hr : s.IsOver r)
    (hu : Unmarked u) (h : s.chars ++ r = t.chars ++ u) : s = t ∧ r = u := by
  match s, t with
  | .length d m, .length e k =>
    simp only [chars, List.cons_append, List.cons.injEq] at h
    have hexact : m = .exact → Unmarked r := by
      rintro rfl
      exact hr
    obtain ⟨hmark, hrest⟩ := mark_append_inj hexact hu h.2
    have hdigit : d = e := by
      cases d
      cases e
      congr 1
      exact h.1
    exact ⟨by rw [hdigit, hmark], hrest⟩
  | .joker true, .joker true => exact ⟨rfl, (List.cons.inj h).2⟩
  | .joker false, .joker false => exact ⟨rfl, (List.cons.inj h).2⟩
  | .joker true, .joker false => exact absurd (List.cons.inj h).1 (by decide)
  | .joker false, .joker true => exact absurd (List.cons.inj h).1 (by decide)
  | .length d m, .joker true => exact absurd (List.cons.inj h).1 (d.ne_of_not (by decide))
  | .length d m, .joker false => exact absurd (List.cons.inj h).1 (d.ne_of_not (by decide))
  | .joker true, .length d m => exact absurd (List.cons.inj h).1.symm (d.ne_of_not (by decide))
  | .joker false, .length d m => exact absurd (List.cons.inj h).1.symm (d.ne_of_not (by decide))

section Parts

variable {α : Type} {chars : α → List Char} {isOver : α → List Char → Prop}

/-- Whether each part of a list is over where the next one begins, and the last of them where the
text goes on. -/
def AllOver (chars : α → List Char) (isOver : α → List Char → Prop) : List α → List Char → Prop
  | [], _ => True
  | a :: l, r => isOver a (l.flatMap chars ++ r) ∧ AllOver chars isOver l r

/-- **Parts that are over begin every reading of their text.** It is asked that one part can be
told from what follows, that only parts with no mark in front may follow, and that no part stands
where the reading `w` behind the parts begins. -/
theorem AllOver.exists_append {l m : List α} {r w : List Char} (hl : AllOver chars isOver l r)
    (hinj : ∀ a b r u, isOver a r → Unmarked u → chars a ++ r = chars b ++ u → a = b ∧ r = u)
    (hmarks : ∀ m : List α, Unmarked (m.flatMap chars ++ w)) (hend : ∀ a r, chars a ++ r ≠ w)
    (h : l.flatMap chars ++ r = m.flatMap chars ++ w) :
    ∃ m', m = l ++ m' ∧ r = m'.flatMap chars ++ w := by
  induction l generalizing m with
  | nil => exact ⟨m, rfl, h⟩
  | cons a l ih =>
    rw [List.flatMap_cons, List.append_assoc] at h
    cases m with
    | nil => exact absurd h (hend _ _)
    | cons b m =>
      rw [List.flatMap_cons, List.append_assoc] at h
      obtain ⟨rfl, hrest⟩ := hinj _ _ _ _ hl.1 (hmarks m) h
      obtain ⟨m', rfl, hr⟩ := ih hl.2 hrest
      exact ⟨m', rfl, hr⟩

/-- With nothing but unmarked text behind each of them, all parts are over. -/
theorem allOver_of_unmarked (hover : ∀ a r, Unmarked r → isOver a r)
    (hchars : ∀ a r, Unmarked (chars a ++ r)) (l : List α) {r : List Char} (hr : Unmarked r) :
    AllOver chars isOver l r := by
  induction l with
  | nil => trivial
  | cons a l ih => exact ⟨hover a _ (unmarked_flatMap_append hchars l hr), ih⟩

end Parts

/-- The members of a group, as far as they were read, begin all its members. -/
theorem exists_members_append {ss ts : List WrittenSuit} {r u : List Char}
    (hss : AllOver WrittenSuit.chars WrittenSuit.IsOver ss r)
    (h : ss.flatMap WrittenSuit.chars ++ r = ts.flatMap WrittenSuit.chars ++ ')' :: u) :
    ∃ ts', ts = ss ++ ts' ∧ r = ts'.flatMap WrittenSuit.chars ++ ')' :: u :=
  hss.exists_append (fun _ _ _ _ => WrittenSuit.append_inj) (fun m => unmarked_members m u)
    (fun _ _ => WrittenSuit.append_ne_cons (by decide)) h

theorem allOver_members (ss : List WrittenSuit) {r : List Char} (hr : Unmarked r) :
    AllOver WrittenSuit.chars WrittenSuit.IsOver ss r :=
  allOver_of_unmarked WrittenSuit.isOver_of_unmarked WrittenSuit.unmarked_append ss hr

/-- The closing parenthesis ends the members of a group. -/
theorem members_append_inj {ss ts : List WrittenSuit} {r u : List Char}
    (h : ss.flatMap WrittenSuit.chars ++ ')' :: r = ts.flatMap WrittenSuit.chars ++ ')' :: u) :
    ss = ts ∧ r = u := by
  have hclosing : Unmarked (')' :: r) := unmarked_cons (by decide) (by decide)
  obtain ⟨ts', rfl, hrest⟩ := exists_members_append (allOver_members ss hclosing) h
  match ts' with
  | [] => exact ⟨(List.append_nil ss).symm, (List.cons.inj hrest).2⟩
  | t :: ts' =>
    rw [List.flatMap_cons, List.append_assoc] at hrest
    exact absurd hrest.symm (WrittenSuit.append_ne_cons (by decide))

namespace WrittenPattern

/-- Whether a suit or a group is over where a text goes on. A group is closed. -/
def IsOver : WrittenPattern → List Char → Prop
  | suit s, r => s.IsOver r
  | group _ _ _, _ => True

theorem append_inj {d e : WrittenPattern} {r u : List Char} (hr : d.IsOver r) (hu : Unmarked u)
    (h : d.chars ++ r = e.chars ++ u) : d = e ∧ r = u := by
  match d, e with
  | .suit s, .suit t =>
    obtain ⟨hsuit, hrest⟩ := WrittenSuit.append_inj hr hu h
    exact ⟨by rw [hsuit], hrest⟩
  | .suit s, .group _ _ _ => exact absurd h (WrittenSuit.append_ne_cons (by decide))
  | .group _ _ _, .suit t => exact absurd h.symm (WrittenSuit.append_ne_cons (by decide))
  | .group a b l, .group a' b' l' =>
    simp only [chars, List.cons_append, List.append_assoc, List.cons.injEq, true_and] at h
    obtain ⟨hmembers, hrest⟩ := members_append_inj h
    simp only [List.cons.injEq] at hmembers
    exact ⟨by rw [hmembers.1, hmembers.2.1, hmembers.2.2], hrest⟩

theorem chars_ne_nil (d : WrittenPattern) : d.chars ≠ [] := by
  match d with
  | .suit s =>
    obtain ⟨c, r, hchars, -⟩ := s.exists_cons
    rw [chars, hchars]
    exact List.cons_ne_nil c r
  | .group _ _ _ => exact List.cons_ne_nil _ _

/-- **The patterns read so far begin every derivation of the text.** -/
theorem exists_spelled_append {ds es : List WrittenPattern} {r : List Char}
    (hds : AllOver chars IsOver ds r) (h : spelled ds ++ r = spelled es) :
    ∃ es', es = ds ++ es' ∧ r = spelled es' := by
  have hmarks : ∀ es : List WrittenPattern, Unmarked (es.flatMap chars ++ []) := by
    intro es
    rw [List.append_nil]
    exact unmarked_spelled es
  have hend : ∀ (e : WrittenPattern) (u : List Char), e.chars ++ u ≠ [] := by
    intro e u hnil
    exact e.chars_ne_nil (List.append_eq_nil_iff.1 hnil).1
  obtain ⟨es', hes, hr⟩ := hds.exists_append (fun _ _ _ _ => append_inj) hmarks hend
    (h.trans (List.append_nil _).symm)
  exact ⟨es', hes, hr.trans (List.append_nil _)⟩

theorem isOver_of_unmarked (d : WrittenPattern) (r : List Char) (h : Unmarked r) : d.IsOver r := by
  match d with
  | .suit s => exact s.isOver_of_unmarked r h
  | .group _ _ _ => trivial

theorem allOver_spelled (ds : List WrittenPattern) {r : List Char} (hr : Unmarked r) :
    AllOver chars IsOver ds r :=
  allOver_of_unmarked isOver_of_unmarked unmarked_append ds hr

/-- **What is spelled determines the derivation.** -/
theorem spelled_injective : Function.Injective spelled := by
  intro ds es h
  obtain ⟨es', rfl, hnil⟩ :=
    exists_spelled_append (allOver_spelled ds unmarked_nil) ((List.append_nil _).trans h)
  match es' with
  | [] => exact (List.append_nil ds).symm
  | e :: _ => exact absurd (List.append_eq_nil_iff.1 hnil.symm).1 e.chars_ne_nil

end WrittenPattern

end ContractBridge
