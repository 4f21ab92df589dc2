/-
The reader accepts the grammar.

Reading a pattern goes through tokens, one for each character. `Scanned` says what they are and
where they stand, and from there every reader has one lemma against the derivations of the grammar:
it fails with a syntax error where the text goes wrong, or what it took spells a derivation that is
over there, and it gives back the meaning of that (`readSuit_scanned` and its kin). As a text that
goes wrong has no derivation, and no text has two, nothing is left to say about the readers in the
other direction: a text is refused with a syntax error exactly if it has no derivation, and otherwise
the patterns are those of its only derivation.
-/
import ContractBridge.Pattern.Reader
import ContractBridge.Proofs.Pattern.Flaw
import ContractBridge.Proofs.Sequence

set_option autoImplicit false

namespace ContractBridge

open WrittenPattern

/-! ## Characters -/

namespace TokenKind

variable {c : Char}

/-- A character is a length exactly if it is a digit of a length, and the length is its value. -/
theorem lengthOfDigit?_eq_some_iff {n : Nat} :
    lengthOfDigit? c = some n ↔ ∃ d : LengthDigit, d.char = c ∧ d.value = n := by
  constructor
  · intro h
    unfold lengthOfDigit? at h
    split at h <;> cases h <;> exact ⟨⟨_, by decide⟩, rfl, rfl⟩
  · rintro ⟨d, rfl, rfl⟩
    exact d.forall_of_codePoint (P := fun d => lengthOfDigit? d.char = some d.value) (by decide)

theorem ofChar_digit (d : LengthDigit) : ofChar d.char = .ok (.length d.value) := by
  unfold ofChar
  rw [lengthOfDigit?_eq_some_iff.2 ⟨d, rfl, rfl⟩]

theorem ofChar_mark {m : Modifier} (h : c ∈ m.mark) : ofChar c = .ok (.modifier m) := by
  cases m with
  | exact => cases h
  | atLeast => rw [List.mem_singleton.1 h]; rfl
  | atMost => rw [List.mem_singleton.1 h]; rfl

/-- What a character is that a token was made of. -/
def IsSpelling (c : Char) : TokenKind → Prop
  | length n => ∃ d : LengthDigit, d.char = c ∧ (d.value : Int) = n
  | modifier m => m.mark = [c]
  | joker => c = 'x' ∨ c = 'X'
  | openParen => c = '('
  | closeParen => c = ')'
  | finish => False

theorem isSpelling_of_ofChar {kind : TokenKind} (h : ofChar c = .ok kind) :
    IsSpelling c kind := by
  unfold ofChar at h
  split at h
  · next n hn =>
    obtain ⟨d, hd, rfl⟩ := lengthOfDigit?_eq_some_iff.1 hn
    cases h
    exact ⟨d, hd, rfl⟩
  · split at h <;> cases h
    · exact .inl rfl
    · exact .inr rfl
    all_goals rfl

theorem not_beginsSuit_of_mark {m : Modifier} (h : m.mark = [c]) : ¬ BeginsSuit c := by
  cases m <;> cases h <;> decide

end TokenKind

/-! ## Tokens -/

/-- **The tokens of a text that begins at a place:** one for each character, where that stands, and
the end mark. -/
inductive Scanned : Nat → List Char → List Token → Prop
  | nil (place : Nat) : Scanned place [] [⟨.finish, place⟩]
  | cons {place : Nat} {c : Char} {kind : TokenKind} {cs : List Char} {tokens : List Token} :
      TokenKind.ofChar c = .ok kind → Scanned (place + 1) cs tokens →
        Scanned place (c :: cs) (⟨kind, place⟩ :: tokens)

/-- Whether a fault is one of syntax. -/
def PatternFault.IsSyntax (fault : PatternFault) : Prop :=
  ∃ cause place, fault = .syntaxError cause place

variable {place : Nat} {cs : List Char} {tokens : List Token}

/-- A text begins with a mark, which is its first token, or with no mark. -/
theorem Scanned.mark_or_unmarked (h : Scanned place cs tokens) :
    (∃ (m : Modifier) (b : Char) (r : List Char) (rest : List Token), m.mark = [b] ∧ cs = b :: r ∧
      tokens = ⟨.modifier m, place⟩ :: rest ∧ Scanned (place + 1) r rest) ∨ Unmarked cs := by
  cases h with
  | nil => exact .inr unmarked_nil
  | @cons _ c kind cs tokens hc hcs =>
    by_cases hkind : ∃ m, kind = .modifier m
    · obtain ⟨m, rfl⟩ := hkind
      exact .inl ⟨m, c, cs, tokens, TokenKind.isSpelling_of_ofChar hc, rfl, rfl, hcs⟩
    · refine .inr fun m b hb hhead => hkind ⟨m, ?_⟩
      cases hhead
      rw [TokenKind.ofChar_mark hb] at hc
      cases hc
      rfl

/-- The scanner makes the tokens of a text, or it refuses the first character that is none. -/
theorem scanFrom_scanned (place : Nat) (cs : List Char) :
    (∃ (l : List Char) (c : Char) (r : List Char) (cause : SyntaxFault), cs = l ++ c :: r ∧
      (∀ b ∈ l, ∃ kind, TokenKind.ofChar b = .ok kind) ∧ TokenKind.ofChar c = .error cause ∧
        Token.scanFrom place cs = .error (.syntaxError cause ((place + l.length : Nat) : Int))) ∨
      ∃ tokens, Token.scanFrom place cs = .ok tokens ∧ Scanned place cs tokens := by
  induction cs generalizing place with
  | nil => exact .inr ⟨_, rfl, .nil place⟩
  | cons c cs ih =>
    unfold Token.scanFrom
    cases hc : TokenKind.ofChar c with
    | error cause =>
      exact .inl ⟨[], c, cs, cause, rfl, fun b hb => absurd hb List.not_mem_nil, hc, rfl⟩
    | ok kind =>
      rcases ih (place + 1) with ⟨l, b, r, cause, rfl, hl, hb, hfault⟩ | ⟨tokens, htokens, hscanned⟩
      · refine .inl ⟨c :: l, b, r, cause, rfl, List.forall_mem_cons.2 ⟨⟨kind, hc⟩, hl⟩, hb, ?_⟩
        dsimp only
        rw [hfault, List.length_cons, Nat.add_assoc, Nat.add_comm 1]
        rfl
      · refine .inr ⟨⟨kind, place⟩ :: tokens, ?_, .cons hc hscanned⟩
        dsimp only
        rw [htokens]
        rfl

/-- Every character of a text that has tokens is one. -/
theorem Scanned.exists_ofChar (h : Scanned place cs tokens) :
    ∀ c ∈ cs, ∃ kind, TokenKind.ofChar c = .ok kind := by
  induction h with
  | nil => exact fun c hc => absurd hc List.not_mem_nil
  | cons hc _ ih => exact List.forall_mem_cons.2 ⟨⟨_, hc⟩, ih⟩

theorem WrittenSuit.exists_ofChar (s : WrittenSuit) :
    ∀ c ∈ s.chars, ∃ kind, TokenKind.ofChar c = .ok kind := by
  match s with
  | .length d m =>
    intro c hc
    rcases List.mem_cons.1 hc with rfl | hc
    · exact ⟨_, TokenKind.ofChar_digit d⟩
    · exact ⟨_, TokenKind.ofChar_mark hc⟩
  | .joker true =>
    intro c hc
    rw [List.mem_singleton.1 hc]
    exact ⟨.joker, rfl⟩
  | .joker false =>
    intro c hc
    rw [List.mem_singleton.1 hc]
    exact ⟨.joker, rfl⟩

/-- Every character of a shape is a token. -/
theorem exists_ofChar_of_mem_spelled {ds : List WrittenPattern} :
    ∀ c ∈ spelled ds, ∃ kind, TokenKind.ofChar c = .ok kind := by
  intro c hc
  obtain ⟨d, -, hc⟩ := List.mem_flatMap.1 hc
  match d with
  | .suit s => exact s.exists_ofChar c hc
  | .group first second others =>
    rcases List.mem_cons.1 hc with rfl | hc
    · exact ⟨.openParen, rfl⟩
    · rcases List.mem_append.1 hc with hc | hc
      · obtain ⟨s, -, hc⟩ := List.mem_flatMap.1 hc
        exact s.exists_ofChar c hc
      · rw [List.mem_singleton.1 hc]
        exact ⟨.closeParen, rfl⟩

/-! ## What a reader takes spells a derivation -/

namespace Pattern

/-- A length with no mark behind it is exact. -/
theorem readSuit_exact {n position : Int} (hcs : Unmarked cs) (h : Scanned place cs tokens) :
    readSuit (⟨.length n, position⟩ :: tokens) = .ok (⟨n, .exact⟩, tokens) := by
  cases h with
  | nil => rfl
  | @cons _ b kind r rest hb _ =>
    cases kind with
    | modifier m =>
      have hmark : m.mark = [b] := TokenKind.isSpelling_of_ofChar hb
      exact absurd rfl (hcs m b (by rw [hmark]; exact List.mem_singleton_self b))
    | length k => rfl
    | joker => rfl
    | openParen => rfl
    | closeParen => rfl
    | finish => rfl

/-- A length with a mark is over, whatever stands behind the mark. -/
theorem isOver_of_mark {d : LengthDigit} {m : Modifier} {b : Char} (h : m.mark = [b])
    (r : List Char) : (WrittenSuit.length d m).IsOver r := by
  cases m with
  | exact => cases h
  | atLeast | atMost => trivial

theorem readSuit_scanned (h : Scanned place cs tokens) :
    (∃ cause, readSuit tokens = .error (.syntaxError cause place) ∧
      ∀ c r, cs = c :: r → ¬ BeginsSuit c) ∨
      ∃ (s : WrittenSuit) (r : List Char) (rest : List Token), cs = s.chars ++ r ∧ s.IsOver r ∧
        Scanned (place + s.chars.length) r rest ∧ readSuit tokens = .ok (s.pattern, rest) := by
  cases h with
  | nil => exact .inl ⟨_, rfl, by rintro c r ⟨⟩⟩
  | @cons _ c kind cs tokens hc hcs =>
    have hspelling := TokenKind.isSpelling_of_ofChar hc
    have hstray (hno : ¬ BeginsSuit c) : ∀ b r, c :: cs = b :: r → ¬ BeginsSuit b := by
      rintro b r ⟨⟩
      exact hno
    cases kind with
    | finish => exact hspelling.elim
    | openParen => exact .inl ⟨_, rfl, hstray (by rw [show c = '(' from hspelling]; decide)⟩
    | closeParen => exact .inl ⟨_, rfl, hstray (by rw [show c = ')' from hspelling]; decide)⟩
    | modifier m => exact .inl ⟨_, rfl, hstray (TokenKind.not_beginsSuit_of_mark hspelling)⟩
    | joker =>
      rcases hspelling with rfl | rfl
      · exact .inr ⟨.joker false, cs, tokens, rfl, trivial, hcs, rfl⟩
      · exact .inr ⟨.joker true, cs, tokens, rfl, trivial, hcs, rfl⟩
    | length n =>
      obtain ⟨d, rfl, rfl⟩ := hspelling
      -- the token behind the length says whether the length has a mark
      rcases hcs.mark_or_unmarked with ⟨m, b, r, rest, hmark, rfl, rfl, hr⟩ | hunmarked
      · refine .inr ⟨.length d m, r, rest, ?_, isOver_of_mark hmark r, ?_, rfl⟩
        · rw [WrittenSuit.chars, hmark]
          rfl
        · rw [WrittenSuit.chars, hmark]
          exact hr
      · exact .inr ⟨.length d .exact, cs, tokens, rfl, hunmarked, hcs, readSuit_exact hunmarked hcs⟩

/-- **What a reader of members comes to,** where the members begin at `place`: the group is not
closed, there is something between its members, or it has suits up to the closing parenthesis. -/
inductive ReadsMembers (opening : Int) (place : Nat) :
    List Char → Except PatternFault (List SuitPattern × List Token) → Prop
  | unclosed (ss : List WrittenSuit) : ReadsMembers opening place (ss.flatMap WrittenSuit.chars)
      (.error (.syntaxError .unmatched opening))
  | stray (ss : List WrittenSuit) {c : Char} {r : List Char} {fault : PatternFault}
      (cause : SyntaxFault) :
      AllOver WrittenSuit.chars WrittenSuit.IsOver ss (c :: r) → c ≠ ')' → ¬ BeginsSuit c →
        fault = .syntaxError cause
          ((place + (ss.flatMap WrittenSuit.chars).length : Nat) : Int) →
          ReadsMembers opening place (ss.flatMap WrittenSuit.chars ++ c :: r) (.error fault)
  | closed (ss : List WrittenSuit) {r : List Char} {rest : List Token} :
      Scanned (place + (ss.flatMap WrittenSuit.chars).length + 1) r rest →
        ReadsMembers opening place (ss.flatMap WrittenSuit.chars ++ ')' :: r)
          (.ok (ss.map WrittenSuit.pattern, rest))

/-- A suit read before other members. -/
theorem ReadsMembers.cons {opening : Int} {s : WrittenSuit} {r : List Char}
    {result : Except PatternFault (List SuitPattern × List Token)} (hs : s.IsOver r)
    (h : ReadsMembers opening (place + s.chars.length) r result) :
    ReadsMembers opening place (s.chars ++ r)
      (do let (members, rest) ← result; return (s.pattern :: members, rest)) := by
  have hplace (ss : List WrittenSuit) : place + ((s :: ss).flatMap WrittenSuit.chars).length =
      place + s.chars.length + (ss.flatMap WrittenSuit.chars).length := by
    rw [List.flatMap_cons, List.length_append, Nat.add_assoc]
  cases h with
  | unclosed ss => exact .unclosed (s :: ss)
  | stray ss cause hss hclose hsuit hfault =>
    rw [← hplace] at hfault
    rw [← List.append_assoc]
    exact .stray (s :: ss) cause ⟨hs, hss⟩ hclose hsuit hfault
  | closed ss hrest =>
    rw [← hplace] at hrest
    rw [← List.append_assoc]
    exact .closed (s :: ss) hrest

theorem readMembers_scanned {opening : Int} (h : Scanned place cs tokens) :
    ReadsMembers opening place cs (readMembers opening tokens) := by
  -- in the order of the reader: no token at all, the closing parenthesis, the end of the text, an
  -- `x`, a length with its mark, a length alone, and the two tokens that begin no suit
  fun_induction readMembers opening tokens generalizing place cs with
  | case1 => cases h
  | case2 position rest =>
    cases h with
    | cons hc hrest =>
      rw [show _ = ')' from TokenKind.isSpelling_of_ofChar hc]
      exact .closed [] hrest
  | case3 =>
    cases h with
    | nil => exact .unclosed []
    | cons hc _ => exact (TokenKind.isSpelling_of_ofChar hc).elim
  | case4 position tail ih =>
    cases h with
    | cons hc hrest =>
      rcases TokenKind.isSpelling_of_ofChar hc with rfl | rfl
      · exact ReadsMembers.cons (s := .joker false) trivial (ih hrest)
      · exact ReadsMembers.cons (s := .joker true) trivial (ih hrest)
  | case5 n position m position' tail ih =>
    cases h with
    | cons hc hrest =>
      cases hrest with
      | @cons _ b _ r _ hb hr =>
        obtain ⟨d, rfl, rfl⟩ := TokenKind.isSpelling_of_ofChar hc
        have hmark : m.mark = [b] := TokenKind.isSpelling_of_ofChar hb
        have hreads : ReadsMembers opening place ((WrittenSuit.length d m).chars ++ r) _ :=
          ReadsMembers.cons (isOver_of_mark hmark r)
            (ih (by rw [WrittenSuit.chars, hmark]; exact hr))
        rw [WrittenSuit.chars, hmark] at hreads
        exact hreads
  | case6 n position tail hno ih =>
    cases h with
    | cons hc hrest =>
      obtain ⟨d, rfl, rfl⟩ := TokenKind.isSpelling_of_ofChar hc
      rcases hrest.mark_or_unmarked with ⟨m, _, _, rest, _, _, rfl, _⟩ | hunmarked
      · exact (hno m _ rest rfl).elim
      · exact ReadsMembers.cons (s := .length d .exact) hunmarked (ih hrest)
  | case7 =>
    cases h with
    | cons hc _ =>
      rw [show _ = '(' from TokenKind.isSpelling_of_ofChar hc]
      exact .stray [] .nested trivial (by decide) (by decide) rfl
  | case8 m =>
    cases h with
    | @cons _ c _ _ _ hc _ =>
      have hmark : m.mark = [c] := TokenKind.isSpelling_of_ofChar hc
      have hclose : c ≠ ')' := by
        rintro rfl
        cases m <;> cases hmark
      exact .stray [] .strayModifier trivial hclose
        (TokenKind.not_beginsSuit_of_mark hmark) rfl

theorem readPattern_scanned (hcs : cs ≠ []) (h : Scanned place cs tokens) :
    (∃ cause k, Flaw cs k ∧
      readPattern tokens = .error (.syntaxError cause ((place + k : Nat) : Int))) ∨
      ∃ (d : WrittenPattern) (r : List Char) (rest : List Token), cs = d.chars ++ r ∧ d.IsOver r ∧
        Scanned (place + d.chars.length) r rest ∧ readPattern tokens = .ok (d.pattern, rest) := by
  unfold readPattern
  split
  · next position rest =>
    cases h with
    | @cons _ c _ cs _ hc hrest =>
      rw [show c = '(' from TokenKind.isSpelling_of_ofChar hc]
      have hreads : ReadsMembers place (place + 1) cs (readMembers place rest) :=
        readMembers_scanned hrest
      generalize readMembers place rest = result at hreads
      cases hreads with
      | unclosed ss => exact .inl ⟨_, 0, .unclosed ss, rfl⟩
      | stray ss cause hss hclose hsuit hfault =>
        refine .inl ⟨cause, _, .inside hss hclose hsuit, ?_⟩
        rw [hfault, Nat.add_assoc, Nat.add_comm 1]
        rfl
      | @closed ss r tail htail =>
        match ss with
        | [] => exact .inl ⟨_, 0, .small [] Nat.zero_lt_two, rfl⟩
        | [s] => exact .inl ⟨_, 0, .small [s] Nat.one_lt_two, rfl⟩
        | a :: b :: l =>
          refine .inr ⟨.group a b l, r, tail, ?_, trivial, ?_, rfl⟩
          · rw [WrittenPattern.chars, List.cons_append, List.append_assoc]
            rfl
          · rw [WrittenPattern.chars, List.length_cons, List.length_append, List.length_singleton]
            rwa [show place + 1 + ((a :: b :: l).flatMap WrittenSuit.chars).length + 1 =
              place + (((a :: b :: l).flatMap WrittenSuit.chars).length + 1 + 1) by omega] at htail
  · next hopen =>
    rcases readSuit_scanned h with ⟨cause, hfault, hstray⟩ | ⟨s, r, rest, hsuit⟩
    · obtain ⟨c, cs, rfl⟩ := List.exists_cons_of_ne_nil hcs
      have hne : c ≠ '(' := by
        rintro rfl
        cases h with
        | cons hc _ =>
          cases hc
          exact hopen _ _ rfl
      rw [hfault]
      exact .inl ⟨cause, 0, .stray hne (hstray c cs rfl), rfl⟩
    · obtain ⟨hchars, hover, hrest, hread⟩ := hsuit
      rw [hread]
      exact .inr ⟨.suit s, r, rest, hchars, hover, hrest, rfl⟩

theorem readAll_scanned (h : Scanned place cs tokens) :
    (∃ (ds : List WrittenPattern) (r : List Char) (k : Nat) (cause : SyntaxFault),
      cs = spelled ds ++ r ∧ AllOver WrittenPattern.chars WrittenPattern.IsOver ds r ∧ Flaw r k ∧
        readAll tokens =
          .error (.syntaxError cause ((place + (spelled ds).length + k : Nat) : Int))) ∨
      ∃ (ds : List WrittenPattern) (rest : List Token), cs = spelled ds ∧
        readAll tokens = .ok (ds.map WrittenPattern.pattern, rest) := by
  fun_induction readAll tokens generalizing place cs with
  | case1 => cases h
  | case2 position rest =>
    cases h with
    | nil => exact .inr ⟨[], _, rfl, rfl⟩
    | cons hc _ => exact (TokenKind.isSpelling_of_ofChar hc).elim
  | case3 token tokens hmore fault hread =>
    have hcs : cs ≠ [] := by
      rintro rfl
      cases h
      exact hmore _ rfl
    -- what the first pattern came to is in `hread`, and it has to agree with what it can come to
    rcases readPattern_scanned hcs h with ⟨cause, k, hflaw, hfault⟩ | ⟨_, _, _, _, _, _, hok⟩
    · rw [hread] at hfault
      cases hfault
      exact .inl ⟨[], cs, k, cause, rfl, trivial, hflaw, rfl⟩
    · rw [hread] at hok
      cases hok
  | case4 token tokens hmore p r hread _ ih =>
    have hcs : cs ≠ [] := by
      rintro rfl
      cases h
      exact hmore _ rfl
    rcases readPattern_scanned hcs h with ⟨_, _, _, hfault⟩ | ⟨d, r', _, rfl, hd, hrest, hok⟩
    · rw [hread] at hfault
      cases hfault
    · rw [hread] at hok
      cases hok
      rcases ih hrest with ⟨ds, u, k, cause, rfl, hds, hflaw, hfault⟩ | ⟨ds, rest, rfl, hds⟩
      · refine .inl ⟨d :: ds, u, k, cause, ?_, ⟨hd, hds⟩, hflaw, ?_⟩
        · rw [spelled, spelled, List.flatMap_cons, List.append_assoc]
        · rw [hfault, spelled, spelled, List.flatMap_cons, List.length_append, ← Nat.add_assoc]
          rfl
      · rw [hds]
        exact .inr ⟨d :: ds, rest, rfl, rfl⟩

/-! ## Written patterns -/

/-- Some patterns, if they describe four suits of thirteen cards. -/
def fourSuits (ps : List Pattern) : Except PatternFault (List Pattern) := do
  checkArity ps
  return ps

theorem fourSuits_eq_ok_iff {ps qs : List Pattern} :
    fourSuits ps = .ok qs ↔ checkArity ps = .ok () ∧ ps = qs := by
  unfold fourSuits
  rw [except_bind_eq_ok_iff]
  constructor
  · rintro ⟨_, hcheck, heq⟩
    cases heq
    exact ⟨hcheck, rfl⟩
  · rintro ⟨hcheck, rfl⟩
    exact ⟨(), hcheck, rfl⟩

theorem fourSuits_eq_error_iff {ps : List Pattern} {fault : PatternFault} :
    fourSuits ps = .error fault ↔ checkArity ps = .error fault := by
  unfold fourSuits
  rw [except_bind_eq_error_iff]
  constructor
  · rintro (hcheck | ⟨_, -, heq⟩)
    · exact hcheck
    · cases heq
  · exact .inl

/-- What is wrong with four suits is not a matter of syntax. -/
theorem not_isSyntax_of_checkArity {ps : List Pattern} {fault : PatternFault}
    (h : checkArity ps = .error fault) : ¬ fault.IsSyntax := by
  rintro ⟨cause, place, rfl⟩
  unfold checkArity checkCount checkCards at h
  split at h
  · cases h
  · split at h
    · cases h
    · dsimp only [bind, Except.bind] at h
      split at h
      · cases h
      · split at h <;> cases h

/-- Behind the scanner there are the reader and the check of the suits. -/
theorem ofText_of_scanFrom {text : List Char} (h : Token.scanFrom 0 text = .ok tokens) :
    ofText text = (do let (ps, _) ← readAll tokens; fourSuits ps) := by
  rw [ofText, Token.scan, h]
  show (do let (ps, _) ← read tokens; return ps : Except PatternFault (List Pattern)) = _
  rw [read]
  cases readAll tokens with
  | error fault => rfl
  | ok result =>
    unfold fourSuits
    cases hcheck : checkArity result.1 with
    | error fault => simp only [bind, Except.bind, hcheck]
    | ok _ => simp only [bind, Except.bind, hcheck]; rfl

/-- **What the reading of a text comes to.** It is refused at its first character that is no token,
or else at the place of its fault, or it has a derivation and is read as the patterns of that. -/
theorem ofText_cases (text : List Char) :
    (∃ (l : List Char) (c : Char) (r : List Char) (cause : SyntaxFault), text = l ++ c :: r ∧
      (∀ b ∈ l, ∃ kind, TokenKind.ofChar b = .ok kind) ∧ TokenKind.ofChar c = .error cause ∧
        ofText text = .error (.syntaxError cause (l.length : Nat))) ∨
    (∃ (place : Nat) (cause : SyntaxFault), (∀ c ∈ text, ∃ kind, TokenKind.ofChar c = .ok kind) ∧
      IsFaultPlace text place ∧ ofText text = .error (.syntaxError cause place)) ∨
    ∃ ds, text = spelled ds ∧ ofText text = fourSuits (ds.map WrittenPattern.pattern) := by
  rcases scanFrom_scanned 0 text with ⟨l, c, r, cause, htext, hl, hc, hfault⟩ |
    ⟨tokens, hscan, hscanned⟩
  · refine .inl ⟨l, c, r, cause, htext, hl, hc, ?_⟩
    rw [ofText, Token.scan, hfault, Nat.zero_add]
    rfl
  · rw [ofText_of_scanFrom hscan]
    rcases readAll_scanned hscanned with ⟨ds, r, k, cause, rfl, hds, hflaw, hfault⟩ |
      ⟨ds, rest, htext, hall⟩
    · refine .inr (.inl ⟨_, cause, hscanned.exists_ofChar, isFaultPlace_of_flaw hds hflaw, ?_⟩)
      rw [hfault, Nat.zero_add]
      rfl
    · refine .inr (.inr ⟨ds, htext, ?_⟩)
      rw [hall]
      rfl

/-- A text with a derivation is read as the patterns of it. -/
theorem ofText_spelled (ds : List WrittenPattern) :
    ofText (spelled ds) = fourSuits (ds.map WrittenPattern.pattern) := by
  rcases ofText_cases (spelled ds) with ⟨l, c, r, cause, hds, -, hc, -⟩ | ⟨_, _, -, hplace, -⟩ |
    ⟨es, hes, hread⟩
  · have hmem : c ∈ spelled ds := by
      rw [hds]
      exact List.mem_append_right l List.mem_cons_self
    obtain ⟨kind, hkind⟩ := exists_ofChar_of_mem_spelled c hmem
    rw [hc] at hkind
    cases hkind
  · exact absurd hplace not_isFaultPlace_spelled
  · rw [hread, spelled_injective hes]

/-- A text without a derivation is refused with a syntax error. -/
theorem exists_fault_of_not_spelled {text : List Char} (h : ∀ ds, spelled ds ≠ text) :
    ∃ fault, ofText text = .error fault ∧ fault.IsSyntax := by
  rcases ofText_cases text with ⟨_, _, _, cause, -, -, -, hfault⟩ | ⟨_, cause, -, -, hfault⟩ |
    ⟨ds, hds, -⟩
  · exact ⟨_, hfault, cause, _, rfl⟩
  · exact ⟨_, hfault, cause, _, rfl⟩
  · exact absurd hds.symm (h ds)

theorem parse_eq_ok_iff {text : String} {ps : List Pattern} :
    parse text = .ok ps ↔ ofText text.toList = .ok ps := by
  unfold parse
  cases ofText text.toList with
  | error fault => exact ⟨nofun, nofun⟩
  | ok qs => exact ⟨fun h => by cases h; rfl, fun h => by cases h; rfl⟩

theorem parse_eq_error_iff {text : String} {e : Error} :
    parse text = .error e ↔
      ∃ fault, ofText text.toList = .error fault ∧ e = .pattern fault (some text) := by
  unfold parse
  cases ofText text.toList with
  | error fault =>
    constructor
    · rintro ⟨⟩
      exact ⟨fault, rfl, rfl⟩
    · rintro ⟨_, hfault, rfl⟩
      cases hfault
      rfl
  | ok qs => exact ⟨nofun, nofun⟩

/-- **A written pattern is refused for its syntax exactly if the grammar has no derivation of it.**
A text has at most one derivation, and a text that has one is read as the patterns which that means,
part by part, unless they are not four suits of thirteen cards; nothing else can be wrong. -/
theorem parse_iff_derivation :
    (∀ text : String,
      (∃ cause place, parse text = .error (.pattern (.syntaxError cause place) (some text))) ↔
        ¬ ∃ ds, spelled ds = text.toList) ∧
      Function.Injective spelled ∧
      ∀ ds, parse (String.ofList (spelled ds)) =
        (fourSuits (ds.map WrittenPattern.pattern)).mapError fun fault =>
          .pattern fault (some (String.ofList (spelled ds))) := by
  refine ⟨fun text => ⟨?_, fun hnone => ?_⟩, spelled_injective, fun ds => ?_⟩
  · rintro ⟨cause, place, hparse⟩ ⟨ds, htext⟩
    rw [parse, ← htext, ofText_spelled, fourSuits] at hparse
    cases hcheck : checkArity (ds.map WrittenPattern.pattern) with
    | error fault =>
      rw [hcheck] at hparse
      cases hparse
      exact not_isSyntax_of_checkArity hcheck ⟨cause, place, rfl⟩
    | ok _ =>
      rw [hcheck] at hparse
      cases hparse
  · obtain ⟨_, hfault, cause, place, rfl⟩ :=
      exists_fault_of_not_spelled fun ds htext => hnone ⟨ds, htext⟩
    refine ⟨cause, place, ?_⟩
    rw [parse, hfault]
    rfl
  · rw [parse, String.toList_ofList, ofText_spelled]

end Pattern

end ContractBridge
