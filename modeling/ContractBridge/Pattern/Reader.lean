/-
Reading patterns from tokens.

A suit is a joker, or a length with a modifier behind it if one follows. A group is an opening
parenthesis, two or more suits and a closing one. Each reader gives back what it read and the
tokens behind it; the end mark is never taken. A fault inside a group that is left open, or that
is too small, is placed at its opening parenthesis.
-/
import ContractBridge.Pattern.Token

set_option autoImplicit false

namespace ContractBridge.Pattern

/-- The first suit of some tokens. -/
def readSuit : List Token → Except PatternFault (SuitPattern × List Token)
  | [] => .error .endOfTokens
  | ⟨.joker, _⟩ :: rest => .ok (.joker, rest)
  | ⟨.length _, _⟩ :: [] => .error .endOfTokens
  | ⟨.length n, _⟩ :: ⟨.modifier m, _⟩ :: rest => .ok (⟨n, m⟩, rest)
  | ⟨.length n, _⟩ :: rest => .ok (⟨n, .exact⟩, rest)
  | ⟨.openParen, place⟩ :: _ => .error (.syntaxError .nested place)
  | ⟨.closeParen, place⟩ :: _ => .error (.syntaxError .unmatched place)
  | ⟨.modifier _, place⟩ :: _ => .error (.syntaxError .strayModifier place)
  | ⟨.finish, place⟩ :: _ => .error (.syntaxError .unexpectedEnd place)

/-- The suits up to the closing parenthesis, which is taken too; the group opened at
`opening`. -/
def readMembers (opening : Int) : List Token → Except PatternFault (List SuitPattern × List Token)
  | [] => .error .endOfTokens
  | ⟨.closeParen, _⟩ :: rest => .ok ([], rest)
  | ⟨.finish, _⟩ :: _ => .error (.syntaxError .unmatched opening)
  | ⟨.joker, _⟩ :: rest => do
    let (members, rest) ← readMembers opening rest
    return (.joker :: members, rest)
  | ⟨.length n, _⟩ :: ⟨.modifier m, _⟩ :: rest => do
    let (members, rest) ← readMembers opening rest
    return (⟨n, m⟩ :: members, rest)
  | ⟨.length n, _⟩ :: rest => do
    let (members, rest) ← readMembers opening rest
    return (⟨n, .exact⟩ :: members, rest)
  | ⟨.openParen, place⟩ :: _ => .error (.syntaxError .nested place)
  | ⟨.modifier _, place⟩ :: _ => .error (.syntaxError .strayModifier place)

/-- The first pattern of some tokens. -/
def readPattern : List Token → Except PatternFault (Pattern × List Token)
  | ⟨.openParen, place⟩ :: rest => do
    let (members, rest) ← readMembers place rest
    if members.length < 2 then .error (.syntaxError .smallGroup place)
    else return (.group members, rest)
  | tokens => do
    let (p, rest) ← readSuit tokens
    return (.suit p, rest)

theorem length_lt_of_readSuit {tokens rest : List Token} {p : SuitPattern}
    (h : readSuit tokens = .ok (p, rest)) : rest.length < tokens.length := by
  unfold readSuit at h
  split at h <;> cases h <;> simp only [List.length_cons] <;> omega

theorem length_lt_of_readMembers {opening : Int} {tokens rest : List Token}
    {members : List SuitPattern} (h : readMembers opening tokens = .ok (members, rest)) :
    rest.length < tokens.length := by
  fun_induction readMembers opening tokens generalizing members rest with
  | case1 | case3 | case7 | case8 => cases h
  | case2 => cases h; simp
  | case4 _ tail ih | case6 _ _ tail _ ih =>
    cases hm : readMembers opening tail with
    | error e => rw [hm] at h; cases h
    | ok r =>
      rw [hm] at h; cases h
      have := ih hm
      simp only [List.length_cons]; omega
  | case5 _ _ _ _ tail ih =>
    cases hm : readMembers opening tail with
    | error e => rw [hm] at h; cases h
    | ok r =>
      rw [hm] at h; cases h
      have := ih hm
      simp only [List.length_cons]; omega

/-- A reader that succeeds takes a token. -/
theorem length_lt_of_readPattern {tokens rest : List Token} {p : Pattern}
    (h : readPattern tokens = .ok (p, rest)) : rest.length < tokens.length := by
  unfold readPattern at h
  split at h
  · rename_i place tail
    cases hm : readMembers place tail with
    | error e => rw [hm] at h; cases h
    | ok r =>
      obtain ⟨members, r⟩ := r
      have := length_lt_of_readMembers hm
      rw [hm] at h
      simp only [bind, Except.bind] at h
      split at h
      · cases h
      · cases h
        simp only [List.length_cons]; omega
  · cases hs : readSuit tokens with
    | error e => rw [hs] at h; cases h
    | ok r =>
      have := length_lt_of_readSuit hs
      rw [hs] at h; cases h
      exact this

/-- The patterns up to the end mark, and the tokens from the end mark on. -/
def readAll : List Token → Except PatternFault (List Pattern × List Token)
  | [] => .error .endOfTokens
  | ⟨.finish, place⟩ :: rest => .ok ([], ⟨.finish, place⟩ :: rest)
  | token :: tokens =>
    match h : readPattern (token :: tokens) with
    | .error fault => .error fault
    | .ok (p, rest) =>
      have := length_lt_of_readPattern h
      do
        let (ps, rest) ← readAll rest
        return (p :: ps, rest)
termination_by tokens => tokens.length
decreasing_by exact this

/-- **The patterns of some tokens,** which must describe four suits of thirteen cards. -/
def read (tokens : List Token) : Except PatternFault (List Pattern × List Token) := do
  let (ps, rest) ← readAll tokens
  checkArity ps
  return (ps, rest)

/-- The patterns of a written pattern. -/
def ofText (s : List Char) : Except PatternFault (List Pattern) := do
  let (ps, _) ← read (← Token.scan s)
  return ps

/-- The patterns of a written pattern, with the pattern told in what is wrong with it. -/
def parse (s : String) : Except Error (List Pattern) :=
  (ofText s.toList).mapError fun fault => .pattern fault (some s)

end ContractBridge.Pattern
