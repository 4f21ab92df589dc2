/-
Tokens of written patterns.

Every character of a pattern is a token of its own: a digit or a letter up to D is a length, `x`
is the joker, `+` and `-` are modifiers, and groups stand in parentheses. A token keeps its
place in the pattern, and an end mark follows the last one.
-/
import ContractBridge.Pattern

set_option autoImplicit false

namespace ContractBridge

/-- What a token says. -/
inductive TokenKind where
  | length (n : Int)
  | modifier (m : Modifier)
  | joker
  | openParen
  | closeParen
  | finish
  deriving DecidableEq, Repr

/-- **What a token says and where it stands.** -/
structure Token where
  kind : TokenKind
  position : Int
  deriving DecidableEq, Repr

namespace TokenKind

/-- The length that a digit names, up to thirteen, letters in either case. -/
def lengthOfDigit? : Char → Option Nat
  | '0' => some 0
  | '1' => some 1
  | '2' => some 2
  | '3' => some 3
  | '4' => some 4
  | '5' => some 5
  | '6' => some 6
  | '7' => some 7
  | '8' => some 8
  | '9' => some 9
  | 'A' | 'a' => some 10
  | 'B' | 'b' => some 11
  | 'C' | 'c' => some 12
  | 'D' | 'd' => some 13
  | _ => none

/-- What a character says in a pattern. -/
def ofChar (c : Char) : Except SyntaxFault TokenKind :=
  match lengthOfDigit? c with
  | some n => .ok (.length n)
  | none =>
    match c with
    | 'x' | 'X' => .ok .joker
    | '+' => .ok (.modifier .atLeast)
    | '-' => .ok (.modifier .atMost)
    | '(' => .ok .openParen
    | ')' => .ok .closeParen
    | 'E' | 'F' | 'e' | 'f' => .error (.tooLong c)
    | _ => .error (.unknownCharacter c)

end TokenKind

namespace Token

/-- The tokens of characters that begin at a place, with the end mark behind them. -/
def scanFrom : Nat → List Char → Except PatternFault (List Token)
  | place, [] => .ok [⟨.finish, place⟩]
  | place, c :: r =>
    match TokenKind.ofChar c with
    | .ok kind => do return ⟨kind, place⟩ :: (← scanFrom (place + 1) r)
    | .error fault => .error (.syntaxError fault place)

/-- **The tokens of a written pattern.** -/
def scan (s : List Char) : Except PatternFault (List Token) := scanFrom 0 s

end Token

end ContractBridge
