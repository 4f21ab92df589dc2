/-
Cards as written tokens.

A token names a suit and a rank in either order: `SA`, `AS`, `S10`, `10S`, `ts`, `♥7`. Where
both orders could be meant, the suit comes first. A card's label is its rank name and its suit
letter, `AS` or `10H`.
-/
import ContractBridge.Error
import ContractBridge.Text.LetterCase

set_option autoImplicit false

namespace ContractBridge

namespace Suit

/-- The suit that a value names if it is a text of one character. What cannot be a name at all
is of the wrong kind. -/
def ofText (v : Literal) : Except Error Suit :=
  match v with
  | .text s =>
    match s.toList with
    | [c] => (ofChar? c).elim (.error (.unknownSuit v)) .ok
    | _ => .error (.unknownSuit v)
  | _ => if v.isKey then .error (.unknownSuit v) else .error .wrongKind

/-- The suit with a number. -/
def ofLiteral (v : Literal) : Except Error Suit :=
  match v.number?.bind ofIndex? with
  | some suit => .ok suit
  | none => .error (.notASuit v)

end Suit

namespace Card

/-- The card of a suit number and a rank of the deck. -/
def new (suit rank : Int) : Except Error Card :=
  if 2 ≤ rank ∧ rank ≤ 14 then .ok (ofSuitRank suit rank) else .error (.rankOutOfRange rank)

/-- The rank that a word names: one mark, or ten in digits. -/
def rankOfWord? : List Char → Option Nat
  | ['1', '0'] => some 10
  | [c] => rankOfMark? c
  | _ => none

/-- A token split into the suit in front and the rank word behind it. -/
def suitFirst? : List Char → Option (Suit × Nat)
  | c :: r =>
    match Suit.ofChar? c, rankOfWord? r with
    | some suit, some rank => some (suit, rank)
    | _, _ => none
  | [] => none

/-- A token split into the rank word in front and the suit behind it. -/
def suitLast? (token : List Char) : Option (Suit × Nat) := suitFirst? (lastFirst token)
where
  lastFirst (token : List Char) : List Char :=
    match token.getLast? with
    | some c => c :: token.dropLast
    | none => []

/-- **The card that a token names,** blanks around it left out. -/
def parse (token : List Char) : Except Error Card :=
  let token := Text.strip token
  match (suitFirst? token).or (suitLast? token) with
  | some (suit, rank) => .ok (ofSuitRank suit.index rank)
  | none => .error (.badCardToken token)

/-- The suit of a card, or the refusal of its number. -/
def suit (c : Card) : Except Error Suit :=
  match c.suit? with
  | some suit => .ok suit
  | none => .error (.notASuit (.number c.suitIndex))

/-- The mark of a card's rank. -/
def rankMark (c : Card) : Except Error Char :=
  match rankMark? c.rank with
  | some mark => .ok mark
  | none => .error .noRankMark

/-- The name of a card's rank. -/
def rankName (c : Card) : Except Error String :=
  match rankName? c.rank with
  | some name => .ok name
  | none => .error .noRankMark

/-- The rank name and the suit letter. -/
def label (c : Card) : Except Error (List Char) := do
  let rank ← c.rankName
  let suit ← c.suit
  return rank.toList ++ [suit.letter]

end Card

end ContractBridge
