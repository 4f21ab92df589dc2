/-
Reading a card set.

A text of cards is read from left to right. A suit letter or symbol sets the suit of the ranks
behind it, spades to begin with; a rank adds a card, and no card may be named twice; dots,
spaces and tabs are skipped. Ten is written `T`, `1` or `10`. A text with dots and without suits
is read as four holdings, spades first.
-/
import ContractBridge.Card.Token

set_option autoImplicit false

namespace ContractBridge.CardSet

/-- Whether a character may stand between the cards of a text. -/
def isGap (c : Char) : Bool := c = '.' || c = ' ' || c = '\t'

/-- The set with a new card of the suit added; `text` is what an error quotes. -/
def addNew (text : List Char) (suit : Suit) (rank : Nat) (s : CardSet) : Except Error CardSet :=
  let card := Card.ofSuitRank suit.index rank
  if s.contains card then do .error (.repeatedCard (← card.label) text) else .ok (s.insert card)

/-- The set `s` with the cards of a text added, `suit` being the suit in force. -/
def readFrom (text : List Char) : Suit → CardSet → List Char → Except Error CardSet
  | _, s, [] => .ok s
  | suit, s, '1' :: '0' :: r => do readFrom text suit (← addNew text suit 10 s) r
  | suit, s, c :: r =>
    match Suit.ofChar? c with
    | some suit => readFrom text suit s r
    | none =>
      if isGap c then readFrom text suit s r
      else if c = '1' then do readFrom text suit (← addNew text suit 10 s) r
      else
        match Card.rankOfMark? c with
        | some rank => do readFrom text suit (← addNew text suit rank s) r
        | none => .error (.badCardCharacter c text)

/-- Whether a text is four holdings: it has a dot and no suit. -/
def isDotted (text : List Char) : Bool :=
  text.contains '.' && !text.any fun c => (Suit.ofChar? c).isSome

/-- Four holdings, each behind its suit letter. -/
def withSuits (holdings : List (List Char)) : List Char :=
  (List.zipWith (fun (suit : Suit) h => suit.letter :: h) Suit.all holdings).flatten

/-- **The cards of a text.** -/
def read (text : List Char) : Except Error CardSet :=
  if isDotted text then
    let holdings := Text.fields '.' (Text.strip text)
    if holdings.length = 4 then
      let text := withSuits holdings
      readFrom text .spades ∅ text
    else .error (.wrongHoldingCount (String.ofList text))
  else readFrom text .spades ∅ text

/-- The cards of a text with blanks around it; what is wrong with them is told in one sentence. -/
def parse (text : List Char) : Except Error CardSet :=
  let text := Text.strip text
  match read text with
  | .ok s => .ok s
  | .error e => .error (.invalidCards text e)

end ContractBridge.CardSet
