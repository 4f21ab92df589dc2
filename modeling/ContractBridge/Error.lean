/-
Everything that can go wrong, by cause.

A constructor names a cause and carries what its message mentions. `message?` is the wording;
a few causes (an index past the end of a table, a list that does not form a block) have no
wording of their own.
-/
import ContractBridge.Literal
import ContractBridge.CardSet.Text
import ContractBridge.Seat

set_option autoImplicit false

namespace ContractBridge

/-! ## Shape patterns -/

/-- What the grammar of patterns refuses. -/
inductive SyntaxFault where
  | tooLong (c : Char)
  | unknownCharacter (c : Char)
  | smallGroup
  | unmatched
  | nested
  | strayModifier
  | unexpectedEnd
  deriving DecidableEq, Repr

/-- Why a pattern does not describe four suits of thirteen cards. -/
inductive ArityFault where
  | fewSuits (given : Nat)
  | manySuits (given : Nat)
  | atLeast (cards : Int)
  | atMost (cards : Int)
  deriving DecidableEq, Repr

/-- Why a pattern is refused. -/
inductive PatternFault where
  | syntaxError (fault : SyntaxFault) (position : Int)
  | arity (fault : ArityFault)
  /-- The tokens stop before the end mark. -/
  | endOfTokens
  /-- A group is a member of a group. -/
  | nestedGroup
  deriving DecidableEq, Repr

/-! ## All causes -/

/-- Why an operation is refused. -/
inductive Error where
  -- values that name nothing
  | notASuit (given : Literal)
  | notASeat (given : Literal)
  | notAVulnerability (given : Literal)
  | notAModifier (given : Literal)
  | notARandomSource (given : Literal)
  | unknownSuit (given : Literal)
  | unknownSeat (given : List Char)
  | unknownVulnerability (given : List Char)
  | unknownFormat (given : String)
  -- cards and hands
  | rankOutOfRange (rank : Int)
  | badCardToken (token : List Char)
  | wrongHoldingCount (text : String)
  | badCardCharacter (c : Char) (text : List Char)
  | repeatedCard (label : List Char) (text : List Char)
  | invalidCards (text : List Char) (cause : Error)
  | wrongHandSize (size : Nat) (text : String)
  | noRankMark
  | negativeShift
  | gridShape
  -- drawing
  | negativeDraw (count : Int)
  | notEnoughCards (count : Int) (size : Nat)
  | sourceExhausted
  | negativeSeed
  -- shapes
  | pattern (fault : PatternFault) (source : Option String)
  | tableSize
  | badDistribution
  | fourLengths
  | fourRanges
  -- point counts
  | pointValues
  -- deals
  | badDealText (text : List Char)
  | wrongHandCount (count : Nat)
  | wrongSeatSize (seat : Seat) (size : Nat)
  | dealtTwice (cards : CardSet)
  | noDeals
  -- dealing
  | wrongSettingCount
  | predealTooLarge (seat : Seat) (size : Nat)
  | attemptLimit
  | dealCount
  | unsatisfied (attempts : Int)
  | cancelled (attempts : Nat)
  /-- No attempt of an unlimited dealer can ever differ from the last one. -/
  | endless
  -- blocks of numbers and plain values
  | outOfTable
  | ragged
  | tooLarge
  | unreadableNumber
  | tooManyDigits
  | wrongKind
  /-- A value of this kind has no such operation. -/
  | unsupported
  deriving Repr

namespace SyntaxFault

/-- The wording of a syntax fault at a position. -/
def message (position : Int) : SyntaxFault → List Char
  | tooLong c =>
    "suit is too long (".toList ++ Text.quote [c] ++ " at position ".toList ++
      Text.decimal position ++ [')']
  | unknownCharacter c =>
    "unknown character ".toList ++ Text.quote [c] ++ place
  | smallGroup => "a group needs at least two suits".toList ++ place
  | unmatched => "non matching parentheses".toList ++ place
  | nested => "nested parentheses".toList ++ place
  | strayModifier => "modifier without a length".toList ++ place
  | unexpectedEnd => "unexpected end of pattern".toList ++ place
where
  place : List Char := " at position ".toList ++ Text.decimal position

end SyntaxFault

namespace ArityFault

/-- The wording of an arity fault. -/
def message : ArityFault → List Char
  | fewSuits n => "shape is too short: ".toList ++ Text.decimal n ++ " suits given".toList
  | manySuits n => "shape is too long: ".toList ++ Text.decimal n ++ " suits given".toList
  | atLeast n => "shape is too long: at least ".toList ++ Text.decimal n ++ " cards".toList
  | atMost n => "shape is too short: at most ".toList ++ Text.decimal n ++ " cards".toList

end ArityFault

namespace PatternFault

/-- The wording of a fault, with the pattern before it where one is known. -/
def message? (source : Option String) : PatternFault → Option (List Char)
  | syntaxError fault position => some (source.elim [] lead ++ fault.message position)
  | arity fault => some (source.elim [] lead ++ fault.message)
  | endOfTokens | nestedGroup => none
where
  lead (s : String) : List Char :=
    "error creating shape ".toList ++ Text.quote s.toList ++ ": ".toList

end PatternFault

namespace Error

/-- Whether hands, a deal or the settings of a dealer are refused for a cause. What is wrong with a
text of cards is no such cause, but a hand that is read from it is refused for one. -/
def isDealing : Error → Bool
  | unknownSeat _ | unknownVulnerability _ | invalidCards _ _ | wrongHandSize _ _ | badDealText _
  | wrongHandCount _ | wrongSeatSize _ _ | wrongSettingCount | predealTooLarge _ _ | attemptLimit
  | notEnoughCards _ _ | dealtTwice _ => true
  | _ => false

/-- The cards of a set as a message shows them. -/
def cardsShown (s : CardSet) : List Char := s.text?.getD []

/-- The wording of a card set refused because its cards are already dealt. A set that cannot be
printed is refused for that instead. -/
def ofSharedCards (s : CardSet) : Error := if s.text?.isSome then dealtTwice s else noRankMark

/-- **The wording of an error,** for the causes that have one. -/
def message? : Error → Option (List Char)
  | notASuit v => some (v.shown ++ " is not a valid Suit".toList)
  | notASeat v => some (v.shown ++ " is not a valid Seat".toList)
  | notAVulnerability v => some (v.shown ++ " is not a valid Vulnerability".toList)
  | notAModifier v => some (v.shown ++ " is not a valid Modifier".toList)
  | notARandomSource v => some ("Cannot build a random generator from ".toList ++ v.shown ++ ['.'])
  | unknownSuit v => some ("Unrecognized suit: ".toList ++ v.shown ++ ['.'])
  | unknownSeat s => some ("Unrecognized seat: ".toList ++ Text.quote s ++ ['.'])
  | unknownVulnerability s =>
    some ("Unrecognized vulnerability: ".toList ++ Text.quote s ++ ['.'])
  | unknownFormat s => some ("Unknown format for a deal: ".toList ++ Text.quote s.toList ++ ['.'])
  | rankOutOfRange n =>
    some ("Rank must be between 2 and 14, got ".toList ++ Text.decimal n ++ ['.'])
  | badCardToken t => some ("Unrecognized card token: ".toList ++ Text.quote t ++ ['.'])
  | wrongHoldingCount s =>
    some ("A PBN hand needs 4 suit holdings separated by dots: ".toList ++
      Text.quote s.toList ++ ['.'])
  | badCardCharacter c s =>
    some ("Unrecognized character ".toList ++ Text.quote [c] ++ " in cards ".toList ++
      Text.quote s ++ ['.'])
  | repeatedCard label s =>
    some ("Card ".toList ++ label ++ " repeated in cards ".toList ++ Text.quote s ++ ['.'])
  | invalidCards s cause =>
    some ("Invalid cards ".toList ++ Text.quote s ++ ": ".toList ++ cause.message?.getD [])
  | wrongHandSize n s =>
    some ("Wrong number of cards for a bridge hand (".toList ++ Text.decimal n ++ "): ".toList ++
      Text.quote s.toList ++ ['.'])
  | gridShape => some "Array must be of shape (4,13).".toList
  | negativeDraw n =>
    some ("Cannot pick a negative number of cards (".toList ++ Text.decimal n ++ ").".toList)
  | notEnoughCards n size =>
    some ("Cannot pick ".toList ++ Text.decimal n ++ " cards from a set of ".toList ++
      Text.decimal size ++ ['.'])
  | pattern fault source => fault.message? source
  | tableSize => some "Shape table must have 38416 entries.".toList
  | badDistribution =>
    some "Every shape must have 4 suit lengths between 0 and 13 adding up to 13.".toList
  | fourLengths => some "Lengths must be given for 4 suits.".toList
  | fourRanges => some "One length range per suit is needed.".toList
  | pointValues => some "At most 13 rank values (Ace first).".toList
  | badDealText s =>
    some ("PBN format deal not properly defined: ".toList ++ Text.quote s ++ ['.'])
  | wrongHandCount n => some ("A deal needs 4 hands, got ".toList ++ Text.decimal n ++ ['.'])
  | wrongSeatSize seat n =>
    some (seat.title.toList ++ " holds ".toList ++ Text.decimal n ++ " cards instead of 13.".toList)
  | dealtTwice s => some ("card dealt twice: ".toList ++ cardsShown s)
  | wrongSettingCount =>
    some "Per-seat settings need exactly 4 entries (N, E, S, W).".toList
  | predealTooLarge seat n =>
    some (seat.title.toList ++ " is predealt ".toList ++ Text.decimal n ++
      " cards, more than 13.".toList)
  | attemptLimit => some "max_attempts must be a positive integer or None.".toList
  | dealCount => some "n must be a positive integer.".toList
  | unsatisfied n =>
    some ("No deal satisfied the constraints in ".toList ++ Text.decimal n ++ " attempts.".toList)
  | cancelled n =>
    some ("Dealing cancelled after ".toList ++ Text.decimal n ++ " attempts.".toList)
  | noRankMark | negativeShift | sourceExhausted | negativeSeed | noDeals | endless | outOfTable
  | ragged | tooLarge | unreadableNumber | tooManyDigits | wrongKind | unsupported => none

end Error

/-! ## Warnings -/

/-- What is worth saying about a setting that was accepted. -/
inductive Warning where
  | rangeClamped (lo hi : Int) (newLo newHi : Int)
  | longestReplaces
  | predealReplaced (seat : Seat)
  deriving DecidableEq, Repr

/-- The wording of a warning. -/
def Warning.message : Warning → List Char
  | rangeClamped lo hi newLo newHi =>
    "HCP range ".toList ++ Text.decimal lo ++ '-' :: Text.decimal hi ++ " clamped to ".toList ++
      Text.decimal newLo ++ '-' :: Text.decimal newHi ++ ['.']
  | longestReplaces =>
    "with_longest replaces the shapes already added to this builder.".toList
  | predealReplaced seat =>
    seat.title.toList ++
      " was already predealt; the previous cards are returned to the deck.".toList

end ContractBridge
