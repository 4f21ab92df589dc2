/-
Hands.

A hand is the cards that one seat holds. Thirteen of them is the caller's business: only reading
a hand from text counts them. The file gives the views of a hand that depend on the four suits,
lengths, holdings, and the two printed forms with one part per suit.
-/
import ContractBridge.CardSet.Reader
import ContractBridge.CardSet.Draw
import ContractBridge.SuitLengths

set_option autoImplicit false

namespace ContractBridge

/-- A seat's cards. -/
structure Hand where
  cards : CardSet
  deriving DecidableEq, Repr

namespace Hand

/-- A hand from text: exactly thirteen cards. -/
def read (text : String) : Except Error Hand := do
  let cards ← CardSet.parse text.toList
  if cards.size = handSize then return ⟨cards⟩
  else .error (.wrongHandSize cards.size text)

/-- Thirteen cards drawn from the deck. -/
def random : Drawing Hand := do
  let drawn ← CardSet.deck.draw handSize
  return ⟨drawn.given⟩

/-- The four suits of the hand, in suit order. -/
def suits (h : Hand) : List CardSet := Suit.all.map h.cards.inSuit

/-- High-card points. -/
def points (h : Hand) : Nat := h.cards.highCardPoints

/-- The ranks held in a suit. -/
def holding (h : Hand) (suit : Suit) : Except Error (List Char) :=
  match h.cards.holding? suit with
  | some ranks => .ok ranks
  | none => .error .noRankMark

/-- The four holdings, in suit order. -/
def holdings (h : Hand) : Except Error (List (List Char)) := Suit.all.mapM h.holding

/-- The four holdings with dots between them. -/
def dotted (h : Hand) : Except Error (List Char) := do
  return List.intercalate ['.'] (← h.holdings)

/-- The line of a suit: its symbol and its holding, a dash for a void. -/
def line (h : Hand) (suit : Suit) : Except Error (List Char) := do
  let ranks ← h.holding suit
  return suit.symbol :: ' ' :: (if ranks.isEmpty then ['-'] else ranks)

/-- The four lines of a hand, in suit order. -/
def lines (h : Hand) : Except Error (List (List Char)) := Suit.all.mapM h.line

end Hand

/-- The printed set, or the refusal of a card without a mark. -/
def CardSet.text (s : CardSet) : Except Error (List Char) :=
  match s.text? with
  | some text => .ok text
  | none => .error .noRankMark

/-- The first suit number whose lane no integer reaches. -/
def laneLimit : Int := 0x3c00000000000000

/-- The cards of any suit number: a lane of the set. A set that is no complement has nothing
behind its last place. -/
def CardSet.inSuitNumber (s : CardSet) (suit : Int) : Except Error CardSet :=
  if suit < 0 then .error .negativeShift
  else if laneLimit ≤ suit then .error .tooLarge
  else if 0 ≤ s.bits ∧ s.bits.natAbs.log2 < laneWidth * suit then .ok ∅
  else .ok (s.lane suit.toNat)

end ContractBridge
