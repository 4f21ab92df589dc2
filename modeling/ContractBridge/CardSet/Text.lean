/-
Printed card sets.

A holding is the ranks of one suit, highest first. A set prints as the symbol and the holding
of each suit that is not void, in suit order. Both exist unless the set holds a card of rank 15
in one of the four suits, which has no mark; places past the fourth lane do not print.
-/
import ContractBridge.CardSet

set_option autoImplicit false

namespace ContractBridge.CardSet

/-- The ranks held in a suit, highest first. -/
def holding? (s : CardSet) (suit : Suit) : Option (List Char) :=
  (s.inSuit suit).toListDown.mapM fun c => Card.rankMark? c.rank

/-- A suit's part of the printed set: nothing for a void. -/
def section? (s : CardSet) (suit : Suit) : Option (List Char) :=
  if (s.inSuit suit).isEmpty then some [] else (s.holding? suit).map (suit.symbol :: ·)

/-- **The printed set.** -/
def text? (s : CardSet) : Option (List Char) :=
  (Suit.all.mapM s.section?).map List.flatten

end ContractBridge.CardSet
