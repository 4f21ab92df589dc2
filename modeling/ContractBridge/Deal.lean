/-
Deals.

A deal is four hands with a vulnerability and a board number. Making one checks the hands seat by
seat: thirteen cards each, and no card twice. The board number says who dealt, and where no
vulnerability is asked for it says that as well.
-/
import ContractBridge.Hand
import ContractBridge.Seats
import ContractBridge.Vulnerability

set_option autoImplicit false

namespace ContractBridge

/-- Four hands, one per seat. -/
abbrev Hands := Seats Hand

namespace Hands

/-- The cards seen after a seat's hand is laid beside those seen before. -/
def checkSeat (seat : Seat) (hand : Hand) (seen : CardSet) : Except Error CardSet :=
  if hand.cards.size ≠ handSize then .error (.wrongSeatSize seat hand.cards.size)
  else if (seen ∩ hand.cards).isEmpty then .ok (seen ∪ hand.cards)
  else .error (.ofSharedCards (seen ∩ hand.cards))

/-- **Whether the hands can be a deal:** thirteen cards at every seat and no card twice. -/
def check (hands : Hands) : Except Error Unit := do
  let seen ← checkSeat .north hands.north ∅
  let seen ← checkSeat .east hands.east seen
  let seen ← checkSeat .south hands.south seen
  let _ ← checkSeat .west hands.west seen

/-- A card set as it is handed over for a hand; there may be none. -/
def needed : Option CardSet → Except Error Hand
  | some cards => .ok ⟨cards⟩
  | none => .error .wrongKind

/-- Four hands from a list of card sets in seat order. -/
def ofList : List (Option CardSet) → Except Error Hands
  | [n, e, s, w] => do return ⟨← needed n, ← needed e, ← needed s, ← needed w⟩
  | l => .error (.wrongHandCount l.length)

/-- Four hands drawn from the deck; the last one is what is left. -/
def random : Drawing Hands := do
  let north ← CardSet.deck.draw handSize
  let east ← north.rest.draw handSize
  let south ← east.rest.draw handSize
  return ⟨⟨north.given⟩, ⟨east.given⟩, ⟨south.given⟩, ⟨south.rest⟩⟩

end Hands

/-- **Four hands, a vulnerability and a board number.** -/
structure Deal where
  hands : Hands
  vulnerability : Vulnerability
  number : Int
  deriving DecidableEq, Repr

/-- A vulnerability as it is asked for; where none is, the one of the board is meant. -/
def Vulnerability.orOfBoard (v : Literal) (number : Int) : Except Error Literal :=
  match v with
  | .none => do return .number (← ofBoard number).index
  | v => .ok v

namespace Deal

/-- A deal of hands that can be one. -/
def ofHands (hands : Hands) (vulnerability : Vulnerability) (number : Int) : Except Error Deal := do
  hands.check
  return ⟨hands, vulnerability, number⟩

/-- The same with the vulnerability that a value is the number of. -/
def ofHandsLiteral (hands : Hands) (vulnerability : Literal) (number : Int) :
    Except Error Deal := do
  hands.check
  return ⟨hands, ← Vulnerability.ofLiteral vulnerability, number⟩

/-- A random deal. -/
def random (vulnerability : Literal) (number : Int) : Drawing Deal := do
  let vulnerability ← liftExcept (Vulnerability.orOfBoard vulnerability number)
  let hands ← Hands.random
  liftExcept (ofHandsLiteral hands vulnerability number)

/-- The seat that dealt. -/
def dealer (d : Deal) : Seat := .ofBoard d.number

/-- The hand of the seat that a value names. -/
def hand (d : Deal) (seat : Literal) : Except Error Hand := do
  return d.hands.get (← Seat.ofLiteral seat)

end Deal

end ContractBridge
