/-
Opening bids.

The hands that open one club in the Polish system, a strong no trump, a weak two in a major, and
a Lavazza three no trump.
-/
import ContractBridge.HandDescriptor
import ContractBridge.Zar
import ContractBridge.Hand

set_option autoImplicit false

namespace ContractBridge.Opening

/-! ## The Polish club -/

/-- Eleven to fourteen points and no five-card major, on a balanced hand or a 4441. -/
def weakNoTrump : HandType :=
  HandTypeBuilder.new
    |>.add (.anyOrder [4, 4, 3, 2])
    |>.add (.anyOrder [4, 3, 3, 3])
    |>.add (.anyOrder [4, 4, 1, 4])
    |>.add (.anyOrder [5, 3, 3, 2])
    |>.remove (.matching [.group [.exactly 5, .joker], .group [.atLeast 2, .atLeast 2]])
    |>.withPoints (.ofEnds 11 14)
    |>.build

/-- Eleven to fourteen points and clubs the longest suit: five of them without a four-card major,
or more beside another suit of six. -/
def clubHand : HandType :=
  HandTypeBuilder.new
    |>.withLongest .clubs
    |>.remove (.matching [.group [.exactly 4, .joker], .suit .joker, .suit (.exactly 5)])
    |>.remove (.matching [.group [.atMost 5, .atMost 5, .atMost 5], .suit (.atLeast 6)])
    |>.withPoints (.ofEnds 11 14)
    |>.build

/-- Eighteen points or more. -/
def strongHand : HandType :=
  HandTypeBuilder.new
    |>.add (.matching [.suit .joker, .suit .joker, .suit .joker, .suit .joker])
    |>.withPoints (.ofEnds 18 37)
    |>.build

/-- **The hands that open one club.** -/
def polishClub : HandDescriptor := ⟨[weakNoTrump, strongHand, clubHand]⟩

/-! ## No trump -/

/-- Balanced hands with points in a range. -/
def strongNoTrump (points : PointRange) : HandDescriptor :=
  ⟨[(HandTypeBuilder.balanced points).build]⟩

/-- The range of a strong no trump. -/
def strongNoTrumpPoints : PointRange := .ofEnds 15 17

/-! ## Majors -/

/-- Six cards in a major, at most three in the other and four in each minor, and five to ten
points. -/
def weakTwoType : HandType :=
  HandTypeBuilder.new
    |>.add (.matching
      [.group [.exactly 6, .atMost 3], .suit (.atMost 4), .suit (.atMost 4)])
    |>.withPoints (.ofEnds 5 10)
    |>.build

/-- Whether a suit has six cards of more than three points of quality. -/
def isGoodSix (suit : CardSet) : Except Error Bool := do
  if suit.size = 6 then return 3 < (← PointCount.suitQuality.evaluate suit) else return false

/-- **Whether a hand opens a weak two in a major.** -/
def isWeakTwo (h : Hand) : Except Error Bool := do
  if ← weakTwoType.accepts h.cards then
    if 4 ≤ (← PointCount.controls.evaluate h.cards) then return false
    else if ← isGoodSix (h.cards.inSuit .spades) then return true
    else isGoodSix (h.cards.inSuit .hearts)
  else return false

/-- The distributions with a major of a given length. -/
def withMajor (n : Int) : Shape :=
  .matching [.group [.exactly n, .joker], .suit .joker, .suit .joker]

/-- The distributions with a major of seven to nine cards. -/
def longMajor : Shape := withMajor 8 ∪ withMajor 7 ∪ withMajor 9

/-- **Whether a hand opens a Lavazza three no trump:** a long major and 26 to 32 Zar points. -/
def isLavazza (h : Hand) : Except Error Bool := do
  if ← longMajor.includes h.cards then
    let points ← Zar.points h.cards
    return 26 ≤ points && points ≤ 32
  else return false

end ContractBridge.Opening
