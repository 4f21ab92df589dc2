/-
Rules on deals.

A rule looks at four hands and accepts or rejects them. Rules are made of tests and joined by
and, or and not, which look no further than they must. One more rule rejects everything and asks
for a cancellation in a call of a given number, so a rule is not the same after a call: a ruling
is the verdict together with the rule as it then stands.
-/
import ContractBridge.Deal
import ContractBridge.Shape.Family
import ContractBridge.Zar
import ContractBridge.Total

set_option autoImplicit false

namespace ContractBridge

/-- **A rule on four hands.** -/
inductive DealRule where
  | test (f : Hands → Except Error Bool)
  | both (a b : DealRule)
  | either (a b : DealRule)
  | negation (a : DealRule)
  /-- Rejects, and cancels in the call that `left` counts down to; 0 never cancels. -/
  | cancelAt (left : Nat)

/-- What a rule says in one call. -/
structure Ruling where
  verdict : Except Error Bool
  /-- The rule for the next call. -/
  after : DealRule
  /-- Whether a cancellation was asked for. -/
  cancels : Bool

namespace DealRule

/-- **One call of a rule.** The second part of a pair is called only where the first does not
settle it. -/
def call (hands : Hands) : DealRule → Ruling
  | test f => ⟨f hands, test f, false⟩
  | both a b =>
    let first := a.call hands
    match first.verdict with
    | .ok true =>
      let second := b.call hands
      ⟨second.verdict, both first.after second.after, first.cancels || second.cancels⟩
    | verdict => ⟨verdict, both first.after b, first.cancels⟩
  | either a b =>
    let first := a.call hands
    match first.verdict with
    | .ok false =>
      let second := b.call hands
      ⟨second.verdict, either first.after second.after, first.cancels || second.cancels⟩
    | verdict => ⟨verdict, either first.after b, first.cancels⟩
  | negation a =>
    let first := a.call hands
    ⟨first.verdict.map (!·), negation first.after, first.cancels⟩
  | cancelAt left => ⟨.ok false, cancelAt (left - 1), left == 1⟩

/-- The verdict on four hands. -/
def judge (rule : DealRule) (hands : Hands) : Except Error Bool := (rule.call hands).verdict

/-- How many calls may pass before every cancellation was asked for. -/
def pending : DealRule → Nat
  | test _ => 0
  | both a b | either a b => max a.pending b.pending
  | negation a => a.pending
  | cancelAt left => left

/-! ## Tests -/

/-- Accepts everything. -/
def always : DealRule := test fun _ => .ok true

/-- Rejects everything. -/
def never : DealRule := test fun _ => .ok false

/-- A rule that could not be made is refused when it is called. -/
def ofExcept : Except Error DealRule → DealRule
  | .ok rule => rule
  | .error e => test fun _ => .error e

/-- All rules of a list, in order. -/
def all (rules : List DealRule) : DealRule := rules.foldr both always

/-- One of the rules of a list, tried in order. -/
def any (rules : List DealRule) : DealRule := rules.foldr either never

/-- A test of the hand of one seat. -/
def onHand (seat : Seat) (f : Hand → Except Error Bool) : DealRule :=
  test fun hands => f (hands.get seat)

/-- A number counted over some seats that has to lie in a range. -/
def between (seats : List Seat) (count : Hand → Int) (lo hi : Int) : DealRule :=
  test fun hands =>
    let n := total (seats.map fun seat => count (hands.get seat))
    .ok (lo ≤ n && n ≤ hi)

/-- The high-card points of some seats together. -/
def points (seats : List Seat) (lo hi : Int) : DealRule :=
  between seats (fun hand => hand.points) lo hi

/-- The cards of some seats together in a suit. -/
def suitLength (seats : List Seat) (suit : Suit) (lo hi : Int) : DealRule :=
  between seats (fun hand => hand.cards.suitLengths.get suit) lo hi

/-- The distribution of a seat. -/
def shape (seat : Seat) (shape : Shape) : DealRule :=
  onHand seat fun hand => shape.includes hand.cards

/-- The Zar points of a seat. -/
def zarPoints (seat : Seat) (lo hi : Int) : DealRule :=
  onHand seat fun hand => do
    let points ← Zar.points hand.cards
    return lo ≤ points && points ≤ hi

end DealRule

end ContractBridge
