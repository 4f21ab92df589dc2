/-
Deals in figures.

A hand is summed up by its points and by what is notable about its lengths, a deal by its four
hands, and several deals by the totals of each seat, where the points are averaged. Deals can
also be checked against rules: a deal passes if one of the rules accepts it.
-/
import ContractBridge.DealRule
import ContractBridge.Double

set_option autoImplicit false

namespace ContractBridge

/-- **The figures of a hand,** each a count. -/
structure HandSummary where
  points : Nat
  balanced : Nat
  singletons : Nat
  voids : Nat
  /-- The suits of seven cards and more. -/
  sevens : Nat
  /-- The suits of eight cards and more. -/
  eights : Nat
  deriving DecidableEq, Repr

namespace HandSummary

/-- The headings of the figures. -/
def headings : List String := ["HCP", "Balanced", "Singleton", "Void", "Long_7", "Long_8"]

/-- The figures in the order of the headings. -/
def toList (s : HandSummary) : List Nat :=
  [s.points, s.balanced, s.singletons, s.voids, s.sevens, s.eights]

/-- The figures of no hand. -/
def zero : HandSummary := ⟨0, 0, 0, 0, 0, 0⟩

/-- The figures of two hands added up. -/
def add (s t : HandSummary) : HandSummary :=
  ⟨s.points + t.points, s.balanced + t.balanced, s.singletons + t.singletons, s.voids + t.voids,
    s.sevens + t.sevens, s.eights + t.eights⟩

end HandSummary

/-- The lengths of a balanced hand, shortest first. -/
def balancedLengths : List (List Int) := [[3, 3, 3, 4], [2, 3, 4, 4], [2, 3, 3, 5]]

/-- The figures of a hand. -/
def Hand.summary (h : Hand) : HandSummary :=
  let lengths := h.cards.suitLengths.toList
  { points := h.points
    balanced := if balancedLengths.contains (lengths.mergeSort (· ≤ ·)) then 1 else 0
    singletons := lengths.count 1
    voids := lengths.count 0
    sevens := lengths.countP (7 ≤ ·)
    eights := lengths.countP (8 ≤ ·) }

namespace Deal

/-- The holdings of a deal, a row per seat and a column per suit. -/
def holdings (d : Deal) : Except Error (List (List (List Char))) :=
  d.hands.toList.mapM Hand.holdings

/-- The figures of a deal, seat by seat. -/
def summary (d : Deal) : Seats HandSummary := d.hands.map Hand.summary

end Deal

/-! ## Several deals -/

/-- **The totals of some deals,** seat by seat. -/
structure Recap where
  count : Nat
  totals : Seats HandSummary
  deriving DecidableEq, Repr

namespace Recap

/-- The totals of a list of deals; there must be one. -/
def ofDeals : List Deal → Except Error Recap
  | [] => .error .noDeals
  | deals =>
    let total (seat : Seat) : HandSummary :=
      deals.foldl (fun s d => s.add (d.summary.get seat)) .zero
    .ok ⟨deals.length, .ofFn total⟩

/-- The average points of a seat. -/
def averagePoints (r : Recap) (seat : Seat) : Double :=
  .ofRatio (r.totals.get seat).points r.count

end Recap

/-! ## Checking deals -/

/-- **Which deals pass one of the rules.** Each rule is called on each deal, so an error of any
call is an error of the whole. -/
def Deal.passes (rules : List DealRule) (deals : List Deal) : Except Error (List Bool) := do
  let verdicts ← rules.mapM fun rule => deals.mapM fun d => rule.judge d.hands
  return verdicts.foldl (List.zipWith (· || ·)) (deals.map fun _ => false)

/-- The sentence on how many deals passed. -/
def Deal.passReport (passed : List Bool) : List Char :=
  let count := passed.count true
  let share := Double.ofRatio count (max passed.length 1)
  Text.decimal count ++ '/' :: Text.decimal passed.length ++ '(' :: share.fixed 2 ++
    ") deals passed the constraint check.\n".toList

end ContractBridge
