/-
Vulnerability.

Each line is vulnerable or not, which makes four states, and the states follow each other in a
fixed circle. Boards run through them: each board is one state on from the board before it, and
the board after every fourth one more. The turns of a board number are counted in rounded
numbers (`Double`), so the boards past `2 ^ 53` pass in steps.
-/
import ContractBridge.Double
import ContractBridge.Seat.Reader

set_option autoImplicit false

namespace ContractBridge

/-- Which lines are vulnerable. -/
inductive Vulnerability where
  | none
  | northSouth
  | eastWest
  | both
  deriving DecidableEq, Repr, Inhabited

namespace Vulnerability

/-- The number of a state, its place in the circle from 0. -/
def index : Vulnerability → Nat
  | none => 0
  | northSouth => 1
  | eastWest => 2
  | both => 3

/-- The state `k` places past none, round and round in either direction. -/
def ofTurn (k : Int) : Vulnerability :=
  match k % 4 with
  | 0 => none
  | 1 => northSouth
  | 2 => eastWest
  | _ => both

/-- The next state in the circle. -/
def next (v : Vulnerability) : Vulnerability := ofTurn (v.index + 1)

/-- The first `n` states from this one on, round and round. -/
def cycle (v : Vulnerability) : Nat → List Vulnerability
  | 0 => []
  | n + 1 => v :: v.next.cycle n

@[simp] theorem ofTurn_index (v : Vulnerability) : ofTurn v.index = v := by
  cases v <;> rfl

/-! ## Names -/

/-- The name in capitals. -/
def name : Vulnerability → String
  | none => "NONE"
  | northSouth => "NS"
  | eastWest => "EW"
  | both => "ALL"

/-- The name on a tag line. -/
def tag : Vulnerability → String
  | none => "None"
  | northSouth => "NS"
  | eastWest => "EW"
  | both => "Both"

/-- The letter in a one-line record. -/
def letter : Vulnerability → Char
  | none => 'o'
  | northSouth => 'n'
  | eastWest => 'e'
  | both => 'b'

/-- **The state that a text names,** in letters of either case and with or without quotes. -/
def ofText (text : List Char) : Except Error Vulnerability :=
  let text := Text.smalls (Text.strip (text.filter (· ≠ '"')))
  match String.ofList text with
  | "none" | "love" | "-" | "" => .ok none
  | "ns" => .ok northSouth
  | "ew" => .ok eastWest
  | "both" | "all" => .ok both
  | _ => .error (.unknownVulnerability text)

/-- The state with a number. -/
def ofIndex? : Int → Option Vulnerability
  | 0 => some none
  | 1 => some northSouth
  | 2 => some eastWest
  | 3 => some both
  | _ => Option.none

/-- The state that a value is the number of. -/
def ofLiteral (v : Literal) : Except Error Vulnerability :=
  match v.number?.bind ofIndex? with
  | some state => .ok state
  | Option.none => .error (.notAVulnerability v)

/-! ## Boards and seats -/

/-- **The state of a board:** the board number and a quarter of it, counted from 0, added up. -/
def ofBoard (number : Int) : Except Error Vulnerability :=
  let boards := Double.ofInt (number - 1)
  let rounds := Double.ofInt (Double.ofRatio (number - 1) 4).floor
  let turns := boards.add rounds
  if boards.isFinite ∧ turns.isFinite then .ok (ofTurn turns.floor) else .error .tooLarge

/-- Whether a seat is vulnerable. -/
def affects (v : Vulnerability) (seat : Seat) : Bool :=
  match v with
  | none => false
  | both => true
  | northSouth => seat.isSameLine 0
  | eastWest => seat.isSameLine 1

/-- Whether the seat that a value names is vulnerable. Where all seats are alike the value is not
looked at. -/
def affectsLiteral (v : Vulnerability) (seat : Literal) : Except Error Bool :=
  match v with
  | none => .ok false
  | both => .ok true
  | _ => do return v.affects (← Seat.ofLiteral seat)

end Vulnerability

end ContractBridge
