/-
The four seats, in the order north, east, south, west.

Cards are dealt and boards pass in that order. `turn k` is the seat `k` places further round,
so the next seat, the partner and the dealer of a board are all turns.
-/

set_option autoImplicit false

namespace ContractBridge

/-- One of the four seats at the table. -/
inductive Seat where
  | north
  | east
  | south
  | west
  deriving DecidableEq, Repr, Inhabited

namespace Seat

/-- The seats in their order. -/
def all : List Seat := [north, east, south, west]

/-- The place of a seat in the order, from 0. -/
def index : Seat → Nat
  | north => 0
  | east => 1
  | south => 2
  | west => 3

/-- The seat at a place of the order; there is none outside 0 to 3. -/
def ofIndex? : Int → Option Seat
  | 0 => some north
  | 1 => some east
  | 2 => some south
  | 3 => some west
  | _ => none

/-- The seat `k` places past north, round and round in either direction. -/
def ofTurn (k : Int) : Seat :=
  match k % 4 with
  | 0 => north
  | 1 => east
  | 2 => south
  | _ => west

/-- The seat `k` places further round. -/
def turn (s : Seat) (k : Int) : Seat := ofTurn (s.index + k)

/-- The seat on the left, which acts next. -/
def next (s : Seat) : Seat := s.turn 1

/-- The seat opposite. -/
def partner (s : Seat) : Seat := s.turn 2

/-- Whether a seat belongs to the line of a seat number: the numbers of a line have one parity. -/
def isSameLine (s : Seat) (other : Int) : Bool := (s.index : Int) % 2 == other % 2

/-- The first `n` seats after this one, round and round. -/
def rotation (s : Seat) : Nat → List Seat
  | 0 => []
  | n + 1 => s.next :: s.next.rotation n

/-- The dealer of a board: north deals board 1, and the deal passes on with each board. -/
def ofBoard (number : Int) : Seat := ofTurn (number - 1)

@[simp] theorem ofIndex?_index (s : Seat) : ofIndex? s.index = some s := by
  cases s <;> rfl

/-- Seats with the same number are the same. -/
theorem index_inj {s t : Seat} (h : s.index = t.index) : s = t := by
  apply Option.some.inj
  rw [← ofIndex?_index s, h, ofIndex?_index]

@[simp] theorem ofTurn_index (s : Seat) : ofTurn s.index = s := by
  cases s <;> rfl

/-! ## Names -/

/-- The initial. -/
def letter : Seat → Char
  | north => 'N'
  | east => 'E'
  | south => 'S'
  | west => 'W'

/-- The name with a capital initial. -/
def title : Seat → String
  | north => "North"
  | east => "East"
  | south => "South"
  | west => "West"

/-- The name in capitals. -/
def name : Seat → String
  | north => "NORTH"
  | east => "EAST"
  | south => "SOUTH"
  | west => "WEST"

/-- The seat with an initial, capitals only. -/
def ofLetter? : Char → Option Seat
  | 'N' => some north
  | 'E' => some east
  | 'S' => some south
  | 'W' => some west
  | _ => none

@[simp] theorem ofLetter?_letter (s : Seat) : ofLetter? s.letter = some s := by
  cases s <;> rfl

end Seat

end ContractBridge
