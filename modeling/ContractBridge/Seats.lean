/-
One entry for each seat.

Hands, predealt cards and constraints are all given seat by seat, so the four entries are a
record of their own, read with `get` and changed with `set`.
-/
import ContractBridge.Seat

set_option autoImplicit false

namespace ContractBridge

/-- **Four entries, one per seat.** -/
structure Seats (α : Type) where
  north : α
  east : α
  south : α
  west : α
  deriving DecidableEq, Repr

namespace Seats

variable {α β : Type}

/-- The entries that a function gives. -/
def ofFn (f : Seat → α) : Seats α := ⟨f .north, f .east, f .south, f .west⟩

/-- The same entry at every seat. -/
def same (a : α) : Seats α := ofFn fun _ => a

/-- The entry of a seat. -/
def get (s : Seats α) : Seat → α
  | .north => s.north
  | .east => s.east
  | .south => s.south
  | .west => s.west

/-- The entries with the one of a seat replaced. -/
def set (s : Seats α) (seat : Seat) (a : α) : Seats α :=
  ofFn fun other => if other = seat then a else s.get other

/-- The entries in seat order. -/
def toList (s : Seats α) : List α := [s.north, s.east, s.south, s.west]

/-- Four entries in seat order. -/
def ofList? : List α → Option (Seats α)
  | [n, e, s, w] => some ⟨n, e, s, w⟩
  | _ => none

/-- A function applied to every entry. -/
def map (f : α → β) (s : Seats α) : Seats β := ⟨f s.north, f s.east, f s.south, f s.west⟩

@[simp] theorem get_ofFn (f : Seat → α) (seat : Seat) : (ofFn f).get seat = f seat := by
  cases seat <;> rfl

@[simp] theorem get_map (f : α → β) (s : Seats α) (seat : Seat) :
    (s.map f).get seat = f (s.get seat) := by
  cases seat <;> rfl

/-- A replaced entry is the new one, and the others are as before. -/
@[simp] theorem get_set (s : Seats α) (seat other : Seat) (a : α) :
    (s.set seat a).get other = if other = seat then a else s.get other :=
  get_ofFn _ _

theorem toList_eq_map (s : Seats α) : s.toList = Seat.all.map s.get := rfl

/-- Entries that agree at every seat are equal. -/
theorem ext_get {s t : Seats α} (h : ∀ seat, s.get seat = t.get seat) : s = t := by
  cases s; cases t
  congr 1
  · exact h .north
  · exact h .east
  · exact h .south
  · exact h .west

end Seats

end ContractBridge
