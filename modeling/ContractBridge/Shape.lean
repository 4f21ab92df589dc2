/-
Sets of distributions.

A shape is a set of four-suit distributions, kept as a table with one place for each choice of
four lengths from 0 to 13: the lengths are the digits of the place in base 14, spades first. Two
bounds per suit go with the table. They are those of its members unless the shape was given
others, and they are hints only: membership and equality look at the table alone.
-/
import ContractBridge.SuitLengths
import ContractBridge.Shape.LengthRange
import ContractBridge.Error

set_option autoImplicit false

namespace ContractBridge

/-- How many lengths a suit can have. -/
def lengthCount : Nat := handSize + 1

/-- How many pairs of lengths two suits can have. -/
def pairCount : Nat := lengthCount * lengthCount

namespace SuitLengths

/-- The place of a distribution in the table. -/
def index (l : SuitLengths) : Int :=
  (l.spades * lengthCount + l.hearts) * pairCount + (l.diamonds * lengthCount + l.clubs)

/-- The distribution at a place of the table, which goes on for ever in both directions. -/
def ofIndex (i : Int) : SuitLengths :=
  ⟨i / (pairCount * lengthCount) % lengthCount, i / pairCount % lengthCount,
    i / lengthCount % lengthCount, i % lengthCount⟩

/-- Whether every length is between 0 and 13. -/
def isInTable (l : SuitLengths) : Bool := l.toList.all fun n => 0 ≤ n && n ≤ handSize

theorem ofIndex_index {l : SuitLengths} (h : l.isInTable = true) : ofIndex l.index = l := by
  cases l
  simp only [isInTable, toList, List.all_cons, List.all_nil, Bool.and_eq_true,
    decide_eq_true_eq] at h
  simp only [handSize] at h
  simp only [ofIndex, index, pairCount, lengthCount, handSize, mk.injEq]
  omega

end SuitLengths

namespace Shape

/-- The number of places of a table. -/
def tableSize : Nat := pairCount * pairCount

/-- The table with some places set. -/
def tableOf (places : List Nat) : BitVec tableSize :=
  BitVec.ofNat tableSize (places.foldl (fun n i => n ||| 1 <<< i) 0)

end Shape

/-- **A set of distributions, with bounds on the lengths of each suit.** -/
structure Shape where
  table : BitVec Shape.tableSize
  minLengths : List Int
  maxLengths : List Int
  deriving DecidableEq, Repr

namespace Shape

/-! ## Members -/

/-- The places of the members in the table, in order. -/
def places (table : BitVec tableSize) : List Nat := Bits.ones table.toNat

/-- The distributions of a table, in order. -/
def membersOf (table : BitVec tableSize) : List SuitLengths :=
  (places table).map fun (i : Nat) => .ofIndex i

/-- **The members of the shape, in order.** -/
def members (s : Shape) : List SuitLengths := membersOf s.table

/-- The number of members. -/
def size (s : Shape) : Nat := (places s.table).length

/-- Whether there is no member. -/
def isEmpty (s : Shape) : Bool := s.table == 0

/-- Whether two shapes have the same members. -/
def sameMembers (s t : Shape) : Bool := s.table == t.table

/-- Whether a place is a member's; there is no place past the end of the table. -/
def holds (s : Shape) (i : Nat) : Bool := s.table.getLsbD i

/-- Whether the distribution of some cards is a member. More than thirteen cards of a suit, as a
set with cards outside the deck may have, can lead past the end of the table. -/
def includes (s : Shape) (cards : CardSet) : Except Error Bool :=
  let i := cards.suitLengths.index
  if i < tableSize then .ok (s.holds i.toNat) else .error .outOfTable

/-- Whether a list of numbers is a member. -/
def contains (s : Shape) (lengths : List Int) : Bool :=
  match SuitLengths.ofList? lengths with
  | some l => l.isInTable && s.holds l.index.toNat
  | none => false

/-! ## Bounds -/

/-- The entries of the distributions suit by suit, combined by `f`; `empty` for no
distribution. -/
def boundsOf (f : Int → Int → Int) (empty : Int) (ls : List SuitLengths) : List Int :=
  match ls with
  | [] => List.replicate 4 empty
  | l :: ls => ls.foldl (fun bounds l => List.zipWith f bounds l.toList) l.toList

/-- The shape with a table and the bounds of its members. -/
def ofTable (table : BitVec tableSize) : Shape :=
  let ls := membersOf table
  ⟨table, boundsOf min 0 ls, boundsOf max handSize ls⟩

/-- The ranges that the bounds are, suit by suit. -/
def ranges (s : Shape) : List LengthRange := List.zipWith .ofEnds s.minLengths s.maxLengths

/-- The entry of a list at an index that counts from the end if it is negative. -/
def entry {α : Type} (l : List α) (i : Int) : Except Error α :=
  match l[(if i < 0 then i + l.length else i).toNat]? with
  | some a => if -l.length ≤ i then .ok a else .error .outOfTable
  | none => .error .outOfTable

/-- The range of a suit, by its number. -/
def range (s : Shape) (suit : Int) : Except Error LengthRange := do
  return .ofEnds (← entry s.minLengths suit) (← entry s.maxLengths suit)

/-- Two lists of bounds combined entry by entry; a single entry goes with every entry of the
other list. -/
def combine (f : Int → Int → Int) (a b : List Int) : Except Error (List Int) :=
  match a, b with
  | [x], b => .ok (b.map (f x))
  | a, [y] => .ok (a.map (f · y))
  | a, b => if a.length = b.length then .ok (List.zipWith f a b) else .error .ragged

/-! ## Operations -/

/-- The members of either shape. The bounds are those of the shape that has members, or the
wider of both. -/
def union (s t : Shape) : Shape :=
  let table := s.table ||| t.table
  if t.isEmpty then ⟨table, s.minLengths, s.maxLengths⟩
  else if s.isEmpty then ⟨table, t.minLengths, t.maxLengths⟩
  else ⟨table, List.zipWith min s.minLengths t.minLengths,
    List.zipWith max s.maxLengths t.maxLengths⟩

/-- The members of `s` that are not in `t`. -/
def diff (s t : Shape) : Shape := ofTable (s.table &&& ~~~t.table)

/-- The members that two shapes share. -/
def inter (s t : Shape) : Shape := ofTable (s.table &&& t.table)

instance : Union Shape := ⟨union⟩
instance : Inter Shape := ⟨inter⟩
instance : SDiff Shape := ⟨diff⟩

/-- The union of shapes whose bounds may not fit together. -/
def add (s t : Shape) : Except Error Shape :=
  if t.isEmpty || s.isEmpty then .ok (s ∪ t)
  else do
    return ⟨s.table ||| t.table, ← combine min s.minLengths t.minLengths,
      ← combine max s.maxLengths t.maxLengths⟩

@[simp] theorem holds_union (s t : Shape) (i : Nat) :
    (s ∪ t).holds i = (s.holds i || t.holds i) := by
  have h : (s ∪ t).table = s.table ||| t.table := by
    show (union s t).table = _
    unfold union
    split
    · rfl
    · split <;> rfl
  simp [holds, h]

@[simp] theorem holds_inter (s t : Shape) (i : Nat) :
    (s ∩ t).holds i = (s.holds i && t.holds i) := by
  show (s.table &&& t.table).getLsbD i = _
  simp [holds]

@[simp] theorem holds_diff (s t : Shape) (i : Nat) :
    (s \ t).holds i = (s.holds i && !t.holds i) := by
  show (s.table &&& ~~~t.table).getLsbD i = _
  by_cases hi : i < tableSize
  · simp [holds, hi]
  · simp [holds, BitVec.getLsbD_of_ge, Nat.le_of_not_lt hi]

/-! ## Text -/

/-- The printed shape: how many members there are, and the first eight. -/
def shown (s : Shape) : List Char :=
  let first := (s.members.take 8).map SuitLengths.shown
  "Shape(".toList ++ Text.decimal s.size ++ " shapes: ".toList ++
    List.intercalate ", ".toList first ++
    (if 8 < s.size then ", ...".toList else []) ++ [')']

end Shape

end ContractBridge
