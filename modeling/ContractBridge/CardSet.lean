/-
Sets of cards.

A card set is one number read as a set of places (`Bits`), sixteen places to a suit, of which
the places 2 to 14 of the first four lanes are the cards of the deck. Nothing forbids other
places: they are kept by every operation, and a negative number is the complement of a finite
set. The view of a set is `has`, and each operation has its equation there.

Ascending order takes the lowest place off again and again, descending order the leading one;
both are loops of their own, bounded by the number of places.
-/
import ContractBridge.Bits
import ContractBridge.Card

set_option autoImplicit false

namespace ContractBridge

/-- A set of cards, one place each. -/
structure CardSet where
  bits : Int
  deriving DecidableEq, Repr

namespace CardSet

/-! ## The view -/

/-- Whether place `i` is in the set. -/
def has (s : CardSet) (i : Nat) : Bool := Bits.holds s.bits i

/-- Two sets with the same places are equal. -/
@[ext] theorem ext {s t : CardSet} (h : ∀ i, s.has i = t.has i) : s = t := by
  have hb : s.bits = t.bits := Bits.ext_holds h
  cases s; cases t; cases hb; rfl

/-! ## Operations -/

/-- The set of no card. -/
def empty : CardSet := ⟨0⟩

/-- The set of one place. -/
def single (i : Nat) : CardSet := ⟨Bits.bit i⟩

/-- The cards of either set. -/
def union (s t : CardSet) : CardSet := ⟨Bits.either s.bits t.bits⟩

/-- The cards that two sets share. -/
def inter (s t : CardSet) : CardSet := ⟨Bits.both s.bits t.bits⟩

/-- The cards of `s` that are not in `t`. -/
def diff (s t : CardSet) : CardSet := ⟨Bits.minus s.bits t.bits⟩

instance : EmptyCollection CardSet := ⟨empty⟩
instance : Union CardSet := ⟨union⟩
instance : Inter CardSet := ⟨inter⟩
instance : SDiff CardSet := ⟨diff⟩

/-- Whether a card is in the set. -/
def contains (s : CardSet) (c : Card) : Bool := s.has c.place

/-- The set with a card added. -/
def insert (s : CardSet) (c : Card) : CardSet := s ∪ single c.place

/-- The set with a card taken out. -/
def erase (s : CardSet) (c : Card) : CardSet := s \ single c.place

/-- Whether the set has no card. -/
def isEmpty (s : CardSet) : Bool := s.bits == 0

/-- Whether every card of `s` is in `t`. -/
def subset (s t : CardSet) : Bool := (s \ t).isEmpty

/-- The number of places in the set; for a complement, of those it lacks besides its sign
(the ones of the magnitude). -/
def size (s : CardSet) : Nat := Bits.count s.bits

/-- The set of the given cards. -/
def ofCards (cards : List Card) : CardSet := cards.foldl insert ∅

@[simp] theorem has_empty (i : Nat) : (∅ : CardSet).has i = false := Bits.holds_zero i

@[simp] theorem has_single (i j : Nat) : (single i).has j = decide (i = j) := Bits.holds_bit i j

@[simp] theorem has_union (s t : CardSet) (i : Nat) : (s ∪ t).has i = (s.has i || t.has i) :=
  Bits.holds_either _ _ _

@[simp] theorem has_inter (s t : CardSet) (i : Nat) : (s ∩ t).has i = (s.has i && t.has i) :=
  Bits.holds_both _ _ _

@[simp] theorem has_diff (s t : CardSet) (i : Nat) : (s \ t).has i = (s.has i && !t.has i) :=
  Bits.holds_minus _ _ _

@[simp] theorem has_insert (s : CardSet) (c : Card) (i : Nat) :
    (s.insert c).has i = (s.has i || decide (c.place = i)) := by
  simp [insert]

theorem isEmpty_iff {s : CardSet} : s.isEmpty = true ↔ s = ∅ := by
  cases s with
  | mk bits =>
    simp only [isEmpty, beq_iff_eq]
    exact ⟨fun h => by subst h; rfl, fun h => congrArg CardSet.bits h⟩

/-! ## Suits and rank groups -/

/-- The cards of one lane, sixteen places. -/
def lane (s : CardSet) (k : Nat) : CardSet := s ∩ ⟨((0xffff <<< (laneWidth * k) : Nat) : Int)⟩

/-- The cards of a suit. -/
def inSuit (s : CardSet) (suit : Suit) : CardSet := s.lane suit.index

/-- The thirteen cards of a suit. -/
def suitCards (suit : Suit) : CardSet := ⟨((0x7ffc <<< (laneWidth * suit.index) : Nat) : Int)⟩

/-- The 52 cards. -/
def deck : CardSet :=
  suitCards .spades ∪ suitCards .hearts ∪ suitCards .diamonds ∪ suitCards .clubs

/-- The four cards of a rank. -/
def rankCards (rank : Nat) : CardSet :=
  Suit.all.foldl (fun s suit => s ∪ single (rank + laneWidth * suit.index)) ∅

/-- The aces, kings, queens, jacks and tens of the deck. -/
def aces : CardSet := rankCards 14
@[inherit_doc aces] def kings : CardSet := rankCards 13
@[inherit_doc aces] def queens : CardSet := rankCards 12
@[inherit_doc aces] def jacks : CardSet := rankCards 11
@[inherit_doc aces] def tens : CardSet := rankCards 10

/-- The sets with names of their own. -/
def namedSets : List (String × CardSet) :=
  Suit.all.map (fun suit => (suit.name, suitCards suit)) ++
    [("ALL", deck), ("EMPTY", ∅), ("ACES", aces), ("KINGS", kings), ("QUEENS", queens),
      ("JACKS", jacks), ("TENS", tens)]

/-- The number of places in a lane. -/
def laneSize (s : CardSet) (k : Nat) : Nat :=
  Bits.count (Bits.both (s.bits >>> (laneWidth * k)) 0xffff)

/-- High-card points: four for an ace, three for a king, two for a queen, one for a jack. -/
def highCardPoints (s : CardSet) : Nat :=
  4 * (s ∩ aces).size + 3 * (s ∩ kings).size + 2 * (s ∩ queens).size + (s ∩ jacks).size

@[simp] theorem has_lane (s : CardSet) (k i : Nat) :
    (s.lane k).has i = (s.has i && decide (laneWidth * k ≤ i ∧ i < laneWidth * k + laneWidth)) := by
  have h : (0xffff : Nat) = 2 ^ 16 - 1 := rfl
  simp only [lane, has_inter]
  congr 1
  rw [Bool.eq_iff_iff, decide_eq_true_iff]
  simp only [has, Bits.holds_natCast, Nat.testBit_shiftLeft, h, Nat.testBit_two_pow_sub_one,
    laneWidth, ge_iff_le, Bool.and_eq_true, decide_eq_true_eq]
  omega

/-! ## Order -/

/-- Up to `fuel` cards of a number, lowest first: each step takes the lowest place off. -/
def climb : Nat → Int → List Card
  | 0, _ => []
  | fuel + 1, bits =>
    if bits = 0 then []
    else
      let low := Bits.lowest bits
      ⟨(Bits.width low : Int) - 1⟩ :: climb fuel (Bits.minus bits low)

/-- Up to `fuel` cards of a number, highest first: each step takes the leading place off. -/
def descend : Nat → Int → List Card
  | 0, _ => []
  | fuel + 1, bits =>
    if bits = 0 then []
    else
      let top := Bits.width bits - 1
      ⟨(top : Int)⟩ :: descend fuel (Bits.minus bits (Bits.bit top))

/-- **The cards of a set, lowest first.** A complement has no last card and lists none. -/
def toList (s : CardSet) : List Card := if 0 ≤ s.bits then climb s.size s.bits else []

/-- The cards of a set, highest first. -/
def toListDown (s : CardSet) : List Card := if 0 ≤ s.bits then descend s.size s.bits else []

/-- The lowest card. -/
def min? (s : CardSet) : Option Card :=
  if s.bits = 0 then none else some ⟨(Bits.width (Bits.lowest s.bits) : Int) - 1⟩

/-- The card at the leading place of the magnitude. -/
def max? (s : CardSet) : Option Card :=
  if s.bits = 0 then none else some ⟨(Bits.width s.bits : Int) - 1⟩

end CardSet

end ContractBridge
