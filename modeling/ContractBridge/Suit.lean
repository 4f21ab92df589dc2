/-
The four suits, in the order spades, hearts, diamonds, clubs.

That order is the order of every printed hand, of the four lengths of a distribution and of
the lanes of a card set, so the file fixes it once as `Suit.all` and `Suit.index`, with
`ofIndex?` as the inverse on all integers.
-/

set_option autoImplicit false

namespace ContractBridge

/-- One of the four suits. -/
inductive Suit where
  | spades
  | hearts
  | diamonds
  | clubs
  deriving DecidableEq, Repr, Inhabited

namespace Suit

/-- The suits in their order. -/
def all : List Suit := [spades, hearts, diamonds, clubs]

/-- The place of a suit in the order, from 0. -/
def index : Suit → Nat
  | spades => 0
  | hearts => 1
  | diamonds => 2
  | clubs => 3

/-- The suit at a place of the order; there is none outside 0 to 3. -/
def ofIndex? : Int → Option Suit
  | 0 => some spades
  | 1 => some hearts
  | 2 => some diamonds
  | 3 => some clubs
  | _ => none

@[simp] theorem ofIndex?_index (s : Suit) : ofIndex? s.index = some s := by
  cases s <;> rfl

/-- Suits with the same number are the same. -/
theorem index_inj {s t : Suit} (h : s.index = t.index) : s = t := by
  apply Option.some.inj
  rw [← ofIndex?_index s, h, ofIndex?_index]

theorem index_lt_four (s : Suit) : s.index < 4 := by
  cases s <;> decide

theorem mem_all (s : Suit) : s ∈ all := by
  cases s <;> decide

/-- Each number below four is that of a suit. -/
theorem exists_index_eq {n : Nat} (hn : n < 4) : ∃ s : Suit, s.index = n := by
  match n, hn with
  | 0, _ => exact ⟨spades, rfl⟩
  | 1, _ => exact ⟨hearts, rfl⟩
  | 2, _ => exact ⟨diamonds, rfl⟩
  | 3, _ => exact ⟨clubs, rfl⟩

/-! ## Names -/

/-- The initial letter. -/
def letter : Suit → Char
  | spades => 'S'
  | hearts => 'H'
  | diamonds => 'D'
  | clubs => 'C'

/-- The card symbol. -/
def symbol : Suit → Char
  | spades => '♠'
  | hearts => '♥'
  | diamonds => '♦'
  | clubs => '♣'

/-- The name in capitals. -/
def name : Suit → String
  | spades => "SPADES"
  | hearts => "HEARTS"
  | diamonds => "DIAMONDS"
  | clubs => "CLUBS"

/-- The name with a capital initial. -/
def title : Suit → String
  | spades => "Spades"
  | hearts => "Hearts"
  | diamonds => "Diamonds"
  | clubs => "Clubs"

/-- The suit that a character names: an initial in either case, or the symbol. -/
def ofChar? : Char → Option Suit
  | 'S' | 's' | '♠' => some spades
  | 'H' | 'h' | '♥' => some hearts
  | 'D' | 'd' | '♦' => some diamonds
  | 'C' | 'c' | '♣' => some clubs
  | _ => none

@[simp] theorem ofChar?_letter (s : Suit) : ofChar? s.letter = some s := by
  cases s <;> rfl

@[simp] theorem ofChar?_symbol (s : Suit) : ofChar? s.symbol = some s := by
  cases s <;> rfl

/-! ## The order as a walk -/

/-- The suit after this one; clubs is the last. -/
def next? (s : Suit) : Option Suit := ofIndex? (s.index + 1)

/-- The suit after this one, with spades after clubs. -/
def rotate : Suit → Suit
  | spades => hearts
  | hearts => diamonds
  | diamonds => clubs
  | clubs => spades

end Suit

end ContractBridge
