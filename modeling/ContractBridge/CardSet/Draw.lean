/-
Drawing cards at random.

To draw `n` cards the set is cut down by random masks. Each mask chooses some of the cards that
are still undecided: if they fit into the number still wanted they are given, else if enough
cards are left without them they are kept, else the mask is passed over. Once `n` cards are
given, or none is undecided, the draw is done, and whatever was not given stays in the set.
-/
import ContractBridge.MaskSource

set_option autoImplicit false

namespace ContractBridge

/-- **A draw under way.** -/
structure Draw where
  /-- The cards not yet decided. -/
  undecided : CardSet
  kept : CardSet
  given : CardSet
  /-- How many cards are undecided. -/
  left : Nat
  /-- How many cards are still to be given. -/
  wanted : Nat
  deriving DecidableEq, Repr

namespace Draw

/-- The draw of `n` cards from a set before any mask. -/
def start (s : CardSet) (n : Nat) : Draw := ⟨s, ∅, ∅, s.size, n⟩

/-- Whether nothing is left to decide. -/
def isDone (d : Draw) : Bool := d.left == 0 || d.wanted == 0

/-- What one mask does to a draw. -/
def step (d : Draw) (mask : Int) : Draw :=
  let chosen : CardSet := ⟨mask⟩ ∩ d.undecided
  let k := chosen.size
  if chosen.isEmpty then d
  else if k ≤ d.wanted then
    { d with undecided := d.undecided \ chosen, given := d.given ∪ chosen,
             left := d.left - k, wanted := d.wanted - k }
  else if k + d.wanted ≤ d.left then
    { d with undecided := d.undecided \ chosen, kept := d.kept ∪ chosen, left := d.left - k }
  else d

/-- The cards that stay in the set when the draw is done. -/
def remainder (d : Draw) : CardSet := if d.left = 0 then d.kept else d.kept ∪ d.undecided

end Draw

/-- The cards drawn and the cards left. -/
structure Drawn where
  given : CardSet
  rest : CardSet
  deriving DecidableEq, Repr

namespace CardSet

/-- The draw of `n` cards run on a source; the number is taken as it is. -/
def drawFrom (s : CardSet) (n : Nat) : Drawing Drawn := fun src =>
  let (d, src) := src.feed Draw.isDone Draw.step (Draw.start s n)
  if d.isDone then .ok ⟨d.given, d.remainder⟩ src else .error .sourceExhausted src

/-- Whether `n` cards can be drawn from the set. -/
def checkDraw (s : CardSet) (n : Int) : Except Error Nat :=
  if n < 0 then .error (.negativeDraw n)
  else if s.size < n then .error (.notEnoughCards n s.size)
  else .ok n.toNat

/-- **`n` cards drawn from the set.** On an error nothing was drawn. -/
def draw (s : CardSet) (n : Int) : Drawing Drawn :=
  match s.checkDraw n with
  | .error e => throw e
  | .ok n => s.drawFrom n

/-- A draw from a source as it is handed over, which is looked at after the number. The second
part counts the masks that were taken. -/
def drawWith (s : CardSet) (n : Int) (setting : SourceSetting) : Except Error Drawn × Option Nat :=
  match s.checkDraw n, setting.resolve with
  | .error e, _ | .ok _, .error e => (.error e, setting.taken)
  | .ok n, .ok src =>
    match s.drawFrom n src with
    | .ok drawn src => (.ok drawn, src.taken)
    | .error e src => (.error e, src.taken)

/-- **Cards taken out of a set in place.** The set is the state: it is looked at when the draw
begins, and what is left of it is put back when the draw is done. -/
def takeOut (n : Int) (setting : SourceSetting) : EStateM Error CardSet CardSet := do
  let s ← get
  match (s.drawWith n setting).1 with
  | .ok drawn =>
    set drawn.rest
    return drawn.given
  | .error e => throw e

end CardSet

end ContractBridge
