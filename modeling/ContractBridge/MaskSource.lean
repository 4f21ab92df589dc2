/-
Where random masks come from.

Cards are drawn by masks of 63 random places. A source is either a script, a list of masks that
ends, or a mixer, which steps a 64-bit counter by a fixed odd constant and scrambles it; a
mixer is used up when its counter has been all the way round. Every source is therefore finite,
`size` says how many masks are left, and `feed` runs a machine on the masks for as long as it
asks for more.
-/
import ContractBridge.Error

set_option autoImplicit false

namespace ContractBridge

/-- The two kinds of mask streams. -/
inductive MaskStream where
  | script (masks : List Int)
  | mixer (counter : UInt64) (left : Nat)
  deriving Repr

/-- **A stream of masks and how many were taken from it,** where that is counted. -/
structure MaskSource where
  stream : MaskStream
  taken : Option Nat
  deriving Repr

namespace MaskSource

/-- A source with a fixed list of masks. -/
def ofScript (masks : List Int) : MaskSource := ⟨.script masks, some 0⟩

/-- A mixer that starts from a seed. It stands in for the generator that the seed would start, and
no result uses the masks that it gives. -/
def ofSeed (seed : Int) : MaskSource :=
  ⟨.mixer (UInt64.ofInt seed) UInt64.size, some 0⟩

/-- The source without a count. -/
def uncounted (src : MaskSource) : MaskSource := { src with taken := none }

/-- The mask that a mixer makes of its counter: three rounds of shift and multiply, then 63 of
the 64 places. -/
def scramble (counter : UInt64) : Int :=
  let z := (counter ^^^ (counter >>> 30)) * 0xBF58476D1CE4E5B9
  let z := (z ^^^ (z >>> 27)) * 0x94D049BB133111EB
  let z := (z ^^^ (z >>> 31)) >>> 1
  (z.toNat : Int)

/-- How many masks are left. -/
def size (src : MaskSource) : Nat :=
  match src.stream with
  | .script masks => masks.length
  | .mixer _ left => left

/-- The next mask and the source after it. -/
def next? (src : MaskSource) : Option (Int × MaskSource) :=
  match src.stream with
  | .script [] => none
  | .script (mask :: masks) => some (mask, ⟨.script masks, src.taken.map (· + 1)⟩)
  | .mixer _ 0 => none
  | .mixer counter (left + 1) =>
    let counter := counter + 0x9E3779B97F4A7C15
    some (scramble counter, ⟨.mixer counter left, src.taken.map (· + 1)⟩)

/-- A mask taken is one fewer left. -/
theorem size_next? {src rest : MaskSource} {mask : Int} (h : src.next? = some (mask, rest)) :
    rest.size + 1 = src.size := by
  match src, h with
  | ⟨.script [], _⟩, h => cases h
  | ⟨.script (_ :: _), _⟩, h => cases h; rfl
  | ⟨.mixer _ 0, _⟩, h => cases h
  | ⟨.mixer _ (_ + 1), _⟩, h => cases h; rfl

theorem next?_eq_none_iff {src : MaskSource} : src.next? = none ↔ src.size = 0 := by
  match src with
  | ⟨.script [], _⟩ => simp [next?, size]
  | ⟨.script (_ :: _), _⟩ => simp [next?, size]
  | ⟨.mixer _ 0, _⟩ => simp [next?, size]
  | ⟨.mixer _ (_ + 1), _⟩ => simp [next?, size]

/-! ## Feeding a machine -/

section Feed

variable {σ : Type}

/-- Up to `fuel` masks fed to a machine that stops once it is done. -/
def feedUpTo (done : σ → Bool) (step : σ → Int → σ) : Nat → MaskSource → σ → σ × MaskSource
  | 0, src, state => (state, src)
  | fuel + 1, src, state =>
    if done state then (state, src)
    else
      match src.next? with
      | none => (state, src)
      | some (mask, src) => feedUpTo done step fuel src (step state mask)

/-- **The masks of a source fed to a machine until it is done** or the source is used up. -/
def feed (done : σ → Bool) (step : σ → Int → σ) (src : MaskSource) (state : σ) : σ × MaskSource :=
  feedUpTo done step src.size src state

variable {done : σ → Bool} {step : σ → Int → σ}

theorem feed_of_done {src : MaskSource} {state : σ} (h : done state = true) :
    feed done step src state = (state, src) := by
  unfold feed
  cases src.size <;> simp [feedUpTo, h]

theorem feed_of_empty {src : MaskSource} {state : σ} (h : src.next? = none) :
    feed done step src state = (state, src) := by
  simp [feed, next?_eq_none_iff.1 h, feedUpTo]

theorem feed_of_next {src rest : MaskSource} {state : σ} {mask : Int}
    (hd : done state = false) (h : src.next? = some (mask, rest)) :
    feed done step src state = feed done step rest (step state mask) := by
  simp [feed, ← size_next? h, feedUpTo, hd, h]

end Feed

end MaskSource

/-- **A computation that takes masks from a source** and may fail; the masks it took are gone
either way. -/
abbrev Drawing (α : Type) := EStateM Error MaskSource α

/-! ## Settings -/

/-- A random source as it is handed over: none, a seed, a source, or a value that is neither. -/
inductive SourceSetting where
  | fresh
  | seeded (seed : Int)
  | given (source : MaskSource)
  | other (v : Literal)
  deriving Repr

namespace SourceSetting

/-- The setting that a plain value is: an integer is a seed. -/
def ofLiteral : Literal → SourceSetting
  | .none => fresh
  | .number seed => seeded seed
  | v => other v

/-- **The source of a setting.** Without a setting some mixer is used; seeds are not negative.
Masks are counted where the source itself was handed over. The mixers stand in for generators, as in
`MaskSource.ofSeed`: what is said here is when there is a source, not which masks it gives. -/
def resolve : SourceSetting → Except Error MaskSource
  | fresh => .ok (MaskSource.ofSeed 0).uncounted
  | seeded seed => if 0 ≤ seed then .ok (MaskSource.ofSeed seed).uncounted else .error .negativeSeed
  | given source => .ok source
  | other v => .error (.notARandomSource v)

/-- How many masks were taken from a source that was handed over. -/
def taken : SourceSetting → Option Nat
  | given source => source.taken
  | _ => none

/-- Whether a source was handed over. -/
def isGiven : SourceSetting → Bool
  | given _ => true
  | _ => false

end SourceSetting

end ContractBridge
