/-
The distributions of patterns.

An expansion walks a queue of patterns from the front and builds up the lengths of the suits one
by one. The cards that no pattern claims are free, and an open pattern may take any number of
them. A group is replaced at the front of the queue by each ordering of its members in turn.
Behind three lengths the fourth is forced, and it only has to fit what is left of the queue.

What a pattern changes in the queue and in the number of free cards it puts back, so every
alternative starts from the same state, and so does a second run.
-/
import ContractBridge.Pattern.Orderings
import ContractBridge.Pattern.Reader
import ContractBridge.SuitLengths

set_option autoImplicit false

namespace ContractBridge

/-- **An expansion under way.** -/
structure Expansion where
  /-- The patterns still to be met, in order. -/
  queue : List Pattern
  /-- The cards that no pattern claims. -/
  free : Int
  /-- The distributions found so far, the last one first. -/
  found : List SuitLengths
  deriving Repr

namespace Expansion

/-- The expansion of patterns before its first step. -/
def start (ps : List Pattern) : Expansion := ⟨ps, handSize - Pattern.fixedMinimum ps, []⟩

/-- The numbers from 0 up to `n`, none if `n` is negative. -/
def upTo (n : Int) : List Int := (List.range (n + 1).toNat).map Int.ofNat

@[simp] theorem mem_upTo {k n : Int} : k ∈ upTo n ↔ 0 ≤ k ∧ k ≤ n := by
  simp only [upTo, List.mem_map, List.mem_range]
  constructor
  · rintro ⟨i, hi, rfl⟩
    simp only [Int.ofNat_eq_natCast]; omega
  · intro h
    exact ⟨k.toNat, by omega, by simp only [Int.ofNat_eq_natCast]; omega⟩

/-- The last length, forced by the three before it, if the only pattern left takes it. -/
def close (s : Expansion) (p : Pattern) (spades hearts diamonds : Int) : Expansion :=
  let clubs := handSize - (spades + hearts + diamonds)
  if 0 ≤ clubs && s.queue.isEmpty && p.contains clubs then
    { s with found := ⟨spades, hearts, diamonds, clubs⟩ :: s.found }
  else s

/-- Each of some numbers of free cards taken in turn; the cards are free again afterwards. -/
def share (visit : Expansion → Int → Expansion) (counts : List Int) (s : Expansion) : Expansion :=
  let free := s.free
  { counts.foldl (fun s k => visit { s with free := free - k } k) s with free := free }

/-- Each of some orderings put before the queue in turn, and taken off again afterwards. -/
def splice (visit : Expansion → Expansion) (orders : List (List SuitPattern)) (s : Expansion) :
    Expansion :=
  orders.foldl
    (fun s o =>
      let s := visit { s with queue := o.map .suit ++ s.queue }
      { s with queue := s.queue.drop o.length })
    s

/-- **The distributions that begin with some lengths** and go on as the queue says, added to
those found. -/
def explore : Nat → List Int → Expansion → Expansion
  | 0, _, s => s
  | fuel + 1, lengths, s =>
    match s.queue with
    | [] => s
    | p :: rest =>
      let inner := { s with queue := rest }
      let inner :=
        match lengths, p with
        | [spades, hearts, diamonds], p => inner.close p spades hearts diamonds
        | lengths, .group members =>
          inner.splice (explore fuel lengths) (orderings members)
        | lengths, .suit ⟨n, .atLeast⟩ =>
          inner.share (fun s k => explore fuel (lengths ++ [n + k]) s) (upTo inner.free)
        | lengths, .suit ⟨n, .atMost⟩ =>
          inner.share (fun s k => explore fuel (lengths ++ [k]) s) (upTo (min inner.free n))
        | lengths, .suit ⟨n, .exact⟩ => explore fuel (lengths ++ [n]) inner
      { inner with queue := p :: inner.queue }

/-- How many steps lead through a queue: one for a suit, and one for a group besides those of
its members. -/
def depth (queue : List Pattern) : Nat :=
  total (queue.map fun
    | .suit _ => 1
    | .group members => members.length + 1)

/-- A whole run: the distinct distributions in order, and the expansion after it. -/
def run (s : Expansion) : List SuitLengths × Expansion :=
  let s := explore (depth s.queue + 1) [] { s with found := [] }
  (SuitLengths.sortDistinct s.found, s)

end Expansion

namespace Pattern

/-- **The distributions that match some patterns,** in order. -/
def distributions (ps : List Pattern) : List SuitLengths := (Expansion.start ps).run.1

/-- The distributions that match a written pattern, in order. -/
def compile (s : String) : Except Error (List SuitLengths) := do
  return distributions (← parse s)

end Pattern

end ContractBridge
