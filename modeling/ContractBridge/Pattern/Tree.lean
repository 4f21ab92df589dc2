/-
Patterns with groups inside groups.

No written pattern has such a group, but one that is put together piece by piece may. It prints
and it can be taken apart, but as a group inside a group has no least number of cards, nothing
can be computed from it.
-/
import ContractBridge.Pattern

set_option autoImplicit false

namespace ContractBridge

/-- A suit, or a group of trees. -/
inductive PatternTree where
  | suit (p : SuitPattern)
  | group (members : List PatternTree)
  deriving Repr, Inhabited

namespace PatternTree

/-- The parts of the tree: a suit is its own part. -/
def members : PatternTree → List PatternTree
  | suit p => [suit p]
  | group members => members

/-- Whether a length fits the pattern of a single suit. -/
def contains : PatternTree → Int → Bool
  | suit p, n => p.contains n
  | group _, _ => false

mutual

/-- The written tree, each group in parentheses. -/
def shown : PatternTree → List Char
  | suit p => p.shown
  | group members => '(' :: shownAll members ++ [')']

/-- Several trees, one behind the other. -/
def shownAll : List PatternTree → List Char
  | [] => []
  | t :: ts => shown t ++ shownAll ts

end

/-- The suit that a tree is. -/
def toSuit : PatternTree → Except PatternFault SuitPattern
  | suit p => .ok p
  | group _ => .error .nestedGroup

/-- **The pattern that a tree is,** unless a group stands inside a group. -/
def toPattern : PatternTree → Except PatternFault Pattern
  | suit p => .ok (.suit p)
  | group members => do return .group (← members.mapM toSuit)

/-- The patterns that several trees are. -/
def toPatterns (ts : List PatternTree) : Except PatternFault (List Pattern) := ts.mapM toPattern

/-- Whether trees describe four suits of thirteen cards. The suits are counted first, and a
group inside a group counts as one. -/
def checkArity (ts : List PatternTree) : Except PatternFault Unit := do
  let parts := ts.flatMap members
  Pattern.checkCount parts.length
  Pattern.checkCards (← parts.mapM toSuit)

end PatternTree

end ContractBridge
