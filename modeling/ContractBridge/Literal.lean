/-
Settings as they are handed over.

A seat, a vulnerability or a random source may be given by any plain value, and a value that
names none is quoted in the message that refuses it. A literal is such a value; `shown` is its
quoted form and `number?` the integer it equals, if any: the truth values count as 1 and 0 and
a number with a point, if nothing but zeros stands behind it, as the integer.
-/
import ContractBridge.Floating
import ContractBridge.Text.Quoted

set_option autoImplicit false

namespace ContractBridge

/-- A plain value. -/
inductive Literal where
  | none
  | truth (b : Bool)
  | number (n : Int)
  | floating (x : Floating)
  | text (s : String)
  | list (items : List Literal)
  | record (entries : List (String × Literal))
  deriving Repr, Inhabited

namespace Literal

/-- The integer that a literal equals, if any. -/
def number? : Literal → Option Int
  | number n => some n
  | truth b => some (if b then 1 else 0)
  | floating x => x.integer?
  | _ => Option.none

/-- Whether a literal may name an entry: lists and records may not. -/
def isKey : Literal → Bool
  | list _ => false
  | record _ => false
  | _ => true

/-- Whether two literals are the same key: equal texts, or equal numbers of any kind. -/
def isSame : Literal → Literal → Bool
  | none, none => true
  | text s, text t => s == t
  | floating x, floating y => x.isSame y
  | a, b => a.number?.isSome && a.number? == b.number?

/-- What a literal lists: a text its characters and a record its names. -/
def items? : Literal → Option (List Literal)
  | list items => some items
  | text s => some (s.toList.map fun c => text (String.ofList [c]))
  | record entries => some (entries.map fun entry => text entry.1)
  | _ => Option.none

mutual

/-- **The quoted form of a literal.** -/
def shown : Literal → List Char
  | none => "None".toList
  | truth true => "True".toList
  | truth false => "False".toList
  | number n => Text.decimal n
  | floating x => x.shown
  | text s => Text.quote s.toList
  | list items => '[' :: List.intercalate [',', ' '] (shownAll items) ++ [']']
  | record entries => '\x7b' :: List.intercalate [',', ' '] (shownEntries entries) ++ ['\x7d']

/-- The quoted forms of several literals. -/
def shownAll : List Literal → List (List Char)
  | [] => []
  | l :: ls => shown l :: shownAll ls

/-- The quoted forms of several entries. -/
def shownEntries : List (String × Literal) → List (List Char)
  | [] => []
  | (key, l) :: ls => (Text.quote key.toList ++ ':' :: ' ' :: shown l) :: shownEntries ls

end

/-- The literal as plain text: a text is itself, anything else its quoted form. -/
def plain : Literal → List Char
  | text s => s.toList
  | l => l.shown

end Literal

end ContractBridge
