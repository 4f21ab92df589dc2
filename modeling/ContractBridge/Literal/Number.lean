/-
Plain values as integers.

Where an integer is wanted, a truth value counts as 1 or 0. A place that cuts what it is given
takes a number with a point without what stands behind it, and reads a text.
-/
import ContractBridge.Error
import ContractBridge.Text.Digits

set_option autoImplicit false

namespace ContractBridge.Literal

/-- The integer that a value is. -/
def integer : Literal → Except Error Int
  | number n => .ok n
  | truth b => .ok (if b then 1 else 0)
  | _ => .error .wrongKind

/-- **The integer that a value is cut to.** No integer is large enough for an infinite number. -/
def whole : Literal → Except Error Int
  | floating .undefined => .error .unreadableNumber
  | floating x => x.whole?.elim (.error .tooLarge) .ok
  | text s => (Text.readInteger? s.toList).elim (.error .unreadableNumber) .ok
  | v => v.integer

end ContractBridge.Literal
