/-
Descriptions of hands.

A descriptor is a list of hand types of which a hand has to belong to one. Where a constraint on
a hand is asked for, a descriptor will do, or a single type, or a plain list of types, or
nothing.
-/
import ContractBridge.HandType

set_option autoImplicit false

namespace ContractBridge

/-- **Types of hands, one of which must fit.** -/
structure HandDescriptor where
  types : List HandType
  deriving Repr

namespace HandDescriptor

/-- Whether some cards belong to one of the types; the types are tried in order. -/
def accepts (d : HandDescriptor) (cards : CardSet) : Except Error Bool :=
  d.types.anyM fun t => t.accepts cards

/-- The descriptor, a line for each type. -/
def shown (d : HandDescriptor) : List Char :=
  match d.types with
  | [] => "Hand descriptor: (nothing)".toList
  | t :: ts =>
    Text.joinLines ("Hand descriptor:".toList :: ("     ".toList ++ t.shown) ::
      ts.map fun t => "  or ".toList ++ t.shown)

end HandDescriptor

/-! ## Constraints -/

/-- What may stand where a constraint is asked for. -/
inductive HandConstraint where
  | none
  | type (t : HandType)
  | descriptor (d : HandDescriptor)
  | list (ts : List HandType)
  deriving Repr

namespace HandConstraint

/-- The descriptor that a constraint is. -/
def toDescriptor? : HandConstraint → Option HandDescriptor
  | none => Option.none
  | type t => some ⟨[t]⟩
  | descriptor d => some d
  | list ts => some ⟨ts⟩

/-- The types of a constraint. -/
def types : HandConstraint → List HandType
  | none => []
  | type t => [t]
  | descriptor d => d.types
  | list ts => ts

/-- One constraint or another. The first must be a type or a descriptor. -/
def or : HandConstraint → HandConstraint → Except Error HandConstraint
  | type t, c => .ok (.descriptor ⟨t :: c.types⟩)
  | descriptor d, c => .ok (.descriptor ⟨d.types ++ c.types⟩)
  | none, _ | list _, _ => .error .wrongKind

/-- A constraint again; nothing has no copy. -/
def copy : HandConstraint → Except Error HandConstraint
  | none => .error .unsupported
  | c => .ok c

/-- The type at an index of a descriptor or a list; an index that is negative counts from the
end. -/
def item (i : Int) : HandConstraint → Except Error HandType
  | descriptor d => Shape.entry d.types i
  | list ts => Shape.entry ts i
  | none | type _ => .error .wrongKind

/-- Whether some cards meet a type or a descriptor. -/
def accepts (cards : CardSet) : HandConstraint → Except Error Bool
  | type t => t.accepts cards
  | descriptor d => d.accepts cards
  | none | list _ => .error .unsupported

/-- A type or a descriptor in words. -/
def shown? : HandConstraint → Option (List Char)
  | type t => some t.shown
  | descriptor d => some d.shown
  | none | list _ => Option.none

end HandConstraint

end ContractBridge
