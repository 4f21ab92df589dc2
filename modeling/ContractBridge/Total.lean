/-
Totals of lists.

Points, lengths and hands are counted by adding up a list, of natural numbers or of integers. A
total is taken entry by entry, so the total of two lists together is the sum of their totals.
-/

set_option autoImplicit false

namespace ContractBridge

section Total

variable {α : Type} [Add α] [OfNat α 0]

/-- **The entries of a list added up.** -/
def total : List α → α
  | [] => 0
  | n :: ns => n + total ns

@[simp] theorem total_nil : total ([] : List α) = 0 := rfl

@[simp] theorem total_cons (n : α) (ns : List α) : total (n :: ns) = n + total ns := rfl

end Total

/-- The total of two lists together. -/
@[simp] theorem total_append (l m : List Int) : total (l ++ m) = total l + total m := by
  induction l with
  | nil => simp
  | cons n l ih => rw [List.cons_append, total_cons, total_cons, ih, Int.add_assoc]

end ContractBridge
