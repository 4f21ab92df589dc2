/-
The distinct orderings of a list.

An ordering starts with any entry and goes on with an ordering of the others. Entries that are
equal start the same orderings, so each distinct one starts once, and no ordering is listed
twice.
-/

set_option autoImplicit false

namespace ContractBridge

variable {α : Type} [DecidableEq α]

/-- The entries of a list, each once, in the order of their first places. -/
def distinctEntries : List α → List α
  | [] => []
  | x :: l => x :: (distinctEntries l).filter (· != x)

@[simp] theorem mem_distinctEntries {x : α} {l : List α} : x ∈ distinctEntries l ↔ x ∈ l := by
  induction l with
  | nil => simp [distinctEntries]
  | cons y l ih =>
    simp only [distinctEntries, List.mem_cons, List.mem_filter, ih, bne_iff_ne, ne_eq]
    by_cases h : x = y <;> simp [h]

/-- The orderings of a list of `n` entries. -/
def orderingsOf : Nat → List α → List (List α)
  | 0, _ => [[]]
  | n + 1, l => (distinctEntries l).flatMap fun x => (orderingsOf n (l.erase x)).map (x :: ·)

/-- **The distinct orderings of a list.** -/
def orderings (l : List α) : List (List α) := orderingsOf l.length l

theorem mem_orderingsOf {n : Nat} {l o : List α} (hn : l.length = n) :
    o ∈ orderingsOf n l ↔ o.Perm l := by
  induction n generalizing l o with
  | zero =>
    have hl : l = [] := List.length_eq_zero_iff.1 hn
    subst hl
    simp [orderingsOf]
  | succ n ih =>
    simp only [orderingsOf, List.mem_flatMap, mem_distinctEntries, List.mem_map]
    constructor
    · rintro ⟨x, hx, t, ht, rfl⟩
      have he : (l.erase x).length = n := by rw [List.length_erase_of_mem hx, hn]; rfl
      exact ((ih he).1 ht).cons x |>.trans (List.perm_cons_erase hx).symm
    · intro h
      match o, h with
      | [], h => rw [← h.length_eq] at hn; simp at hn
      | x :: t, h =>
        have hx : x ∈ l := h.mem_iff.1 List.mem_cons_self
        have he : (l.erase x).length = n := by rw [List.length_erase_of_mem hx, hn]; rfl
        exact ⟨x, hx, t, (ih he).2 ((List.perm_cons x).1 (h.trans (List.perm_cons_erase hx))), rfl⟩

/-- The orderings of a list are its permutations. -/
@[simp] theorem mem_orderings {l o : List α} : o ∈ orderings l ↔ o.Perm l := mem_orderingsOf rfl

end ContractBridge
