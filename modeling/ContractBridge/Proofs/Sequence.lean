/-
Computations one after the other.

A computation in two parts gives a value exactly if the first part gives one and the second part,
run on it, gives that value; it fails exactly if one of the parts does. With a state, the second
part goes on from the state that the first one left. A test of a whole list is such a sequence, one
part for each element, and so is a list of results. What a list of steps did last is found by taking
its last element off.
-/

set_option autoImplicit false

namespace ContractBridge

variable {ε σ α β : Type}

theorem except_bind_eq_ok_iff {x : Except ε α} {f : α → Except ε β} {b : β} :
    (x >>= f) = .ok b ↔ ∃ a, x = .ok a ∧ f a = .ok b := by
  cases x with
  | error e =>
    constructor
    · intro h; cases h
    · rintro ⟨a, h, -⟩; cases h
  | ok a =>
    constructor
    · intro h; exact ⟨a, rfl, h⟩
    · rintro ⟨_, ha, hf⟩; cases ha; exact hf

theorem except_bind_eq_error_iff {x : Except ε α} {f : α → Except ε β} {e : ε} :
    (x >>= f) = .error e ↔ x = .error e ∨ ∃ a, x = .ok a ∧ f a = .error e := by
  cases x with
  | error e' =>
    constructor
    · intro h; cases h; exact .inl rfl
    · rintro (h | ⟨a, h, -⟩) <;> cases h; rfl
  | ok a =>
    constructor
    · intro h; exact .inr ⟨a, rfl, h⟩
    · rintro (h | ⟨_, ha, hf⟩)
      · cases h
      · cases ha; exact hf

theorem except_bind_pure_eq_ok_iff {x : Except ε α} {f : α → β} {b : β} :
    (do return f (← x)) = Except.ok b ↔ ∃ a, x = .ok a ∧ f a = b := by
  rw [except_bind_eq_ok_iff]
  exact exists_congr fun _ => and_congr_right fun _ => ⟨Except.ok.inj, congrArg Except.ok⟩

theorem estate_bind_eq_ok_iff {x : EStateM ε σ α} {f : α → EStateM ε σ β} {s t : σ} {b : β} :
    (x >>= f) s = .ok b t ↔ ∃ a u, x s = .ok a u ∧ f a u = .ok b t := by
  show (EStateM.bind x f) s = .ok b t ↔ _
  unfold EStateM.bind
  cases hx : x s with
  | error e u =>
    constructor
    · intro h; cases h
    · rintro ⟨a, v, h, -⟩; cases h
  | ok a u =>
    constructor
    · intro h; exact ⟨a, u, rfl, h⟩
    · rintro ⟨_, _, h, hf⟩; cases h; exact hf

theorem estate_bind_eq_error_iff {x : EStateM ε σ α} {f : α → EStateM ε σ β} {s t : σ} {e : ε} :
    (x >>= f) s = .error e t ↔
      x s = .error e t ∨ ∃ a u, x s = .ok a u ∧ f a u = .error e t := by
  show (EStateM.bind x f) s = .error e t ↔ _
  unfold EStateM.bind
  cases hx : x s with
  | error e' u =>
    constructor
    · intro h
      cases h
      exact .inl rfl
    · rintro (h | ⟨a, v, h, -⟩)
      · cases h
        rfl
      · cases h
  | ok a u =>
    constructor
    · intro h
      exact .inr ⟨a, u, rfl, h⟩
    · rintro (h | ⟨_, _, h, hf⟩)
      · cases h
      · cases h
        exact hf

/-- A test of what a computation ended with, which a computation that failed does not pass. -/
def passes (p : α → σ → Bool) : EStateM.Result ε σ α → Bool
  | .ok a s => p a s
  | .error _ _ => false

theorem exists_of_passes {p : α → σ → Bool} {r : EStateM.Result ε σ α} (h : passes p r = true) :
    ∃ a s, r = .ok a s ∧ p a s = true := by
  cases r with
  | ok a s => exact ⟨a, s, rfl, h⟩
  | error e s => cases h

/-- All elements of a list pass a test that may fail exactly if each of them passes it. -/
theorem except_allM_eq_true_iff {f : α → Except ε Bool} {l : List α} :
    l.allM f = .ok true ↔ ∀ a ∈ l, f a = .ok true := by
  induction l with
  | nil =>
    constructor
    · intro _ a ha
      cases ha
    · intro _
      rfl
  | cons a l ih =>
    rw [List.allM, List.forall_mem_cons, ← ih, except_bind_eq_ok_iff]
    constructor
    · rintro ⟨passes, ha, h⟩
      cases passes with
      | false => cases h
      | true => exact ⟨ha, h⟩
    · rintro ⟨ha, h⟩
      exact ⟨true, ha, h⟩

/-- A test of a list fails only where it fails on an element. -/
theorem except_allM_eq_error {f : α → Except ε Bool} {l : List α} {e : ε}
    (h : l.allM f = .error e) : ∃ a ∈ l, f a = .error e := by
  induction l with
  | nil => cases h
  | cons a l ih =>
    rw [List.allM] at h
    cases ha : f a with
    | error e' =>
      rw [ha] at h
      cases h
      exact ⟨a, List.mem_cons_self, ha⟩
    | ok passes =>
      rw [ha] at h
      cases passes with
      | false => cases h
      | true =>
        obtain ⟨b, hb, hfails⟩ := ih h
        exact ⟨b, List.mem_cons_of_mem a hb, hfails⟩

/-- Where a test fails on no element, a list passes it if some element does. -/
theorem except_anyM_eq_any {f : α → Except ε Bool} {p : α → Bool} {l : List α}
    (h : ∀ a ∈ l, f a = .ok (p a)) : l.anyM f = .ok (l.any p) := by
  induction l with
  | nil => rfl
  | cons a l ih =>
    obtain ⟨ha, hl⟩ := List.forall_mem_cons.1 h
    rw [List.anyM, ha, List.any_cons]
    cases hp : p a with
    | true => rfl
    | false => exact ih hl

/-- If a list has its results, every element has one. -/
theorem except_mapM_eq_ok {f : α → Except ε β} {l : List α} {r : List β}
    (h : l.mapM f = .ok r) : ∀ a ∈ l, ∃ b, f a = .ok b := by
  induction l generalizing r with
  | nil => exact fun a ha => absurd ha List.not_mem_nil
  | cons a l ih =>
    rw [List.mapM_cons] at h
    obtain ⟨b, hb, h⟩ := except_bind_eq_ok_iff.1 h
    obtain ⟨bs, hbs, -⟩ := except_bind_eq_ok_iff.1 h
    exact List.forall_mem_cons.2 ⟨⟨b, hb⟩, ih hbs⟩

/-- A list fails where it fails first: all elements before that one have their results. -/
theorem except_mapM_eq_error_iff {f : α → Except ε β} {l : List α} {e : ε} :
    l.mapM f = .error e ↔ ∃ front a rest, l = front ++ a :: rest ∧
      (∀ b ∈ front, ∃ c, f b = .ok c) ∧ f a = .error e := by
  induction l with
  | nil =>
    constructor
    · intro h
      cases h
    · rintro ⟨front, a, rest, hl, -, -⟩
      cases front <;> cases hl
  | cons a l ih =>
    rw [List.mapM_cons, except_bind_eq_error_iff]
    constructor
    · rintro (ha | ⟨c, ha, h⟩)
      · exact ⟨[], a, l, rfl, fun _ hb => absurd hb List.not_mem_nil, ha⟩
      · rcases except_bind_eq_error_iff.1 h with hl | ⟨_, -, hpure⟩
        · obtain ⟨front, b, rest, rfl, hfront, hb⟩ := ih.1 hl
          exact ⟨a :: front, b, rest, rfl, List.forall_mem_cons.2 ⟨⟨c, ha⟩, hfront⟩, hb⟩
        · cases hpure
    · rintro ⟨front, b, rest, hl, hfront, hb⟩
      cases front with
      | nil =>
        cases hl
        exact .inl hb
      | cons a' front =>
        cases hl
        obtain ⟨⟨c, ha⟩, hfront⟩ := List.forall_mem_cons.1 hfront
        have htail := ih.2 ⟨front, b, rest, rfl, hfront, hb⟩
        exact .inr ⟨c, ha, except_bind_eq_error_iff.2 (.inl htail)⟩

/-- The results of a list that is one longer are those of the list and one more, from the state that
the list left. -/
theorem estate_mapM_concat_eq_ok_iff {f : α → EStateM ε σ β} {l : List α} {a : α} {s t : σ}
    {r : List β} : (l ++ [a]).mapM f s = .ok r t ↔
      ∃ bs u b, l.mapM f s = .ok bs u ∧ f a u = .ok b t ∧ r = bs ++ [b] := by
  rw [List.mapM_append, estate_bind_eq_ok_iff]
  refine exists_congr fun bs => exists_congr fun u => ?_
  rw [List.mapM_cons, List.mapM_nil, estate_bind_eq_ok_iff]
  constructor
  · rintro ⟨hl, _, v, hlast, h⟩
    obtain ⟨b, _, ha, hlast⟩ := estate_bind_eq_ok_iff.1 hlast
    cases hlast
    cases h
    exact ⟨b, hl, ha, rfl⟩
  · rintro ⟨b, hl, ha, rfl⟩
    exact ⟨hl, [b], t, estate_bind_eq_ok_iff.2 ⟨b, t, ha, rfl⟩, rfl⟩

/-- A list that is one longer fails where the list fails, or at the last element. -/
theorem estate_mapM_concat_eq_error_iff {f : α → EStateM ε σ β} {l : List α} {a : α} {s t : σ}
    {e : ε} : (l ++ [a]).mapM f s = .error e t ↔
      l.mapM f s = .error e t ∨ ∃ bs u, l.mapM f s = .ok bs u ∧ f a u = .error e t := by
  rw [List.mapM_append, estate_bind_eq_error_iff]
  refine or_congr_right (exists_congr fun bs => exists_congr fun u => and_congr_right fun _ => ?_)
  rw [List.mapM_cons, List.mapM_nil, estate_bind_eq_error_iff, estate_bind_eq_error_iff]
  constructor
  · rintro ((ha | ⟨_, _, -, h⟩) | ⟨_, _, -, h⟩)
    · exact ha
    · cases h
    · cases h
  · intro ha
    exact .inl (.inl ha)

/-- If every element of a list has its result, so has the list. -/
theorem mapM_eq_pure_map {m : Type → Type} [Monad m] [LawfulMonad m] {f : α → m β} {g : α → β}
    {l : List α} (h : ∀ a ∈ l, f a = pure (g a)) : l.mapM f = pure (l.map g) := by
  induction l with
  | nil => rw [List.mapM_nil, List.map_nil]
  | cons a l ih =>
    obtain ⟨ha, hl⟩ := List.forall_mem_cons.1 h
    rw [List.mapM_cons, ha, pure_bind, ih hl, pure_bind, List.map_cons]

/-! ## The last element of a list -/

/-- An element of a list is the last one, or what is behind it ends with the last one. -/
theorem append_singleton_eq_append_cons_iff {l front rest : List α} {last a : α} :
    l ++ [last] = front ++ a :: rest ↔
      (rest = [] ∧ l = front ∧ last = a) ∨ ∃ before, rest = before ++ [last] ∧
        l = front ++ a :: before := by
  constructor
  · intro h
    rcases List.eq_nil_or_concat rest with rfl | ⟨before, b, rfl⟩
    · obtain ⟨hl, hlast⟩ := List.append_inj' h rfl
      exact .inl ⟨rfl, hl, List.singleton_inj.1 hlast⟩
    · rw [List.concat_eq_append, ← List.cons_append, ← List.append_assoc] at h
      obtain ⟨hl, hlast⟩ := List.append_inj' h rfl
      rw [List.singleton_inj.1 hlast]
      exact .inr ⟨before, List.concat_eq_append, hl⟩
  · rintro (⟨rfl, rfl, rfl⟩ | ⟨before, rfl, rfl⟩)
    · rfl
    · rw [List.append_assoc, List.cons_append]

end ContractBridge
