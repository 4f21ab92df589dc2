/-
What a computation takes from a source of masks.

A draw that succeeds has looked at some masks at the front of its source and at nothing else. The
file makes that exact. `Yields` says which masks a source gives first and which source is left,
`Feeds` says which masks bring a machine to its end, and `feed_eq_iff` puts the two together: the
run of a machine on a source ends well exactly if the masks that end it are the first ones of the
source.

For computations, `Takes x used a` says that `x` gives `a` on every source that begins with `used`,
and `IsLocal x` that this accounts for every success of `x`. Local computations are closed under
sequencing, with the masks of both parts one after the other. So a run can be cut where one part
ends and the next begins, and its masks can be exchanged for others part by part.

`Meets x post fault` leaves the masks open: whatever they are, `x` ends with a value or with an
error of a given kind. It is closed under sequencing too.
-/
import ContractBridge.MaskSource
import ContractBridge.Proofs.Sequence

set_option autoImplicit false

namespace ContractBridge

namespace MaskSource

/-! ## The first masks of a source -/

/-- **The first masks of a source,** in order, and the source after them. -/
inductive Yields : MaskSource → List Int → MaskSource → Prop
  | nil (src : MaskSource) : Yields src [] src
  | cons {src mid rest : MaskSource} {mask : Int} {masks : List Int} :
      src.next? = some (mask, mid) → Yields mid masks rest → Yields src (mask :: masks) rest

variable {src mid rest rest' : MaskSource} {u v : List Int}

theorem Yields.append (hu : Yields src u mid) (hv : Yields mid v rest) :
    Yields src (u ++ v) rest := by
  induction hu with
  | nil => exact hv
  | cons hnext _ ih => exact .cons hnext (ih hv)

theorem Yields.split (h : Yields src (u ++ v) rest) :
    ∃ mid, Yields src u mid ∧ Yields mid v rest := by
  induction u generalizing src with
  | nil => exact ⟨src, .nil src, h⟩
  | cons mask u ih =>
    cases h with
    | cons hnext htail =>
      obtain ⟨mid, hu, hv⟩ := ih htail
      exact ⟨mid, .cons hnext hu, hv⟩

/-- Every mask that was given is one fewer left. -/
theorem Yields.size_add (h : Yields src u rest) : rest.size + u.length = src.size := by
  induction h with
  | nil => rfl
  | cons hnext _ ih =>
    rw [List.length_cons, ← size_next? hnext]
    omega

/-- A source gives its masks in one way only. -/
theorem Yields.unique (hu : Yields src u rest) (hv : Yields src v rest')
    (hlen : u.length = v.length) : u = v ∧ rest = rest' := by
  -- the source says what the next mask is, so both runs make the same step
  induction hu generalizing v with
  | nil =>
    cases hv with
    | nil => exact ⟨rfl, rfl⟩
    | cons _ _ => cases hlen
  | cons hnext _ ih =>
    cases hv with
    | nil => cases hlen
    | cons hnext' htail =>
      rw [hnext] at hnext'
      cases hnext'
      obtain ⟨hmasks, hrest⟩ := ih htail (Nat.succ.inj hlen)
      exact ⟨by rw [hmasks], hrest⟩

/-- The masks that lead to a given source are determined. -/
theorem Yields.eq (hu : Yields src u rest) (hv : Yields src v rest) : u = v := by
  -- what is left of the source says how many masks it has given
  refine (hu.unique hv ?_).1
  have hsize := hu.size_add
  have hsize' := hv.size_add
  omega

/-- A script gives its first masks, and they are counted. -/
theorem Yields.of_script {masks : List Int} {taken : Option Nat}
    (h : Yields ⟨.script masks, taken⟩ u rest) :
    ∃ tail, masks = u ++ tail ∧ rest = ⟨.script tail, taken.map (· + u.length)⟩ := by
  induction u generalizing masks taken with
  | nil =>
    cases h
    refine ⟨masks, rfl, ?_⟩
    cases taken <;> rfl
  | cons mask u ih =>
    cases h with
    | cons hnext htail =>
      match masks, hnext with
      | _ :: masks, hnext =>
        cases hnext
        obtain ⟨tail, hmasks, hrest⟩ := ih htail
        refine ⟨tail, by rw [hmasks]; rfl, hrest.trans ?_⟩
        cases taken with
        | none => rfl
        | some k =>
          show (⟨_, some (k + 1 + u.length)⟩ : MaskSource) = ⟨_, some (k + (u.length + 1))⟩
          rw [Nat.add_assoc, Nat.add_comm 1]

theorem yields_script (u v : List Int) (taken : Option Nat) :
    ∃ taken', Yields ⟨.script (u ++ v), taken⟩ u ⟨.script v, taken'⟩ := by
  induction u generalizing taken with
  | nil => exact ⟨taken, .nil _⟩
  | cons mask u ih =>
    obtain ⟨taken', h⟩ := ih (taken.map (· + 1))
    exact ⟨taken', .cons rfl h⟩

/-- Whatever masks are asked for, some source begins with them. -/
theorem exists_yields (u : List Int) : ∃ src rest, Yields src u rest := by
  obtain ⟨taken, h⟩ := yields_script u [] none
  exact ⟨_, _, h⟩

/-! ## The masks that end a machine -/

section Feeds

variable {σ : Type}

/-- **A machine run on masks until it is done,** with none of them left over. -/
inductive Feeds (done : σ → Bool) (step : σ → Int → σ) : σ → List Int → σ → Prop
  | done {state : σ} : done state = true → Feeds done step state [] state
  | step {state final : σ} {mask : Int} {masks : List Int} : done state = false →
      Feeds done step (step state mask) masks final → Feeds done step state (mask :: masks) final

variable {done : σ → Bool} {step : σ → Int → σ} {state final : σ}

theorem Feeds.isDone (h : Feeds done step state u final) : done final = true := by
  induction h with
  | done hdone => exact hdone
  | step _ _ ih => exact ih

theorem feed_of_feeds (hu : Yields src u rest) (h : Feeds done step state u final) :
    src.feed done step state = (final, rest) := by
  induction hu generalizing state with
  | nil =>
    cases h with
    | done hdone => exact feed_of_done hdone
  | cons hnext _ ih =>
    cases h with
    | step hdone htail => rw [feed_of_next hdone hnext, ih htail]

theorem feeds_of_feed (h : src.feed done step state = (final, rest)) (hdone : done final = true) :
    ∃ used, Yields src used rest ∧ Feeds done step state used final := by
  -- the induction is on the masks that are left, of which every step takes one
  generalize hn : src.size = n at h
  induction n generalizing src state with
  | zero =>
    rw [feed_of_empty (next?_eq_none_iff.2 hn)] at h
    cases h
    exact ⟨[], .nil _, .done hdone⟩
  | succ n ih =>
    cases hstate : done state with
    | true =>
      rw [feed_of_done hstate] at h
      cases h
      exact ⟨[], .nil _, .done hdone⟩
    | false =>
      cases hnext : src.next? with
      | none =>
        rw [next?_eq_none_iff.1 hnext] at hn
        cases hn
      | some taken =>
        obtain ⟨mask, mid⟩ := taken
        rw [feed_of_next hstate hnext] at h
        have hmid : mid.size = n := by
          have := size_next? hnext
          omega
        obtain ⟨used, hyields, hfeeds⟩ := ih h hmid
        exact ⟨mask :: used, .cons hnext hyields, .step hstate hfeeds⟩

/-- **A machine ends well on a source exactly if the masks that end it come first.** -/
theorem feed_eq_iff : (src.feed done step state = (final, rest) ∧ done final = true) ↔
    ∃ used, Yields src used rest ∧ Feeds done step state used final := by
  constructor
  · rintro ⟨h, hdone⟩
    exact feeds_of_feed h hdone
  · rintro ⟨used, hyields, hfeeds⟩
    exact ⟨feed_of_feeds hyields hfeeds, hfeeds.isDone⟩

/-- A machine that is not done has been fed all masks. -/
theorem size_eq_zero_of_feed (h : src.feed done step state = (final, rest))
    (hdone : done final = false) : rest.size = 0 := by
  generalize hn : src.size = n at h
  induction n generalizing src state with
  | zero =>
    rw [feed_of_empty (next?_eq_none_iff.2 hn)] at h
    cases h
    exact hn
  | succ n ih =>
    cases hstate : done state with
    | true =>
      rw [feed_of_done hstate] at h
      cases h
      rw [hstate] at hdone
      cases hdone
    | false =>
      cases hnext : src.next? with
      | none =>
        rw [next?_eq_none_iff.1 hnext] at hn
        cases hn
      | some taken =>
        rw [feed_of_next hstate hnext] at h
        have hsize := size_next? hnext
        exact ih h (by omega)

end Feeds

end MaskSource

/-! ## The masks that a computation takes -/

namespace Drawing

open MaskSource

variable {α β : Type} {x : Drawing α} {f : α → Drawing β} {a : α} {b : β} {u v : List Int}
  {src rest : MaskSource} {e : Error}

/-- **The masks `used` are what the computation takes to give `a`,** whatever comes after them. -/
def Takes (x : Drawing α) (used : List Int) (a : α) : Prop :=
  ∀ ⦃src rest⦄, Yields src used rest → x src = .ok a rest

/-- **Every success of the computation is due to the masks that it took.** -/
def IsLocal (x : Drawing α) : Prop :=
  ∀ ⦃src a rest⦄, x src = .ok a rest → ∃ used, Yields src used rest ∧ Takes x used a

theorem isLocal_pure (a : α) : IsLocal (pure a : Drawing α) := by
  intro src _ rest h
  cases h
  refine ⟨[], .nil src, ?_⟩
  intro src rest h
  cases h
  rfl

theorem isLocal_throw (e : Error) : IsLocal (throw e : Drawing α) := by
  intro src a rest h
  cases h

theorem takes_pure : Takes (pure a : Drawing α) [] a := by
  intro src rest h
  cases h
  rfl

theorem takes_pure_iff {a' : α} : Takes (pure a : Drawing α) u a' ↔ u = [] ∧ a' = a := by
  constructor
  · intro h
    obtain ⟨src, rest, hyields⟩ := exists_yields u
    have hrun := h hyields
    -- the source before and after is the same one, so nothing was taken
    cases hrun
    exact ⟨hyields.eq (.nil src), rfl⟩
  · rintro ⟨rfl, rfl⟩
    exact takes_pure

theorem Takes.bind (hx : Takes x u a) (hf : Takes (f a) v b) : Takes (x >>= f) (u ++ v) b := by
  intro src rest h
  obtain ⟨mid, hu, hv⟩ := h.split
  exact estate_bind_eq_ok_iff.2 ⟨a, mid, hx hu, hf hv⟩

theorem IsLocal.bind (hx : IsLocal x) (hf : ∀ a, IsLocal (f a)) : IsLocal (x >>= f) := by
  intro src b rest h
  obtain ⟨a, mid, hrun, hrest⟩ := estate_bind_eq_ok_iff.1 h
  obtain ⟨u, hu, hxu⟩ := hx hrun
  obtain ⟨v, hv, hfv⟩ := hf a hrest
  exact ⟨u ++ v, hu.append hv, hxu.bind hfv⟩

/-- The masks of two computations, one after the other. -/
theorem takes_bind_iff (hx : IsLocal x) (hf : ∀ a, IsLocal (f a)) {used : List Int} :
    Takes (x >>= f) used b ↔ ∃ u v a, used = u ++ v ∧ Takes x u a ∧ Takes (f a) v b := by
  constructor
  · intro h
    -- one source is enough: locality says there what each of the two parts has taken
    obtain ⟨src, rest, hyields⟩ := exists_yields used
    obtain ⟨a, mid, hrun, hrest⟩ := estate_bind_eq_ok_iff.1 (h hyields)
    obtain ⟨u, hu, hxu⟩ := hx hrun
    obtain ⟨v, hv, hfv⟩ := hf a hrest
    exact ⟨u, v, a, hyields.eq (hu.append hv), hxu, hfv⟩
  · rintro ⟨u, v, a, rfl, hxu, hfv⟩
    exact hxu.bind hfv

/-! ## What a computation can end with -/

/-- **What a computation ends with on any masks:** a value with one property, or an error and a
source left with another. -/
def Meets (x : Drawing α) (post : α → Prop) (fault : Error → MaskSource → Prop) : Prop :=
  ∀ src, match x src with
    | .ok a _ => post a
    | .error e rest => fault e rest

variable {post : α → Prop} {post' : β → Prop} {fault : Error → MaskSource → Prop}

theorem Meets.of_ok (h : Meets x post fault) (hrun : x src = .ok a rest) : post a := by
  have hsrc := h src
  rwa [hrun] at hsrc

theorem Meets.of_error (h : Meets x post fault) (hrun : x src = .error e rest) : fault e rest := by
  have hsrc := h src
  rwa [hrun] at hsrc

theorem meets_pure (h : post a) : Meets (pure a) post fault := fun _ => h

theorem Meets.bind (hx : Meets x post fault) (hf : ∀ a, post a → Meets (f a) post' fault) :
    Meets (x >>= f) post' fault := by
  intro src
  split
  · rename_i b rest h
    obtain ⟨a, mid, hrun, hrest⟩ := estate_bind_eq_ok_iff.1 h
    exact (hf a (hx.of_ok hrun)).of_ok hrest
  · rename_i e rest h
    rcases estate_bind_eq_error_iff.1 h with hrun | ⟨a, mid, hrun, hrest⟩
    · exact hx.of_error hrun
    · exact (hf a (hx.of_ok hrun)).of_error hrest

end Drawing

end ContractBridge
