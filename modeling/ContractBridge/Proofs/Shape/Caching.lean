/-
Computing with a cache.

A computation that asks a cache for shapes carries the cache along, and what it compiled before a
failure is kept. Still its outcome is that of the same computation with every pattern compiled
anew (`Computes`), whatever the cache was asked before: this holds of single questions, since an
entry is what compiling its text gives, and it is kept when computations follow one another.
-/
import ContractBridge.Proofs.Shape.Language

set_option autoImplicit false

namespace ContractBridge

/-! ## Single questions -/

namespace ShapeCache

variable {c : ShapeCache}

/-- A pattern is compiled or looked up, with the same outcome. -/
theorem map_get (hc : c.Reached) (text : String) :
    (c.get text).1.map NumberedShape.shape = Shape.ofPattern text := by
  unfold get
  cases hfind : c.find? text with
  | some entry => exact (ofPattern_of_find? hc hfind).symm
  | none => cases Shape.ofPattern text <;> rfl

theorem getAll_cons_of_get {text : String} {texts : List String} {entry : NumberedShape}
    {d : ShapeCache} (h : c.get text = (.ok entry, d)) :
    c.getAll (text :: texts) =
      ((d.getAll texts).1.map fun shapes => entry.shape :: shapes, (d.getAll texts).2) := by
  rw [getAll, h]
  dsimp only
  rcases d.getAll texts with ⟨_ | _, _⟩ <;> rfl

/-- Several patterns are compiled or looked up, with the same outcome. -/
theorem getAll_spec (hc : c.Reached) (texts : List String) :
    (c.getAll texts).1 = texts.mapM Shape.ofPattern ∧ (c.getAll texts).2.Reached := by
  induction texts generalizing c with
  | nil => exact ⟨rfl, hc⟩
  | cons text texts ih =>
    have hshape := map_get hc text
    have hnext := hc.get text
    rw [List.mapM_cons, ← hshape]
    rcases hget : c.get text with ⟨_ | entry, d⟩
    · rw [getAll, hget]
      rw [hget] at hnext
      exact ⟨rfl, hnext⟩
    · rw [hget] at hnext
      obtain ⟨hall, hlast⟩ := ih hnext
      rw [getAll_cons_of_get hget, ← hall]
      exact ⟨by rcases (d.getAll texts).1 with _ | _ <;> rfl, hlast⟩

end ShapeCache

/-! ## Computations -/

/-- What is computed with a cache at hand. -/
abbrev Caching := ExceptT Error (StateM ShapeCache)

namespace Caching

variable {α β : Type}

/-- The shape of a pattern, by the cache. -/
def ofPattern (text : String) : Caching Shape := ExceptT.mk fun c =>
  let (entry, c) := c.get text
  (entry.map NumberedShape.shape, c)

/-- The shapes of some patterns, by the cache. -/
def ofPatterns (texts : List String) : Caching (List Shape) := ExceptT.mk fun c => c.getAll texts

/-- **A computation whose outcome does not depend on the cache,** as long as that came of asking
and clearing. -/
def Computes (x : Caching α) (r : Except Error α) : Prop :=
  ∀ c : ShapeCache, c.Reached → (x c).1 = r ∧ (x c).2.Reached

theorem Computes.lift (r : Except Error α) : Computes (liftM r) r := fun _ hc => ⟨rfl, hc⟩

theorem Computes.bind {x : Caching α} {r : Except Error α} {f : α → Caching β}
    {g : α → Except Error β} (hx : Computes x r) (hf : ∀ a, Computes (f a) (g a)) :
    Computes (x >>= f) (r >>= g) := by
  intro c hc
  obtain ⟨hr, hreached⟩ := hx c hc
  have hrun : (x >>= f) c = match x c with
    | (.ok a, d) => f a d
    | (.error e, d) => (.error e, d) := by
    show ExceptT.bindCont f (x c).1 (x c).2 = _
    rcases x c with ⟨_ | _, d⟩ <;> rfl
  rw [hrun]
  rcases hxc : x c with ⟨_ | a, d⟩
  · rw [hxc] at hr hreached
    subst hr
    exact ⟨rfl, hreached⟩
  · rw [hxc] at hr hreached
    subst hr
    exact hf a d hreached

theorem computes_ofPattern (text : String) : Computes (ofPattern text) (Shape.ofPattern text) :=
  fun _ hc => ⟨ShapeCache.map_get hc text, hc.get text⟩

theorem computes_ofPatterns (texts : List String) :
    Computes (ofPatterns texts) (texts.mapM Shape.ofPattern) :=
  fun _ hc => ShapeCache.getAll_spec hc texts

end Caching

end ContractBridge
