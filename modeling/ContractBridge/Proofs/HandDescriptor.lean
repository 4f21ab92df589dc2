/-
Descriptors of hands.

A descriptor accepts a hand if one of its types does, and none of them fails on a hand of deck cards
(`accepts_eq_any`). Its types are usually written down, as a chain of steps with patterns in them. For
a builder that is reached by such a chain, step for step, `IsMadeBy` says that the patterns can be read
and that no shape is refused on the way, so that the chain gives the same type by whatever cache
(`IsMadeBy.computes`); what a chain makes is found by following it.
-/
import ContractBridge.HandDescriptor
import ContractBridge.Proofs.HandType.Steps
import ContractBridge.Proofs.Pattern.Fitting

set_option autoImplicit false

namespace ContractBridge

variable {hand : Hand} {l : SuitLengths}

/-! ## What is accepted -/

/-- A pattern lists the distributions of hands that fit it, suit by suit. -/
theorem Shape.mem_matching_iff_fits {ps : List Pattern} (hps : ∀ p ∈ ps, p.IsProper) :
    l ∈ (matching ps).members ↔ l.IsOfHand ∧ Pattern.Fits ps l.toList := by
  rw [mem_matching hps, Pattern.matches_iff_fits]

/-- **A descriptor accepts a hand if one of its types does,** and it has an answer for every hand. -/
theorem HandDescriptor.accepts_eq_any (hdeck : hand.cards.subset .deck = true)
    (d : HandDescriptor) : d.accepts hand.cards = .ok (d.types.any fun t =>
      decide (hand.cards.suitLengths ∈ t.shape.members) && t.points.contains hand.points) :=
  except_anyM_eq_any fun t _ => t.accepts_eq hdeck

/-! ## Written types -/

namespace HandTypeBuilder

variable {b : HandTypeBuilder} {steps : List Step} {text : String} {ps : List Pattern}

/-- **A builder that some steps make,** with every pattern compiled anew. -/
structure IsMadeBy (b : HandTypeBuilder) (steps : List Step) : Prop where
  value_eq : steps.foldlM Step.value new = .ok b
  isSound : b.IsSound

theorem isMadeBy_new : new.IsMadeBy [] := ⟨rfl, isSound_new⟩

/-- One more step. -/
theorem IsMadeBy.concat {step : Step} {next : HandTypeBuilder} (h : b.IsMadeBy steps)
    (hnext : step.value b = .ok next) (hfollows : b.Follows step next) :
    next.IsMadeBy (steps ++ [step]) := by
  refine ⟨?_, hfollows.isSound⟩
  rw [List.foldlM_append]
  refine except_bind_eq_ok_iff.2 ⟨b, h.value_eq, ?_⟩
  rw [List.foldlM_cons, hnext]
  rfl

theorem IsMadeBy.add (h : b.IsMadeBy steps) (hparse : Pattern.parse text = .ok ps) :
    (b.add (.matching ps)).IsMadeBy (steps ++ [.add (.pattern text)]) := by
  obtain ⟨hshape, hrep⟩ := Shape.ofPattern_of_parse hparse
  exact h.concat (except_bind_eq_ok_iff.2 ⟨_, hshape, addAny_eq_add h.isSound hrep⟩)
    (follows_add h.isSound hrep)

theorem IsMadeBy.remove (h : b.IsMadeBy steps) (hparse : Pattern.parse text = .ok ps) :
    (b.remove (.matching ps)).IsMadeBy (steps ++ [.remove (.pattern text)]) := by
  obtain ⟨hshape, hrep⟩ := Shape.ofPattern_of_parse hparse
  exact h.concat (except_bind_eq_ok_iff.2 ⟨_, hshape, rfl⟩) (follows_remove h.isSound hrep)

theorem IsMadeBy.withLongest (h : b.IsMadeBy steps) (suit : Suit) :
    (b.withLongest suit).IsMadeBy (steps ++ [.longest suit]) :=
  h.concat rfl (follows_longest suit)

theorem IsMadeBy.withPoints (h : b.IsMadeBy steps) (lo hi : Int) :
    (b.withPoints (.ofEnds lo hi)).IsMadeBy (steps ++ [.points lo hi]) :=
  h.concat rfl (follows_points h.isSound lo hi)

/-- **The steps make the builder by whatever cache.** -/
theorem IsMadeBy.computes (h : b.IsMadeBy steps) :
    Caching.Computes (runAll .new steps) (.ok b) :=
  h.value_eq ▸ computes_runAll .new steps

end HandTypeBuilder

end ContractBridge
