/-
Types of hands built step by step.

A builder takes shapes in and out, replaces them by the hands with a longest suit, and sets ranges
of points. What comes of all these steps is told distribution by distribution, without the shapes in
between: the last step that has something to say about a distribution settles it, and if no step has,
it is in exactly if the builder was not begun by putting something in (`Selected`).

The steps are carried out from the front, so the argument is about a builder in the middle of its
work: what it has so far counts for the distributions that no later step settles (`SelectedFrom`). A
step lemma says that this is the same for a builder with a step before it and for the one after it
(`Follows.selectedFrom_iff`), and the induction over the steps needs nothing else. A builder without
a shape is not one with all distributions, because adding to it starts from nothing; `Stands` keeps
the two apart until the last step.
-/
import ContractBridge.Proofs.HandType.Points
import ContractBridge.Proofs.Shape.Expression

set_option autoImplicit false

namespace ContractBridge

/-! ## Shapes for a builder -/

/-- **A shape as a builder is given it:** as a written pattern, or as the shape itself. -/
inductive GivenShape where
  | pattern (text : String)
  | shape (s : Shape)

namespace GivenShape

/-- The shape that is given, a pattern by way of the cache. -/
def eval : GivenShape → Caching Shape
  | pattern text => Caching.ofPattern text
  | shape s => return s

/-- The same with a pattern compiled anew. -/
def value : GivenShape → Except Error Shape
  | pattern text => Shape.ofPattern text
  | shape s => .ok s

/-- The distributions that are given. -/
def meaning : GivenShape → Set SuitLengths
  | pattern text => Shape.matched text
  | shape s => {l | l ∈ s.members}

/-- Whether a pattern can be read, or a shape is one that an expression gives. -/
def Accepted : GivenShape → Prop
  | pattern text => ∃ ps, Pattern.parse text = .ok ps
  | shape s => ∃ (e : ShapeExpr) (c : ShapeCache), c.Reached ∧ (e.eval c).1 = .ok s

theorem computes_eval (g : GivenShape) : Caching.Computes g.eval g.value := by
  cases g with
  | pattern text => exact Caching.computes_ofPattern text
  | shape s => exact .lift (.ok s)

/-- What is accepted is the shape of its distributions. -/
theorem Accepted.exists_represents {g : GivenShape} (hg : g.Accepted) :
    ∃ s, g.value = .ok s ∧ s.Represents g.meaning := by
  cases g with
  | pattern text =>
    obtain ⟨s, hs⟩ := (Shape.builds_ofPattern text).isOk_iff.2 hg
    exact ⟨s, hs, (Shape.builds_ofPattern text).represents s hs⟩
  | shape s =>
    obtain ⟨e, c, hc, hs⟩ := hg
    exact ⟨s, rfl, (ShapeExpr.represents_of_eval hc hs).ofMembers⟩

end GivenShape

namespace HandTypeBuilder

/-! ## Steps -/

/-- **A step of building a type.** -/
inductive Step where
  | add (g : GivenShape)
  | remove (g : GivenShape)
  | longest (suit : Suit)
  | points (lo hi : Int)

namespace Step

/-- Whether the shapes of a step are accepted. -/
def Accepted : Step → Prop
  | add g | remove g => g.Accepted
  | longest _ | points _ _ => True

/-- A step carried out with a cache at hand. -/
def run (b : HandTypeBuilder) : Step → Caching HandTypeBuilder
  | add g => do liftM (b.addAny (← g.eval))
  | remove g => do return b.remove (← g.eval)
  | longest suit => return b.withLongest suit
  | points lo hi => return b.withPoints (.ofEnds lo hi)

/-- The same with every pattern compiled anew. -/
def value (b : HandTypeBuilder) : Step → Except Error HandTypeBuilder
  | add g => do b.addAny (← g.value)
  | remove g => do return b.remove (← g.value)
  | longest suit => return b.withLongest suit
  | points lo hi => return b.withPoints (.ofEnds lo hi)

theorem computes_run (b : HandTypeBuilder) (step : Step) :
    Caching.Computes (step.run b) (step.value b) := by
  cases step with
  | add g => exact g.computes_eval.bind fun _ => .lift _
  | remove g => exact g.computes_eval.bind fun _ => .lift (.ok _)
  | longest suit => exact .lift (.ok _)
  | points lo hi => exact .lift (.ok _)

/-! ## What a step says -/

/-- Whether a step puts a distribution in. -/
def Selects (l : SuitLengths) : Step → Prop
  | add g => l ∈ g.meaning
  | longest suit => 5 ≤ l.get suit ∧ ∀ other, l.get other ≤ l.get suit
  | remove _ | points _ _ => False

/-- Whether a step puts a distribution out. -/
def Excludes (l : SuitLengths) : Step → Prop
  | remove g => l ∈ g.meaning
  | longest suit => ¬ (5 ≤ l.get suit ∧ ∀ other, l.get other ≤ l.get suit)
  | add _ | points _ _ => False

/-- **Whether a step has something to say about a distribution.** -/
def Decides (l : SuitLengths) (step : Step) : Prop := step.Selects l ∨ step.Excludes l

/-- The range that a step sets, with the ends moved to numbers from 0 to 37. -/
def range? : Step → Option PointRange
  | points lo hi => some ⟨min (max lo 0) 37, max (min hi 37) (min (max lo 0) 37)⟩
  | add _ | remove _ | longest _ => none

end Step

/-- Whether the first step with shapes, if there is one, takes shapes out. -/
def StartsFull : List Step → Prop
  | [] => True
  | .points _ _ :: steps => StartsFull steps
  | .remove _ :: _ => True
  | .add _ :: _ | .longest _ :: _ => False

/-- Whether the last step that has something to say about a distribution puts it in. -/
def Settled (steps : List Step) (l : SuitLengths) : Prop :=
  ∃ front step rest, steps = front ++ step :: rest ∧ step.Selects l ∧
    ∀ later ∈ rest, ¬ later.Decides l

/-- **Whether some steps select a distribution.** The last step that has something to say about it
settles it; if there is none, the distribution is selected if nothing was put in first. -/
def Selected (steps : List Step) (l : SuitLengths) : Prop :=
  Settled steps l ∨ (∀ step ∈ steps, ¬ step.Decides l) ∧ StartsFull steps

/-- **The range that some steps set:** that of the last step with a range, or all points. -/
def lastRange (steps : List Step) : PointRange :=
  (steps.filterMap Step.range?).getLast?.getD ⟨0, 37⟩

variable {b : HandTypeBuilder} {step : Step} {steps : List Step} {l : SuitLengths}

theorem not_settled_nil : ¬ Settled [] l := by
  rintro ⟨front, step, rest, h, -⟩
  cases front <;> cases h

theorem settled_cons : Settled (step :: steps) l ↔
    Settled steps l ∨ step.Selects l ∧ ∀ later ∈ steps, ¬ later.Decides l := by
  constructor
  · rintro ⟨front, found, rest, h, hfound, hrest⟩
    cases front with
    | nil =>
      cases h
      exact .inr ⟨hfound, hrest⟩
    | cons first front =>
      cases h
      exact .inl ⟨front, found, rest, rfl, hfound, hrest⟩
  · rintro (⟨front, found, rest, rfl, hfound, hrest⟩ | ⟨hstep, hrest⟩)
    · exact ⟨step :: front, found, rest, rfl, hfound, hrest⟩
    · exact ⟨[], step, steps, rfl, hstep, hrest⟩

/-! ## In the middle of building -/

/-- Whether a distribution is in as long as no step puts it out: by the shape so far or, without one,
by how the steps begin. -/
def Stands (b : HandTypeBuilder) (steps : List Step) (l : SuitLengths) : Prop :=
  match b.shape with
  | none => StartsFull steps
  | some s => l ∈ s.members

/-- Whether a builder and the steps that are still to come select a distribution. -/
def SelectedFrom (b : HandTypeBuilder) (steps : List Step) (l : SuitLengths) : Prop :=
  Settled steps l ∨ (∀ step ∈ steps, ¬ step.Decides l) ∧ b.Stands steps l

/-- Whether the shape so far is one of hands' distributions within its bounds. -/
def IsSound (b : HandTypeBuilder) : Prop :=
  ∀ s, b.shape = some s → s.Represents {l | l ∈ s.members}

variable {s : Shape} {A : Set SuitLengths}

theorem stands_of_none (h : b.shape = none) : b.Stands steps l ↔ StartsFull steps := by
  rw [Stands, h]

theorem stands_of_some (h : b.shape = some s) : b.Stands steps l ↔ l ∈ s.members := by
  rw [Stands, h]

theorem isSound_new : IsSound new := by
  rintro s ⟨⟩

theorem isSound_of_represents (h : b.shape = some s) (hs : s.Represents A) : b.IsSound := by
  intro t ht
  obtain rfl : s = t := Option.some.inj (h.symm.trans ht)
  exact hs.ofMembers

/-- The shape so far, or all distributions, lists what stands if the steps begin by taking out. -/
theorem mem_getD_all (hl : l.IsOfHand) (hfull : StartsFull steps) :
    l ∈ (b.shape.getD .all).members ↔ b.Stands steps l := by
  cases h : b.shape with
  | none => exact iff_of_true (Shape.mem_all.2 hl) ((stands_of_none h).2 hfull)
  | some s => exact (stands_of_some h).symm

/-- The shape so far, or all distributions, is the shape of what it lists. -/
theorem IsSound.represents_getD (hb : b.IsSound) :
    (b.shape.getD .all).Represents {l | l ∈ (b.shape.getD .all).members} := by
  cases h : b.shape with
  | none => exact Shape.represents_all.ofMembers
  | some s => exact hb s h

/-! ## One step -/

/-- **What a step makes of a builder:** behind the step a distribution stands if the step puts it in,
or if it stood before and the step has nothing to say about it; and the range is that of the step, or
the one before. -/
structure Follows (b : HandTypeBuilder) (step : Step) (next : HandTypeBuilder) : Prop where
  isSound : next.IsSound
  stands_iff : ∀ steps l, l.IsOfHand →
    (next.Stands steps l ↔ step.Selects l ∨ ¬ step.Decides l ∧ b.Stands (step :: steps) l)
  points_eq : next.points = step.range?.or b.points

/-- A shape of a set is added to a sound builder without fail. -/
theorem addAny_eq_add (hb : b.IsSound) (hs : s.Represents A) : b.addAny s = .ok (b.add s) := by
  cases h : b.shape with
  | none => rw [addAny, h]
  | some t =>
    have hadd : t.add s = .ok (t ∪ s) := Shape.add_eq_union (hb t h).tight hs.tight
    rw [addAny, add, h]
    dsimp only
    rw [hadd]
    rfl

theorem follows_add {g : GivenShape} (hb : b.IsSound) (hs : s.Represents g.meaning) :
    b.Follows (.add g) (b.add s) := by
  cases h : b.shape with
  | none =>
    rw [add, h]
    refine ⟨isSound_of_represents rfl hs, fun steps l _ => ?_, rfl⟩
    rw [stands_of_some rfl, stands_of_none h, hs.mem_iff]
    exact (or_iff_left fun hfull => hfull.2).symm
  | some t =>
    rw [add, h]
    refine ⟨isSound_of_represents rfl ((hb t h).union hs), fun steps l _ => ?_, rfl⟩
    rw [stands_of_some rfl, stands_of_some h, Shape.mem_union, hs.mem_iff]
    simp only [Step.Decides, Step.Selects, Step.Excludes]
    tauto

theorem follows_remove {g : GivenShape} (hb : b.IsSound) (hs : s.Represents g.meaning) :
    b.Follows (.remove g) (b.remove s) where
  isSound := isSound_of_represents rfl (hb.represents_getD.diff hs)
  stands_iff steps l hl := by
    have hstands : l ∈ (b.shape.getD .all).members ↔ b.Stands (.remove g :: steps) l :=
      mem_getD_all hl trivial
    rw [stands_of_some rfl, Shape.mem_diff, hs.mem_iff, hstands]
    simp only [Step.Decides, Step.Selects, Step.Excludes]
    tauto
  points_eq := rfl

theorem follows_longest (suit : Suit) : b.Follows (.longest suit) (b.withLongest suit) where
  isSound := isSound_of_represents rfl
    (Shape.represents_ofTable (A := {l | l ∈ (Shape.withLongest suit).members}) (fun _ => Iff.rfl)
      fun _ hl => (Shape.mem_withLongest.1 hl).1)
  stands_iff steps l hl := by
    rw [stands_of_some rfl, Shape.mem_withLongest, and_iff_right hl]
    simp only [Step.Decides, Step.Selects, Step.Excludes]
    tauto
  points_eq := rfl

theorem follows_points (hb : b.IsSound) (lo hi : Int) :
    b.Follows (.points lo hi) (b.withPoints (.ofEnds lo hi)) where
  isSound := hb
  stands_iff steps l _ := by
    have hstart : b.Stands (.points lo hi :: steps) l ↔ b.Stands steps l := Iff.rfl
    rw [hstart]
    simp only [Step.Decides, Step.Selects, Step.Excludes]
    tauto
  points_eq := rfl

/-- **A step with an accepted shape is carried out** and makes of the builder what it says. -/
theorem exists_follows (hb : b.IsSound) (hstep : step.Accepted) :
    ∃ next, step.value b = .ok next ∧ b.Follows step next := by
  cases step with
  | add g =>
    obtain ⟨s, hs, hrep⟩ := GivenShape.Accepted.exists_represents hstep
    exact ⟨_, except_bind_eq_ok_iff.2 ⟨s, hs, addAny_eq_add hb hrep⟩, follows_add hb hrep⟩
  | remove g =>
    obtain ⟨s, hs, hrep⟩ := GivenShape.Accepted.exists_represents hstep
    exact ⟨_, except_bind_eq_ok_iff.2 ⟨s, hs, rfl⟩, follows_remove hb hrep⟩
  | longest suit => exact ⟨_, rfl, follows_longest suit⟩
  | points lo hi => exact ⟨_, rfl, follows_points hb lo hi⟩

/-- A step in front of others does not change what they come to. -/
theorem Follows.selectedFrom_iff {next : HandTypeBuilder} (h : b.Follows step next)
    (hl : l.IsOfHand) : next.SelectedFrom steps l ↔ b.SelectedFrom (step :: steps) l := by
  rw [SelectedFrom, SelectedFrom, settled_cons, List.forall_mem_cons, h.stands_iff steps l hl]
  tauto

/-! ## All steps -/

/-- **The builder after some steps.** -/
def runAll (b : HandTypeBuilder) (steps : List Step) : Caching HandTypeBuilder :=
  steps.foldlM Step.run b

theorem computes_runAll (b : HandTypeBuilder) (steps : List Step) :
    Caching.Computes (b.runAll steps) (steps.foldlM Step.value b) := by
  induction steps generalizing b with
  | nil => exact .lift (.ok b)
  | cons step steps ih =>
    rw [runAll, List.foldlM_cons, List.foldlM_cons]
    exact (step.computes_run b).bind ih

/-- **Accepted steps are carried out, and what is built lists the distributions that they select.**
The induction goes on with the builder that the first step leaves. -/
theorem exists_foldlM_value (hb : b.IsSound) (hsteps : ∀ step ∈ steps, step.Accepted) :
    ∃ last, steps.foldlM Step.value b = .ok last ∧
      (∀ l, l.IsOfHand → (l ∈ (last.shape.getD .all).members ↔ b.SelectedFrom steps l)) ∧
      last.points = (steps.filterMap Step.range?).getLast?.or b.points := by
  induction steps generalizing b with
  | nil =>
    refine ⟨b, rfl, fun l hl => ?_, rfl⟩
    have hstands : l ∈ (b.shape.getD .all).members ↔ b.Stands [] l := mem_getD_all hl trivial
    rw [hstands, SelectedFrom, or_iff_right not_settled_nil]
    exact (and_iff_right fun _ h => absurd h List.not_mem_nil).symm
  | cons step steps ih =>
    obtain ⟨hstep, hsteps⟩ := List.forall_mem_cons.1 hsteps
    obtain ⟨next, hnext, hfollows⟩ := exists_follows hb hstep
    obtain ⟨last, hlast, hmem, hpoints⟩ := ih hfollows.isSound hsteps
    refine ⟨last, ?_, fun l hl => (hmem l hl).trans (hfollows.selectedFrom_iff hl), ?_⟩
    · rw [List.foldlM_cons]
      exact except_bind_eq_ok_iff.2 ⟨next, hnext, hlast⟩
    · rw [hpoints, hfollows.points_eq, List.filterMap_cons]
      cases step.range? with
      | none => rfl
      | some r =>
        rw [List.getLast?_cons]
        cases (steps.filterMap Step.range?).getLast? <;> rfl

/-- **What a built type accepts.** A builder whose steps have accepted shapes, by whatever cache, can
be built, and the type has an answer for every hand of thirteen deck cards. It accepts the hand
exactly if the points of the hand lie in the last range that was set, and the steps select its
distribution: the last step that has something to say about it puts it in, or none has and the steps
do not begin by putting something in. -/
theorem build_accepts_iff {c : ShapeCache} (hc : c.Reached)
    (hsteps : ∀ step ∈ steps, step.Accepted) :
    ∃ b, (runAll .new steps c).1 = .ok b ∧
      ∀ hand : Hand, hand.cards.subset .deck = true → hand.cards.size = handSize →
        ∃ accepted, b.build.accepts hand.cards = .ok accepted ∧
          (accepted = true ↔
            ((lastRange steps).lo ≤ hand.points ∧ hand.points ≤ (lastRange steps).hi) ∧
              Selected steps hand.cards.suitLengths) := by
  obtain ⟨b, hb, hmem, hpoints⟩ := exists_foldlM_value isSound_new hsteps
  refine ⟨b, (computes_runAll .new steps c hc).1.trans hb, fun hand hdeck hsize => ?_⟩
  have hhand := SuitLengths.isOfHand_suitLengths hdeck hsize
  have hrange : b.points.getD .full = lastRange steps := by
    rw [hpoints, new, Option.or_none]
    rfl
  refine ⟨decide (hand.cards.suitLengths ∈ (b.shape.getD .all).members) &&
    (lastRange steps).contains hand.points, ?_, ?_⟩
  · rw [HandType.accepts, build, HandType.new, hrange]
    exact except_bind_eq_ok_iff.2 ⟨_, Shape.includes_eq_mem _ hdeck, rfl⟩
  · rw [Bool.and_eq_true, decide_eq_true_iff, hmem _ hhand, PointRange.contains_iff, and_comm]
    rfl

/-- At a builder that is emptied and then given a shape: it accepts a hand of that shape with few
points, and not thirteen spades. -/
theorem build_accepts_emptied :
    ∃ b, (runAll .new [.remove (.shape .all), .add (.pattern "(4333)"), .points (-5) 12]
        .new).1 = .ok b ∧
      b.build.accepts ⟨0x001c001c001c003c⟩ = .ok true ∧
      b.build.accepts (CardSet.suitCards .spades) = .ok false := by
  have hparse : Pattern.parse "(4333)" = .ok [.group ([4, 3, 3, 3].map .exactly)] :=
    Pattern.parse_eq_of_decide (by decide +kernel)
  have hmatched : Shape.matched "(4333)" = {l | l.toList.Perm [4, 3, 3, 3]} :=
    Shape.matched_of_parse hparse (by decide) (by decide)
  have hsteps : ∀ step ∈ [Step.remove (.shape .all), .add (.pattern "(4333)"), .points (-5) 12],
      step.Accepted := by
    simp only [List.forall_mem_cons, List.not_mem_nil, false_imp_iff, implies_true, and_true]
    exact ⟨⟨.all, .new, .new, rfl⟩, ⟨_, hparse⟩, trivial⟩
  have hselected : ∀ l : SuitLengths, l.IsOfHand →
      (Selected [.remove (.shape .all), .add (.pattern "(4333)"), .points (-5) 12] l ↔
        l.toList.Perm [4, 3, 3, 3]) := by
    intro l hl
    simp [Selected, settled_cons, not_settled_nil, Step.Decides, Step.Selects, Step.Excludes,
      GivenShape.meaning, hmatched, Shape.mem_all, hl]
  obtain ⟨b, hb, hhands⟩ := build_accepts_iff .new hsteps
  obtain ⟨flat, hflat, hflatIff⟩ := hhands ⟨⟨0x001c001c001c003c⟩⟩ (by decide) (by decide)
  obtain ⟨long, hlong, hlongIff⟩ := hhands ⟨.suitCards .spades⟩ (by decide) (by decide)
  refine ⟨b, hb, ?_, ?_⟩
  · rw [hflat, hflatIff.2 ⟨by decide, (hselected _ (by decide)).2 (by decide)⟩]
  · have hout : ¬ long = true := fun h =>
      absurd ((hselected _ (by decide)).1 (hlongIff.1 h).2) (by decide)
    rw [hlong, Bool.eq_false_iff.2 hout]

end HandTypeBuilder

end ContractBridge
