/-
The calls of a search.

A search goes on by calls of itself, from states in which it has taken a pattern off the queue, put
an ordering before it or set free cards aside. `Makes` lists the calls that a call makes, each with
the state that it finds: what the calls before it did to that state is part of it. That none is left
out is `explore_succ_congr`: of all the rest of the recursion a call sees only what these leave.

Two things are handed down from a call to those it makes. Its bound on the calls inside it lasts
through its queue (`Makes.lasts`), so that no bound ever cuts a search short, and it begins with fewer
than four lengths (`Makes.length_lt`), so that no search goes on behind a whole distribution. As
every call restores the queue and the free cards (`explore_restores`), a run ends in the state in
which it began, and the next one is the same.
-/
import Mathlib.Logic.Relation
import ContractBridge.Proofs.Pattern.Expansion

set_option autoImplicit false

namespace ContractBridge

/-- The folds of two functions agree if the functions do on every element, taken from where the
first fold has come to by then. -/
theorem foldl_congr_of_append {α β : Type} {f g : α → β → α} {bs : List β} {a : α}
    (h : ∀ earlier b later, bs = earlier ++ b :: later →
      f (earlier.foldl f a) b = g (earlier.foldl f a) b) : bs.foldl f a = bs.foldl g a := by
  induction bs generalizing a with
  | nil => rfl
  | cons b bs ih =>
    have hfirst : f a b = g a b := h [] b bs rfl
    rw [List.foldl_cons, List.foldl_cons, ← hfirst]
    exact ih fun earlier c later hbs => h (b :: earlier) c later (congrArg (b :: ·) hbs)

namespace Expansion

variable {s : Expansion} {fuel more : Nat} {lengths : List Int}

/-! ## Loops -/

/-- What is done with the orderings of a loop depends on the visits that it makes. -/
theorem splice_congr {visit other : Expansion → Expansion} {orders : List (List SuitPattern)}
    (h : ∀ earlier order later, orders = earlier ++ order :: later → ∀ t,
      t = splice visit earlier s →
        visit { t with queue := order.map .suit ++ t.queue } =
          other { t with queue := order.map .suit ++ t.queue }) :
    splice visit orders s = splice other orders s :=
  foldl_congr_of_append fun earlier order later horders =>
    congrArg (fun t : Expansion => { t with queue := t.queue.drop order.length })
      (h earlier order later horders (splice visit earlier s) rfl)

/-- What is done with the free cards of a loop depends on the visits that it makes. -/
theorem share_congr {visit other : Expansion → Int → Expansion} {counts : List Int}
    (h : ∀ earlier k later, counts = earlier ++ k :: later → ∀ t, t = share visit earlier s →
      visit { t with free := s.free - k } k = other { t with free := s.free - k } k) :
    share visit counts s = share other counts s := by
  have hfold : counts.foldl (fun t k => visit { t with free := s.free - k } k) s =
      counts.foldl (fun t k => other { t with free := s.free - k } k) s :=
    foldl_congr_of_append fun earlier k later hcounts =>
      h earlier k later hcounts (share visit earlier s) rfl
  rw [share, share, hfold]

/-! ## Calls -/

/-- **A call of the search.** -/
structure Call where
  /-- How many calls may follow, one inside the other. -/
  fuel : Nat
  /-- The lengths that the call begins with. -/
  lengths : List Int
  /-- The state that the call finds. -/
  before : Expansion

namespace Call

variable {c d : Call}

/-- The state that a call leaves. -/
def after (c : Call) : Expansion := explore c.fuel c.lengths c.before

/-- **The calls that a call makes:** one for each ordering that it puts before the queue, one for
each number of free cards that it sets aside, and one for an exact length. Each finds the state that
those before it left. -/
inductive Makes : Call → Call → Prop
  | group {fuel : Nat} {lengths : List Int} {s t : Expansion} {queue : List Pattern}
      {members order : List SuitPattern} {earlier later : List (List SuitPattern)}
      (hlen : lengths.length ≠ 3) (hqueue : s.queue = .group members :: queue)
      (horders : orderings members = earlier ++ order :: later)
      (ht : t = splice (explore fuel lengths) earlier { s with queue := queue }) :
      Makes ⟨fuel + 1, lengths, s⟩
        ⟨fuel, lengths, { t with queue := order.map .suit ++ t.queue }⟩
  | atLeast {fuel : Nat} {lengths : List Int} {s t : Expansion} {queue : List Pattern}
      {n k : Int} {earlier later : List Int}
      (hlen : lengths.length ≠ 3) (hqueue : s.queue = .suit ⟨n, .atLeast⟩ :: queue)
      (hcounts : upTo s.free = earlier ++ k :: later)
      (ht : t = share (fun u j => explore fuel (lengths ++ [n + j]) u) earlier
        { s with queue := queue }) :
      Makes ⟨fuel + 1, lengths, s⟩ ⟨fuel, lengths ++ [n + k], { t with free := s.free - k }⟩
  | atMost {fuel : Nat} {lengths : List Int} {s t : Expansion} {queue : List Pattern}
      {n k : Int} {earlier later : List Int}
      (hlen : lengths.length ≠ 3) (hqueue : s.queue = .suit ⟨n, .atMost⟩ :: queue)
      (hcounts : upTo (min s.free n) = earlier ++ k :: later)
      (ht : t = share (fun u j => explore fuel (lengths ++ [j]) u) earlier
        { s with queue := queue }) :
      Makes ⟨fuel + 1, lengths, s⟩ ⟨fuel, lengths ++ [k], { t with free := s.free - k }⟩
  | exact {fuel : Nat} {lengths : List Int} {s : Expansion} {queue : List Pattern} {n : Int}
      (hlen : lengths.length ≠ 3) (hqueue : s.queue = .suit ⟨n, .exact⟩ :: queue) :
      Makes ⟨fuel + 1, lengths, s⟩ ⟨fuel, lengths ++ [n], { s with queue := queue }⟩

/-- **A call sees nothing of the recursion but what the calls that it makes leave.** -/
theorem explore_succ_congr
    (h : ∀ d, Makes ⟨fuel + 1, lengths, s⟩ d → explore more d.lengths d.before = d.after) :
    explore (more + 1) lengths s = explore (fuel + 1) lengths s := by
  cases hqueue : s.queue with
  | nil => rw [explore_of_queue_nil hqueue, explore_of_queue_nil hqueue]
  | cons p queue =>
    by_cases hlen : lengths.length = 3
    · obtain ⟨spades, hearts, diamonds, rfl⟩ := List.length_eq_three.1 hlen
      rw [explore_three hqueue, explore_three hqueue]
    · match p with
      | .group members =>
        have hloop : splice (explore fuel lengths) (orderings members) { s with queue := queue } =
            splice (explore more lengths) (orderings members) { s with queue := queue } :=
          splice_congr fun _ _ _ horders _ ht => (h _ (.group hlen hqueue horders ht)).symm
        rw [explore_group hlen hqueue, explore_group hlen hqueue, hloop]
      | .suit ⟨n, .atLeast⟩ =>
        have hloop : share (fun t k => explore fuel (lengths ++ [n + k]) t) (upTo s.free)
              { s with queue := queue } =
            share (fun t k => explore more (lengths ++ [n + k]) t) (upTo s.free)
              { s with queue := queue } :=
          share_congr fun _ _ _ hcounts _ ht => (h _ (.atLeast hlen hqueue hcounts ht)).symm
        rw [explore_atLeast hlen hqueue, explore_atLeast hlen hqueue, hloop]
      | .suit ⟨n, .atMost⟩ =>
        have hloop : share (fun t k => explore fuel (lengths ++ [k]) t) (upTo (min s.free n))
              { s with queue := queue } =
            share (fun t k => explore more (lengths ++ [k]) t) (upTo (min s.free n))
              { s with queue := queue } :=
          share_congr fun _ _ _ hcounts _ ht => (h _ (.atMost hlen hqueue hcounts ht)).symm
        rw [explore_atMost hlen hqueue, explore_atMost hlen hqueue, hloop]
      | .suit ⟨n, .exact⟩ =>
        have hnext : explore more (lengths ++ [n]) { s with queue := queue } =
            explore fuel (lengths ++ [n]) { s with queue := queue } := h _ (.exact hlen hqueue)
        rw [explore_exact hlen hqueue, explore_exact hlen hqueue, hnext]

/-! ## What is handed down -/

/-- **Whether the bound on the calls lasts through the queue.** -/
def Lasts (c : Call) : Prop := depth c.before.queue < c.fuel

/-- What a call has to go through is less than what was before the call that makes it. -/
theorem Makes.lasts (h : Makes c d) (hc : c.Lasts) : d.Lasts := by
  cases h with
  | @group fuel lengths s t queue members order earlier later hlen hqueue horders ht =>
    -- the ordering has as many members as the group, and it has gone in and out of the queue
    have hperm : order.Perm members := by
      rw [← mem_orderings, horders]
      exact List.mem_append_right _ List.mem_cons_self
    have hback : t.queue = queue := by
      rw [ht]
      exact (splice_restores (explore_restores fuel lengths) _ _).1
    simp only [Lasts, hqueue, depth_group] at hc
    simp only [Lasts, hback, depth_map_suit_append, hperm.length_eq]
    omega
  | @atLeast fuel lengths s t queue n k earlier later hlen hqueue hcounts ht
  | @atMost fuel lengths s t queue n k earlier later hlen hqueue hcounts ht =>
    have hback : t.queue = queue := by
      rw [ht]
      exact queue_share (fun u j => (explore_restores fuel _ u).1) _ _
    simp only [Lasts, hqueue, depth_suit] at hc
    simp only [Lasts, hback]
    omega
  | exact hlen hqueue =>
    simp only [Lasts, hqueue, depth_suit] at hc
    simp only [Lasts]
    omega

/-- A length is added to three at most. -/
theorem Makes.length_lt (h : Makes c d) (hc : c.lengths.length < 4) : d.lengths.length < 4 := by
  cases h with
  | group => exact hc
  | atLeast hlen | atMost hlen | exact hlen =>
    simp only [List.length_append, List.length_singleton] at hc ⊢
    omega

/-- **A bound on the calls that lasts makes no difference:** a higher one leaves the same state. -/
theorem explore_eq_after (hc : c.Lasts) (hfuel : c.fuel ≤ fuel) :
    explore fuel c.lengths c.before = c.after := by
  induction fuel generalizing c with
  | zero => exact absurd (Nat.lt_of_lt_of_le hc hfuel) (Nat.not_lt_zero _)
  | succ more ih =>
    obtain ⟨fuel, lengths, s⟩ := c
    cases fuel with
    | zero => exact absurd hc (Nat.not_lt_zero _)
    | succ fuel =>
      refine explore_succ_congr fun d hd => ih (hd.lasts hc) ?_
      have hnext : d.fuel = fuel := by cases hd <;> rfl
      rw [hnext]
      exact Nat.le_of_succ_le_succ hfuel

/-! ## The calls of a run -/

/-- The call that a run begins with. -/
def ofRun (s : Expansion) : Call := ⟨depth s.queue + 1, [], { s with found := [] }⟩

/-- **Whether a call is made in a run:** it is the one that the run begins with, or one that such a
call makes. -/
def IsMade (s : Expansion) (c : Call) : Prop := Relation.ReflTransGen Makes (ofRun s) c

theorem IsMade.lasts (h : IsMade s c) : c.Lasts := by
  induction h with
  | refl => exact Nat.lt_succ_self _
  | tail _ hmakes ih => exact hmakes.lasts ih

theorem IsMade.length_lt (h : IsMade s c) : c.lengths.length < 4 := by
  induction h with
  | refl => exact Nat.zero_lt_succ 3
  | tail _ hmakes ih => exact hmakes.length_lt ih

end Call

/-! ## Runs one after the other -/

/-- A run leaves the queue and the free cards as they were. -/
theorem run_restores (s : Expansion) : s.run.2.queue = s.queue ∧ s.run.2.free = s.free :=
  explore_restores _ [] { s with found := [] }

/-- What was found before a run has no part in it. -/
theorem run_congr {t : Expansion} (hqueue : s.queue = t.queue) (hfree : s.free = t.free) :
    s.run = t.run := by
  obtain ⟨queue, free, found⟩ := s
  cases hqueue
  cases hfree
  rfl

/-- The expansion of some patterns after a number of runs. -/
def afterRuns (ps : List Pattern) : Nat → Expansion
  | 0 => start ps
  | n + 1 => (afterRuns ps n).run.2

theorem afterRuns_restores (ps : List Pattern) (n : Nat) :
    (afterRuns ps n).queue = (start ps).queue ∧ (afterRuns ps n).free = (start ps).free := by
  induction n with
  | zero => exact ⟨rfl, rfl⟩
  | succ n ih =>
    obtain ⟨hqueue, hfree⟩ := run_restores (afterRuns ps n)
    exact ⟨hqueue.trans ih.1, hfree.trans ih.2⟩

/-- **Every call of a search puts back what it took, and so the search can be run again.** For any
patterns, and after any number of runs: each call that a run makes leaves the queue and the number of
free cards as it found them. It is never cut short by the bound on its calls, and it never begins
with four lengths. The run gives the list of distributions that the first one gave. -/
theorem afterRuns_agree (ps : List Pattern) (n : Nat) :
    (∀ c, Call.IsMade (afterRuns ps n) c →
      (c.after.queue = c.before.queue ∧ c.after.free = c.before.free) ∧
        (∀ fuel, c.fuel ≤ fuel → explore fuel c.lengths c.before = c.after) ∧
        c.lengths.length < 4) ∧
      ((afterRuns ps n).queue = ps ∧ (afterRuns ps n).free = handSize - Pattern.fixedMinimum ps) ∧
      (afterRuns ps n).run.1 = Pattern.distributions ps := by
  have hstart := afterRuns_restores ps n
  refine ⟨fun c hc => ⟨?_, fun _ => Call.explore_eq_after hc.lasts, hc.length_lt⟩, hstart, ?_⟩
  · exact explore_restores c.fuel c.lengths c.before
  · rw [Pattern.distributions, run_congr hstart.1 hstart.2]

/-- Four cards and three or more in some order, then any number and two at most. -/
def groupAndRest : List Pattern :=
  [.group [.exactly 4, .atLeast 3], .suit .joker, .suit (.atMost 2)]

/-- At the second ordering of a group, in a second run. -/
theorem afterRuns_agree_secondOrdering :
    ∃ c, Call.IsMade (afterRuns groupAndRest 1) c ∧
      (c.before.queue = [.suit (.atLeast 3), .suit (.exactly 4), .suit .joker, .suit (.atMost 2)] ∧
        c.after.queue = c.before.queue) ∧
      (c.before.free = 6 ∧ c.after.free = 6) ∧
      explore 100 c.lengths c.before = c.after ∧
      (afterRuns groupAndRest 1).run.1 = Pattern.distributions groupAndRest := by
  obtain ⟨hcalls, ⟨hqueue, hfree⟩, hruns⟩ := afterRuns_agree groupAndRest 1
  -- the state is known by its queue and its free cards, no run has to be carried out
  generalize afterRuns groupAndRest 1 = s at hcalls hqueue hfree hruns ⊢
  have horders : orderings [SuitPattern.exactly 4, .atLeast 3] =
      [[.exactly 4, .atLeast 3]] ++ [.atLeast 3, .exactly 4] :: [] := by decide
  have hmade : Call.IsMade s _ := .single (.group (by decide) hqueue horders rfl)
  obtain ⟨⟨hback, hkept⟩, hends, -⟩ := hcalls _ hmade
  obtain ⟨hqueue', hfree'⟩ := splice_restores (explore_restores (depth s.queue) [])
    [[.exactly 4, .atLeast 3]] { s with queue := groupAndRest.tail, found := [] }
  have hsix : (splice (explore (depth s.queue) []) [[.exactly 4, .atLeast 3]]
      { s with queue := groupAndRest.tail, found := [] }).free = 6 :=
    hfree'.trans (hfree.trans (by decide))
  have hdepth : depth s.queue ≤ 100 := by
    rw [hqueue]
    decide
  exact ⟨_, hmade, ⟨congrArg (_ ++ ·) hqueue', hback⟩, ⟨hsix, hkept.trans hsix⟩,
    hends 100 hdepth, hruns⟩

end Expansion

end ContractBridge
