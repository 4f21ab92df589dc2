/-
Building the shapes of sets.

Each way to build a shape has a set of distributions that it is meant for, and the law of each is
that what a shape of that set has to be (`Represents`: the members of the set, hands'
distributions all of them, within bounds that are attained) is what comes out. A way that can
fail is described by the condition under which it does not (`Builds`), and the laws of longer
constructions are put together from those of their parts by `Builds.bind`.
-/
import ContractBridge.Proofs.Shape.Bounds
import ContractBridge.Proofs.Shape.Rows

set_option autoImplicit false

namespace ContractBridge

/-! ## Shapes of sets -/

namespace Shape

variable {s t : Shape} {A B C : Set SuitLengths} {l : SuitLengths} {P Q : Prop}
  {r : Except Error Shape} {text : String} {lengths : List Int}

/-- **What the shape of a set of distributions is.** -/
structure Represents (s : Shape) (A : Set SuitLengths) : Prop where
  mem_iff : ∀ l, l ∈ s.members ↔ l ∈ A
  isOfHand : ∀ l ∈ s.members, l.IsOfHand
  tight : s.HasTightBounds

theorem represents_ofTable {table : BitVec tableSize}
    (hmem : ∀ l, l ∈ (ofTable table).members ↔ l ∈ A) (hhand : ∀ l ∈ A, l.IsOfHand) :
    (ofTable table).Represents A :=
  ⟨hmem, fun l hl => hhand l ((hmem l).1 hl), hasTightBounds_ofTable table⟩

/-- A shape of some distributions is the shape of those that it lists. -/
theorem Represents.ofMembers (hs : s.Represents A) : s.Represents {l | l ∈ s.members} :=
  ⟨fun _ => Iff.rfl, hs.isOfHand, hs.tight⟩

theorem Represents.union (hs : s.Represents A) (ht : t.Represents B) :
    (s ∪ t).Represents (A ∪ B) := by
  refine ⟨fun l => ?_, fun l hl => ?_, hs.tight.union ht.tight⟩
  · rw [mem_union, hs.mem_iff, ht.mem_iff, Set.mem_union]
  · exact (mem_union.1 hl).elim (hs.isOfHand l) (ht.isOfHand l)

theorem Represents.diff (hs : s.Represents A) (ht : t.Represents B) :
    (s \ t).Represents (A \ B) := by
  refine represents_ofTable (fun l => ?_) fun l hl => hs.isOfHand l ((hs.mem_iff l).2 hl.1)
  show l ∈ (s \ t).members ↔ _
  rw [mem_diff, hs.mem_iff, ht.mem_iff, Set.mem_sdiff]

theorem Represents.inter (hs : s.Represents A) (ht : t.Represents B) :
    (s ∩ t).Represents (A ∩ B) := by
  refine represents_ofTable (fun l => ?_) fun l hl => hs.isOfHand l ((hs.mem_iff l).2 hl.1)
  show l ∈ (s ∩ t).members ↔ _
  rw [mem_inter, hs.mem_iff, ht.mem_iff, Set.mem_inter_iff]

/-! ## Ways to build a shape -/

/-- **A way to build the shape of a set,** which works out if a condition holds. -/
structure Builds (r : Except Error Shape) (P : Prop) (A : Set SuitLengths) : Prop where
  isOk_iff : (∃ s, r = .ok s) ↔ P
  represents : ∀ s, r = .ok s → s.Represents A

theorem Builds.of_represents (hs : s.Represents A) : Builds (.ok s) True A :=
  ⟨⟨fun _ => trivial, fun _ => ⟨s, rfl⟩⟩, fun _ h => Except.ok.inj h ▸ hs⟩

/-- Building with a shape that is built before. -/
theorem Builds.bind {f : Shape → Except Error Shape} (hr : Builds r P A)
    (hf : ∀ s, s.Represents A → Builds (f s) Q C) : Builds (r >>= f) (P ∧ Q) C := by
  refine ⟨⟨?_, ?_⟩, fun u h => ?_⟩
  · rintro ⟨u, h⟩
    obtain ⟨s, hs, hu⟩ := except_bind_eq_ok_iff.1 h
    exact ⟨hr.isOk_iff.1 ⟨s, hs⟩, (hf s (hr.represents s hs)).isOk_iff.1 ⟨u, hu⟩⟩
  · rintro ⟨hP, hQ⟩
    obtain ⟨s, hs⟩ := hr.isOk_iff.2 hP
    obtain ⟨u, hu⟩ := (hf s (hr.represents s hs)).isOk_iff.2 hQ
    exact ⟨u, except_bind_eq_ok_iff.2 ⟨s, hs, hu⟩⟩
  · obtain ⟨s, hs, hu⟩ := except_bind_eq_ok_iff.1 h
    exact (hf s (hr.represents s hs)).represents u hu

theorem Builds.congr (hr : Builds r P A) (hP : P ↔ Q) (hA : A = B) : Builds r Q B := by
  subst hA
  exact ⟨hr.isOk_iff.trans hP, hr.represents⟩

/-- Building from a shape that is built before, in a way that cannot fail. -/
theorem Builds.map {f : Shape → Except Error Shape} (hr : Builds r P A)
    (hf : ∀ s, s.Represents A → Builds (f s) True C) : Builds (r >>= f) P C :=
  (hr.bind hf).congr (and_iff_left trivial) rfl

/-- Building the shape of something that is found first. -/
theorem Builds.of_eq_ok_iff {β : Type} {found : β → Prop} {make : β → Shape}
    (h : ∀ s, r = .ok s ↔ ∃ b, found b ∧ make b = s)
    (hmake : ∀ b, found b → (make b).Represents A) : Builds r (∃ b, found b) A := by
  refine ⟨⟨?_, ?_⟩, fun s hs => ?_⟩
  · rintro ⟨s, hs⟩
    obtain ⟨b, hb, -⟩ := (h s).1 hs
    exact ⟨b, hb⟩
  · rintro ⟨b, hb⟩
    exact ⟨_, (h _).2 ⟨b, hb, rfl⟩⟩
  · obtain ⟨b, hb, rfl⟩ := (h s).1 hs
    exact hmake b hb

/-! ## Named shapes -/

theorem represents_all : all.Represents {l | l.IsOfHand} :=
  represents_ofTable (fun _ => mem_all) fun _ hl => hl

theorem represents_empty : (∅ : Shape).Represents ∅ :=
  represents_ofTable (fun _ => iff_of_false not_mem_empty (Set.notMem_empty _))
    fun _ hl => absurd hl (Set.notMem_empty _)

/-- The distributions of hands that a written pattern matches. -/
def matched (text : String) : Set SuitLengths :=
  {l | l.IsOfHand ∧ ∃ ps, Pattern.parse text = .ok ps ∧ Pattern.Matches ps l}

theorem builds_ofPattern (text : String) :
    Builds (ofPattern text) (∃ ps, Pattern.parse text = .ok ps) (matched text) := by
  refine .of_eq_ok_iff (fun s => except_bind_pure_eq_ok_iff) fun ps hps => ?_
  refine represents_ofTable (fun l => ?_) fun l hl => hl.1
  show l ∈ (matching ps).members ↔ _
  rw [mem_matching (Pattern.isProper_of_parse hps)]
  constructor
  · rintro ⟨hhand, hl⟩
    exact ⟨hhand, ps, hps, hl⟩
  · rintro ⟨hhand, qs, hqs, hl⟩
    rw [hps, Except.ok.injEq] at hqs
    exact ⟨hhand, hqs ▸ hl⟩

/-- The shape of a pattern that can be read. -/
theorem ofPattern_of_parse {ps : List Pattern} (hparse : Pattern.parse text = .ok ps) :
    ofPattern text = .ok (matching ps) ∧ (matching ps).Represents (matched text) := by
  have hshape : ofPattern text = .ok (matching ps) :=
    except_bind_eq_ok_iff.2 ⟨ps, hparse, rfl⟩
  exact ⟨hshape, (builds_ofPattern text).represents _ hshape⟩

/-- Several patterns build the shape of what any of them matches. -/
theorem builds_ofPatterns (texts : List String) :
    Builds (ofPatterns texts) (∀ text ∈ texts, ∃ ps, Pattern.parse text = .ok ps)
      {l | ∃ text ∈ texts, l ∈ matched text} := by
  -- the shapes that are done are carried along
  have hrun : ∀ {s A}, s.Represents A →
      Builds (do return (← texts.mapM ofPattern).foldl (· ∪ ·) s)
        (∀ text ∈ texts, ∃ ps, Pattern.parse text = .ok ps)
        (A ∪ {l | ∃ text ∈ texts, l ∈ matched text}) := by
    induction texts with
    | nil =>
      intro s A hs
      exact (Builds.of_represents hs).congr (by simp) (by simp)
    | cons text texts ih =>
      intro s A hs
      have hstep : (do return (← (text :: texts).mapM ofPattern).foldl (· ∪ ·) s) =
          (do let t ← ofPattern text
              return (← texts.mapM ofPattern).foldl (· ∪ ·) (s ∪ t) : Except Error Shape) := by
        rw [List.mapM_cons]
        rcases ofPattern text with _ | _ <;> rcases texts.mapM ofPattern with _ | _ <;> rfl
      rw [hstep]
      refine ((builds_ofPattern text).bind fun t ht => ih (hs.union ht)).congr ?_ ?_
      · rw [List.forall_mem_cons]
      · ext l
        simp only [Set.mem_union, Set.mem_ofPred_eq, List.exists_mem_cons_iff, or_assoc]
  exact (hrun represents_empty).congr Iff.rfl (Set.empty_union _)

/-- Patterns that can be read build the union of their shapes, from the first one on. -/
theorem ofPatterns_of_parse {texts : List String} {pss : List (List Pattern)}
    (h : List.Forall₂ (fun text ps => Pattern.parse text = .ok ps) texts pss) :
    ofPatterns texts = .ok ((pss.map matching).foldl (· ∪ ·) ∅) := by
  have hshapes : texts.mapM ofPattern = .ok (pss.map matching) := by
    induction h with
    | nil => rfl
    | cons hparse _ ih =>
      rw [List.mapM_cons, ih, (ofPattern_of_parse hparse).1]
      rfl
  rw [ofPatterns, hshapes]
  rfl

theorem builds_ofRows (v : Literal) :
    Builds (ofRows v) (∃ numbers, Lists v numbers)
      {l | ∃ numbers, HasNumbers v numbers ∧ StandsIn l numbers} := by
  refine .of_eq_ok_iff (fun s => ofRows_eq_ok_iff) fun numbers hnumbers => ?_
  have h := ofRows_eq_ok_iff.2 ⟨numbers, hnumbers, rfl⟩
  exact ⟨fun l => mem_ofRows h, fun l => isOfHand_of_mem_ofRows h, hasTightBounds_ofTable _⟩

theorem builds_ofRanges (ranges : List LengthRange) :
    Builds (ofRanges ranges) (ranges.length = 4)
      {l | l.IsOfHand ∧ List.Forall₂ (fun r n => r.lo ≤ n ∧ n ≤ r.hi) ranges l.toList} := by
  by_cases hfour : ranges.length = 4
  · have hmem := fun l => mem_ofRanges (l := l) (if_pos hfour)
    rw [ofRanges, if_pos hfour]
    exact (Builds.of_represents (represents_ofTable hmem fun l hl => hl.1)).congr
      (iff_of_true trivial hfour) rfl
  · rw [ofRanges, if_neg hfour]
    refine ⟨iff_of_false ?_ hfour, fun s h => ?_⟩
    · rintro ⟨s, h⟩
      cases h
    · cases h

theorem builds_withLongestNumber (k : Int) :
    Builds (withLongestNumber k) (-4 ≤ k ∧ k < 4)
      {l | l.IsOfHand ∧ ∃ suit : Suit, suit.HasNumber k ∧ 5 ≤ l.get suit ∧
        ∀ other, l.get other ≤ l.get suit} := by
  refine (Builds.of_eq_ok_iff (fun s => except_bind_pure_eq_ok_iff) fun suit hsuit => ?_).congr
    ((exists_congr fun suit => entry_all_eq_ok_iff).trans Suit.exists_hasNumber_iff) rfl
  refine represents_ofTable (fun l => ?_) fun l hl => hl.1
  show l ∈ (withLongest suit).members ↔ _
  rw [entry_all_eq_ok_iff] at hsuit
  rw [mem_withLongest]
  constructor
  · rintro ⟨hhand, hl⟩
    exact ⟨hhand, suit, hsuit, hl⟩
  · rintro ⟨hhand, other, hother, hl⟩
    exact ⟨hhand, hsuit.unique hother ▸ hl⟩

/-! ## Balanced distributions -/

/-- A group of four exact lengths matches these lengths in any order. -/
theorem matches_group_iff :
    Pattern.Matches [.group (lengths.map .exactly)] l ↔ l.toList.Perm lengths := by
  have hinj : Function.Injective SuitPattern.exactly := fun a b h => congrArg SuitPattern.length h
  constructor
  · rintro ⟨s, h, d, c, hrow, hs, hh, hd, hc⟩
    obtain ⟨order, rest, hperm, heq, hrest⟩ := Pattern.rows_group_iff.1 hrow
    rw [Pattern.rows_nil_iff.1 hrest, List.append_nil] at heq
    subst heq
    -- every member of the group is exact, so it is the length that it takes
    have hexact : ∀ {p : SuitPattern} {n : Int}, p ∈ [s, h, d, c] → p.contains n = true →
        p = .exactly n := by
      intro p n hp hn
      obtain ⟨k, -, rfl⟩ := List.mem_map.1 (hperm.mem_iff.1 hp)
      rw [(SuitPattern.contains_exact k n).1 hn]
    rw [hexact (by simp) hs, hexact (by simp) hh, hexact (by simp) hd, hexact (by simp) hc]
      at hperm
    exact (List.map_perm_map_iff hinj).1 hperm
  · intro hperm
    refine ⟨.exactly l.spades, .exactly l.hearts, .exactly l.diamonds, .exactly l.clubs,
      Pattern.rows_group_iff.2 ⟨_, [], hperm.map _, rfl, .nil⟩, ?_, ?_, ?_, ?_⟩
    all_goals exact (SuitPattern.contains_exact _ _).2 rfl

/-- Lengths of thirteen cards are a distribution of a hand in any order. -/
theorem isOfHand_of_perm (hpos : ∀ n ∈ lengths, 0 ≤ n) (htotal : total lengths = handSize)
    (hperm : l.toList.Perm lengths) : l.IsOfHand := by
  refine SuitLengths.isOfHand_iff.2 ⟨fun n hn => hpos n (hperm.mem_iff.1 hn), ?_⟩
  rw [← htotal, ← total_eq_of_perm hperm]
  simp only [SuitLengths.total, SuitLengths.toList, total_cons, total_nil]
  omega

/-- What a written group of four lengths of thirteen cards matches. -/
theorem matched_of_parse (hparse : Pattern.parse text = .ok [.group (lengths.map .exactly)])
    (hpos : ∀ n ∈ lengths, 0 ≤ n) (htotal : total lengths = handSize) :
    matched text = {l | l.toList.Perm lengths} := by
  ext l
  simp only [matched, Set.mem_ofPred_eq, hparse, Except.ok.injEq, exists_eq_left',
    matches_group_iff]
  exact and_iff_right_of_imp (isOfHand_of_perm hpos htotal)

/-- The balanced distributions: one of three choices of lengths in any order. -/
theorem builds_balanced :
    Builds (ofPatterns balancedPatterns) True
      {l | ∃ lengths ∈ [[4, 3, 3, 3], [4, 4, 3, 2], [5, 3, 3, 2]], l.toList.Perm lengths} := by
  have h4333 : Pattern.parse "(4333)" = .ok [.group ([4, 3, 3, 3].map .exactly)] :=
    Pattern.parse_eq_of_decide (by decide +kernel)
  have h4432 : Pattern.parse "(4432)" = .ok [.group ([4, 4, 3, 2].map .exactly)] :=
    Pattern.parse_eq_of_decide (by decide +kernel)
  have h5332 : Pattern.parse "(5332)" = .ok [.group ([5, 3, 3, 2].map .exactly)] :=
    Pattern.parse_eq_of_decide (by decide +kernel)
  refine (builds_ofPatterns balancedPatterns).congr (iff_true_intro ?_) ?_
  · simp only [balancedPatterns, List.forall_mem_cons, h4333, h4432, h5332]
    simp
  · ext l
    simp only [balancedPatterns, List.exists_mem_cons_iff, Set.mem_ofPred_eq]
    rw [matched_of_parse h4333 (by decide) (by decide), matched_of_parse h4432 (by decide)
      (by decide), matched_of_parse h5332 (by decide) (by decide)]
    simp only [Set.mem_ofPred_eq, List.not_mem_nil, false_and, exists_false]

end Shape

end ContractBridge
