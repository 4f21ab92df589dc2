/-
The check of four suits is exact.

Before patterns are expanded they are checked: four suits, not more than thirteen cards in any
case, and, unless a suit is open above, not fewer. The check adds up two bounds and looks at no
length. This file shows that it misses nothing: patterns pass it exactly if four lengths of
thirteen cards exist that the suits accept one by one (`Fillable`).

The reason is that the totals which some suits can have are an interval. `exists_lengths_iff` says
so for any number of suits, by induction: whatever the first suit is, it has a length that leaves
the others a total between their own bounds (`exists_share`). A pattern that passes the check has
therefore a distribution, and the expansion finds it.
-/
import ContractBridge.Proofs.Pattern.Expansion
import ContractBridge.Proofs.Pattern.Reader

set_option autoImplicit false

namespace ContractBridge

namespace Pattern

variable {p : SuitPattern} {suits : List SuitPattern} {lengths : List Int} {t : Int}

/-! ## Bounds of several suits -/

/-- The fewest cards that some suits take. -/
def least (suits : List SuitPattern) : Int := total (suits.map SuitPattern.minimum)

/-- The most cards that some suits take, where none of them is open above. -/
def most (suits : List SuitPattern) : Int := total (suits.map SuitPattern.maximum)

/-- Whether no suit is open above. -/
def IsClosed (suits : List SuitPattern) : Prop := ∀ p ∈ suits, p.modifier ≠ .atLeast

@[simp] theorem least_cons (p : SuitPattern) (suits : List SuitPattern) :
    least (p :: suits) = p.minimum + least suits := by
  rw [least, List.map_cons, total_cons, least]

@[simp] theorem most_cons (p : SuitPattern) (suits : List SuitPattern) :
    most (p :: suits) = p.maximum + most suits := by
  rw [most, List.map_cons, total_cons, most]

theorem isClosed_cons : IsClosed (p :: suits) ↔ p.modifier ≠ .atLeast ∧ IsClosed suits :=
  List.forall_mem_cons

/-- Whether some lengths are no less than zero and accepted one by one. -/
def Accepts (suits : List SuitPattern) (lengths : List Int) : Prop :=
  List.Forall₂ (fun p n => 0 ≤ n ∧ SuitPattern.contains p n = true) suits lengths

theorem Accepts.le_most (h : Accepts suits lengths) (hclosed : IsClosed suits) :
    total lengths ≤ most suits := by
  induction h with
  | nil => exact Int.le_refl _
  | @cons p n suits lengths hn _ ih =>
    obtain ⟨hp, hsuits⟩ := isClosed_cons.1 hclosed
    have hle := ih hsuits
    rw [total_cons, most_cons]
    match p, hp, hn.2 with
    | ⟨m, .exact⟩, _, hfits =>
      rw [SuitPattern.contains_exact] at hfits
      simp only [SuitPattern.maximum]
      omega
    | ⟨m, .atMost⟩, _, hfits =>
      rw [SuitPattern.contains_atMost] at hfits
      simp only [SuitPattern.maximum]
      omega
    | ⟨m, .atLeast⟩, hp, _ => exact absurd rfl hp

theorem least_le_most (hpos : ∀ p ∈ suits, 0 ≤ p.length) (hclosed : IsClosed suits) :
    least suits ≤ most suits := by
  induction suits with
  | nil => exact Int.le_refl _
  | cons p suits ih =>
    obtain ⟨hp, hsuits⟩ := isClosed_cons.1 hclosed
    obtain ⟨hlength, hrest⟩ := List.forall_mem_cons.1 hpos
    have hle := ih hrest hsuits
    rw [least_cons, most_cons]
    match p, hp, hlength with
    | ⟨m, .exact⟩, _, _ =>
      simp only [SuitPattern.minimum, SuitPattern.maximum]
      omega
    | ⟨m, .atMost⟩, _, hlength =>
      simp only [SuitPattern.minimum, SuitPattern.maximum] at hlength ⊢
      omega
    | ⟨m, .atLeast⟩, hp, _ => exact absurd rfl hp

/-! ## The totals are an interval -/

/-- **A suit has a length that leaves the others a total between their bounds.** An open suit takes
all that the others can do without. A suit with an upper bound takes nothing, or, if the others are
closed and cannot hold the rest, as much as is too much for them. -/
theorem exists_share {lo hi : Int} {closed : Prop} (hlength : 0 ≤ p.length)
    (hle : closed → lo ≤ hi) (hlo : p.minimum + lo ≤ t)
    (hhi : p.modifier ≠ .atLeast → closed → t ≤ p.maximum + hi) :
    ∃ n, 0 ≤ n ∧ p.contains n = true ∧ lo ≤ t - n ∧ (closed → t - n ≤ hi) := by
  match p, hlength, hlo, hhi with
  | ⟨m, .exact⟩, hlength, hlo, hhi =>
    simp only [SuitPattern.minimum, SuitPattern.maximum] at hlo hhi
    refine ⟨m, hlength, (SuitPattern.contains_exact m m).2 rfl, by omega, fun hclosed => ?_⟩
    have := hhi (by decide) hclosed
    omega
  | ⟨m, .atLeast⟩, hlength, hlo, _ =>
    simp only [SuitPattern.minimum] at hlo hlength
    refine ⟨t - lo, by omega, (SuitPattern.contains_atLeast m _).2 (by omega), by omega, ?_⟩
    intro hclosed
    have := hle hclosed
    omega
  | ⟨m, .atMost⟩, hlength, hlo, hhi =>
    simp only [SuitPattern.minimum, SuitPattern.maximum] at hlo hhi hlength
    -- as little as possible: nothing, unless the others cannot hold all of `t`
    by_cases hrest : closed ∧ hi < t
    · have hbound := hhi (by decide) hrest.1
      have horder := hle hrest.1
      refine ⟨t - hi, by omega, (SuitPattern.contains_atMost m _).2 (by omega), by omega, ?_⟩
      intro _
      omega
    · refine ⟨0, by omega, (SuitPattern.contains_atMost m 0).2 hlength, by omega, ?_⟩
      intro hclosed
      have : ¬ hi < t := fun hlt => hrest ⟨hclosed, hlt⟩
      omega

/-- **Suits can have the totals between their bounds and no others.** -/
theorem exists_lengths_iff (hpos : ∀ p ∈ suits, 0 ≤ p.length) :
    (∃ lengths, Accepts suits lengths ∧ total lengths = t) ↔
      least suits ≤ t ∧ (IsClosed suits → t ≤ most suits) := by
  constructor
  · rintro ⟨lengths, hfits, rfl⟩
    exact ⟨Expansion.total_minimum_le hfits, hfits.le_most⟩
  -- suit by suit, the total that is left to share staying between the bounds of the suits left
  · induction suits generalizing t with
    | nil =>
      rintro ⟨hlo, hhi⟩
      have hzero : t ≤ 0 := hhi fun _ hmem => absurd hmem List.not_mem_nil
      exact ⟨[], .nil, Int.le_antisymm hlo hzero⟩
    | cons p suits ih =>
      obtain ⟨hlength, hrest⟩ := List.forall_mem_cons.1 hpos
      rw [least_cons, most_cons, isClosed_cons]
      rintro ⟨hlo, hhi⟩
      obtain ⟨n, hn, hp, hlow, hhigh⟩ := exists_share hlength (least_le_most hrest) hlo
        fun hopen hclosed => hhi ⟨hopen, hclosed⟩
      obtain ⟨lengths, hfits, htotal⟩ := ih hrest ⟨hlow, hhigh⟩
      refine ⟨n :: lengths, .cons ⟨hn, hp⟩ hfits, ?_⟩
      rw [total_cons, htotal]
      omega

/-! ## The check -/

/-- **Whether four lengths of thirteen cards exist that the suits of some patterns accept,** and
there are four suits. -/
def Fillable (ps : List Pattern) : Prop :=
  ∃ a b c d, flatten ps = [a, b, c, d] ∧ ∃ k l m n : Nat, k + l + m + n = handSize ∧
    a.contains k = true ∧ b.contains l = true ∧ c.contains m = true ∧ d.contains n = true

theorem checkCount_eq_ok_iff {count : Nat} : checkCount count = .ok () ↔ count = 4 := by
  unfold checkCount
  constructor
  · intro h
    split at h
    · cases h
    · split at h
      · cases h
      · omega
  · rintro rfl
    rfl

theorem checkCards_eq_ok_iff : checkCards suits = .ok () ↔
    least suits ≤ handSize ∧ (IsClosed suits → handSize ≤ most suits) := by
  have hshort : (suits.all (·.modifier != .atLeast) && decide (most suits < handSize)) = true ↔
      IsClosed suits ∧ most suits < handSize := by
    simp only [Bool.and_eq_true, decide_eq_true_eq, List.all_eq_true, bne_iff_ne, IsClosed]
  -- the sums of the check are `least` and `most`
  have hcheck : checkCards suits =
      if handSize < least suits then .error (.arity (.atLeast (least suits)))
      else if suits.all (·.modifier != .atLeast) && most suits < handSize then
        .error (.arity (.atMost (most suits)))
      else .ok () := rfl
  rw [hcheck]
  constructor
  · intro h
    split at h
    · cases h
    · next hlo =>
      split at h
      · cases h
      · next hhi =>
        exact ⟨Int.not_lt.1 hlo, fun hc => Int.not_lt.1 fun hlt => hhi (hshort.2 ⟨hc, hlt⟩)⟩
  · rintro ⟨hlo, hhi⟩
    exact (if_neg (Int.not_lt.2 hlo)).trans
      (if_neg fun h => Int.not_lt.2 (hhi (hshort.1 h).1) (hshort.1 h).2)

theorem checkArity_eq_ok_iff_bounds {ps : List Pattern} : checkArity ps = .ok () ↔
    (flatten ps).length = 4 ∧ least (flatten ps) ≤ handSize ∧
      (IsClosed (flatten ps) → handSize ≤ most (flatten ps)) := by
  rw [checkArity, except_bind_eq_ok_iff]
  constructor
  · rintro ⟨⟨⟩, hcount, hcards⟩
    exact ⟨checkCount_eq_ok_iff.1 hcount, checkCards_eq_ok_iff.1 hcards⟩
  · rintro ⟨hcount, hcards⟩
    exact ⟨(), checkCount_eq_ok_iff.2 hcount, checkCards_eq_ok_iff.2 hcards⟩

theorem length_nonneg_of_mem_flatten {ps : List Pattern} (hps : ∀ p ∈ ps, p.IsProper) :
    ∀ p ∈ flatten ps, 0 ≤ p.length := by
  intro p hp
  obtain ⟨q, hq, hmem⟩ := List.mem_flatMap.1 hp
  cases q with
  | suit s =>
    rw [List.mem_singleton.1 hmem]
    exact hps _ hq
  | group members => exact (hps _ hq).2 p hmem

/-- Four lengths are accepted as a list exactly if they are accepted one by one. -/
theorem fillable_iff_exists_lengths {ps : List Pattern} : Fillable ps ↔
    (flatten ps).length = 4 ∧
      ∃ lengths, Accepts (flatten ps) lengths ∧ total lengths = handSize := by
  constructor
  · rintro ⟨a, b, c, d, hflat, k, l, m, n, hsum, ha, hb, hc, hd⟩
    rw [hflat]
    refine ⟨rfl, [(k : Int), l, m, n], ?_, ?_⟩
    · exact .cons ⟨Int.natCast_nonneg k, ha⟩ (.cons ⟨Int.natCast_nonneg l, hb⟩
        (.cons ⟨Int.natCast_nonneg m, hc⟩ (.cons ⟨Int.natCast_nonneg n, hd⟩ .nil)))
    · simp only [total_cons, total_nil]
      omega
  · rintro ⟨hlen, lengths, hfits, htotal⟩
    match hflat : flatten ps, hlen, lengths, hfits, htotal with
    | [a, b, c, d], _, [k, l, m, n], .cons ha (.cons hb (.cons hc (.cons hd .nil))), htotal =>
      simp only [total_cons, total_nil] at htotal
      obtain ⟨k, rfl⟩ := Int.eq_ofNat_of_zero_le ha.1
      obtain ⟨l, rfl⟩ := Int.eq_ofNat_of_zero_le hb.1
      obtain ⟨m, rfl⟩ := Int.eq_ofNat_of_zero_le hc.1
      obtain ⟨n, rfl⟩ := Int.eq_ofNat_of_zero_le hd.1
      exact ⟨a, b, c, d, hflat, k, l, m, n, by omega, ha.2, hb.2, hc.2, hd.2⟩

theorem checkArity_eq_ok_iff_fillable {ps : List Pattern} (hps : ∀ p ∈ ps, p.IsProper) :
    checkArity ps = .ok () ↔ Fillable ps := by
  rw [checkArity_eq_ok_iff_bounds, fillable_iff_exists_lengths,
    exists_lengths_iff (length_nonneg_of_mem_flatten hps)]

/-! ## Compiled patterns -/

/-- The suits as they are written are a row of the patterns. -/
theorem rows_flatten (ps : List Pattern) : Rows ps (flatten ps) := by
  induction ps with
  | nil => exact .nil
  | cons p ps ih =>
    cases p with
    | suit s => exact .suit ih
    | group members => exact .group (.refl members) ih

/-- Patterns that four lengths fill have a distribution. -/
theorem Fillable.distributions_ne_nil {ps : List Pattern} (h : Fillable ps)
    (hps : ∀ p ∈ ps, p.IsProper) : distributions ps ≠ [] := by
  obtain ⟨a, b, c, d, hflat, k, l, m, n, hsum, ha, hb, hc, hd⟩ := h
  have hrow : Rows ps [a, b, c, d] := hflat ▸ rows_flatten ps
  have hmem : (⟨k, l, m, n⟩ : SuitLengths) ∈ distributions ps := by
    rw [mem_distributions hps]
    refine ⟨⟨a, b, c, d, hrow, ha, hb, hc, hd⟩, ?_, ?_⟩
    · simp only [SuitLengths.toList, List.forall_mem_cons, Int.natCast_nonneg, true_and,
        List.not_mem_nil, false_imp_iff, implies_true]
    · simp only [SuitLengths.total]
      omega
  exact List.ne_nil_of_mem hmem

/-- **The check of four suits is exact.** Proper patterns pass it if and only if there are four
suits and four lengths of thirteen cards that these accept. So a written pattern is refused, or it
compiles to one distribution at least. -/
theorem checkArity_iff_fillable :
    (∀ ps, (∀ p ∈ ps, p.IsProper) → (checkArity ps = .ok () ↔ Fillable ps)) ∧
      ∀ text, (∃ e, compile text = .error e) ∨ ∃ ls, compile text = .ok ls ∧ ls ≠ [] := by
  refine ⟨fun ps hps => checkArity_eq_ok_iff_fillable hps, fun text => ?_⟩
  rw [compile]
  cases hparse : parse text with
  | error e => exact .inl ⟨e, rfl⟩
  | ok ps =>
    have hps := isProper_of_parse hparse
    obtain ⟨-, -, -, -, hcheck⟩ := parse_eq_ok hparse
    refine .inr ⟨_, rfl, ?_⟩
    exact ((checkArity_eq_ok_iff_fillable hps).1 hcheck).distributions_ne_nil hps

/-- A group of an exact and an upper bound with two suits that are not open either: the most that
they take is thirteen, and they take it in one way. -/
theorem checkArity_iff_fillable_closed :
    Fillable [.group [.exactly 5, .atMost 3], .suit (.atMost 4), .suit (.exactly 1)] :=
  (checkArity_iff_fillable.1 _ (by
    simp only [List.forall_mem_cons, IsProper, List.not_mem_nil, false_imp_iff, implies_true]
    decide)).1 rfl

end Pattern

end ContractBridge
