/-
What the shortest decimal is.

A decimal reads back as a number if its value lies in the number's range: between the points half
way to the two neighbours, which belong to it where the digits are even (`readsBack_iff`). The
number itself lies in its range, and with two points all that lies between them. The range reaches
at least as far up as down. So if any point of a grid lies in it, a point next to the number does
(`exists_readsBack_neighbour`), and the two points that are tried on each grid are enough: what is
chosen reads back, and nothing on a coarser grid does.
-/
import ContractBridge.Double.Shortest
import ContractBridge.Proofs.Double.Integers

set_option autoImplicit false

namespace ContractBridge

/-- The nearest integer is the one below or the one above. -/
theorem nearest_eq_or (num : Int) (den : Nat) :
    nearest num den = num / den ∨ nearest num den = num / den + 1 := by
  unfold nearest
  simp only
  split
  · exact .inl rfl
  · exact .inr rfl

/-! ## Decimals -/

namespace Decimal

/-- **The exact value.** -/
def value (d : Decimal) : ℚ := d.digits * 10 ^ d.power

/-- The power of ten as a fraction. -/
theorem ten_pow_ratio (power : Int) :
    ((Nat.pow 10 power.toNat : Nat) : ℚ) / (Nat.pow 10 (-power).toNat : Nat) = 10 ^ power := by
  rcases le_or_gt 0 power with h | h
  · obtain ⟨k, rfl⟩ := Int.eq_ofNat_of_zero_le h
    rw [Int.toNat_natCast, Int.toNat_of_nonpos (by omega), zpow_natCast]
    simp
  · obtain ⟨k, hk⟩ := Int.eq_ofNat_of_zero_le (Int.neg_nonneg_of_nonpos h.le)
    rw [Int.toNat_of_nonpos h.le, hk, Int.toNat_natCast, ← neg_neg power, hk, zpow_neg,
      zpow_natCast]
    simp

/-- The fraction of a decimal is its exact value. -/
theorem toRatio_ratio (d : Decimal) :
    0 < d.toRatio.2 ∧ (d.toRatio.1 : ℚ) / d.toRatio.2 = d.value := by
  refine ⟨Nat.pow_pos (by decide), ?_⟩
  rw [value, ← ten_pow_ratio, mul_div_assoc']
  simp only [toRatio]
  push_cast
  rfl

end Decimal

namespace Double

variable {x : Double} {d : Decimal} {power : Int} {q r : ℚ}

/-! ## The range -/

/-- **The range of a number:** all between the points half way to its neighbours, and these points
where its digits are even. -/
structure InRange (x : Double) (q : ℚ) : Prop where
  low : x.halfways.1.value < q ∨ x.digits % 2 = 0 ∧ x.halfways.1.value = q
  high : q < x.halfways.2.value ∨ x.digits % 2 = 0 ∧ q = x.halfways.2.value

/-- Fractions are compared by their cross products. -/
theorem isBelow_iff {closed : Bool} {u v : Int × Nat} (hu : 0 < u.2) (hv : 0 < v.2) :
    isBelow closed u v = true ↔
      (u.1 : ℚ) / u.2 < v.1 / v.2 ∨ closed = true ∧ (u.1 : ℚ) / u.2 = v.1 / v.2 := by
  have hu' : (0 : ℚ) < u.2 := Nat.cast_pos.2 hu
  have hv' : (0 : ℚ) < v.2 := Nat.cast_pos.2 hv
  rw [div_lt_div_iff₀ hu' hv', div_eq_div_iff hu'.ne' hv'.ne', isBelow, Bool.or_eq_true,
    Bool.and_eq_true, decide_eq_true_iff, beq_iff_eq]
  exact_mod_cast Iff.rfl

/-- **A decimal reads back as the number whose range it lies in.** -/
theorem readsBack_iff : x.readsBack d = true ↔ x.InRange d.value := by
  obtain ⟨hd, hdecimal⟩ := d.toRatio_ratio
  obtain ⟨hl, hlow⟩ := toRatio_ratio x.halfways.1
  obtain ⟨hh, hhigh⟩ := toRatio_ratio x.halfways.2
  simp only [readsBack, Bool.and_eq_true, isBelow_iff hl hd, isBelow_iff hd hh, hdecimal, hlow,
    hhigh, decide_eq_true_iff]
  exact ⟨fun ⟨hl, hh⟩ => ⟨hl, hh⟩, fun ⟨hl, hh⟩ => ⟨hl, hh⟩⟩

/-- The point half way down is a quarter or a half of the last place away. -/
theorem value_halfways_fst (x : Double) : ∃ gap : ℚ, 0 < gap ∧ gap ≤ 2 ^ x.exponent / 2 ∧
    x.halfways.1.value = x.value - gap := by
  have hunit : (0 : ℚ) < 2 ^ x.exponent := by positivity
  refine ⟨(if x.isNarrowBelow then 1 else 2) * 2 ^ x.exponent / 4, ?_, ?_, ?_⟩
  · split <;> positivity
  · split <;> linarith
  · simp only [value, halfways, zpow_sub₀ (two_ne_zero : (2 : ℚ) ≠ 0)]
    split <;> push_cast <;> ring

/-- The point half way up is half of the last place away. -/
theorem value_halfways_snd (x : Double) : x.halfways.2.value = x.value + 2 ^ x.exponent / 2 := by
  simp only [value, halfways, zpow_sub₀ (two_ne_zero : (2 : ℚ) ≠ 0)]
  push_cast
  ring

/-- A number lies in its range. -/
theorem inRange_value (x : Double) : x.InRange x.value := by
  have hunit : (0 : ℚ) < 2 ^ x.exponent := by positivity
  obtain ⟨gap, hgap, -, hlow⟩ := value_halfways_fst x
  refine ⟨.inl ?_, .inl ?_⟩
  · rw [hlow]
    linarith
  · rw [value_halfways_snd]
    linarith

/-- What lies between two points of the range lies in it. -/
theorem InRange.of_between {p : ℚ} (hp : x.InRange p) (hr : x.InRange r) (hpq : p ≤ q)
    (hqr : q ≤ r) : x.InRange q := by
  constructor
  · rcases hp.low with hlt | ⟨heven, heq⟩
    · exact .inl (hlt.trans_le hpq)
    · exact (heq.trans_le hpq).lt_or_eq.imp_right fun h => ⟨heven, h⟩
  · rcases hr.high with hlt | ⟨heven, heq⟩
    · exact .inl (hqr.trans_lt hlt)
    · exact (hqr.trans_eq heq).lt_or_eq.imp_right fun h => ⟨heven, h⟩

/-- The range reaches at least as far up as down. -/
theorem InRange.of_mirrored (hq : x.InRange q) (hr : x.value ≤ r)
    (hnear : r - x.value ≤ x.value - q) : x.InRange r := by
  obtain ⟨gap, hpos, hgap, hlow⟩ := value_halfways_fst x
  refine ⟨.inl (by linarith), ?_⟩
  rw [value_halfways_snd]
  rcases hq.low with hlt | ⟨heven, heq⟩
  · exact .inl (by linarith)
  · have hle : r ≤ x.value + 2 ^ x.exponent / 2 := by linarith
    exact hle.lt_or_eq.imp_right fun h => ⟨heven, h⟩

/-! ## All the digits -/

/-- The number with all its digits has the same value. -/
theorem value_inFull (h : 0 < x.digits) : x.inFull.value = x.value := by
  have hdigits : ((x.digits.toNat : Nat) : ℚ) = x.digits := by
    exact_mod_cast Int.toNat_of_nonneg h.le
  rw [Decimal.value, value, inFull]
  push_cast
  rw [hdigits]
  rcases le_or_gt 0 x.exponent with he | he
  · obtain ⟨k, hk⟩ := Int.eq_ofNat_of_zero_le he
    rw [hk, Int.toNat_natCast, Int.toNat_of_nonpos (by omega), min_eq_right (by omega),
      Nat.one_shiftLeft]
    simp
  · -- a power of one half is a power of five over one of ten
    obtain ⟨k, hk⟩ := Int.eq_ofNat_of_zero_le (Int.neg_nonneg_of_nonpos he.le)
    have hten : (10 : ℚ) ^ k = 2 ^ k * 5 ^ k := by
      rw [← mul_pow]
      norm_num
    rw [hk, Int.toNat_natCast, Int.toNat_of_nonpos he.le, min_eq_left he.le, ← neg_neg x.exponent,
      hk, zpow_neg, zpow_neg, zpow_natCast, zpow_natCast, hten]
    field_simp
    simp

theorem readsBack_inFull (h : 0 < x.digits) : x.readsBack x.inFull = true := by
  rw [readsBack_iff, value_inFull h]
  exact inRange_value x

/-! ## The points next to the number -/

/-- The number as a fraction on the grid of a power of ten, of which the points are rounded. -/
theorem neighbours_eq (x : Double) (power : Int) : ∃ (num : Int) (den : Nat), 0 < den ∧
    (num : ℚ) / den = x.value / 10 ^ power ∧
      x.neighbours power = [⟨(nearest num den).toNat, power⟩, ⟨(num / den + 1).toNat, power⟩] := by
  obtain ⟨hpos, hratio⟩ := toRatio_ratio x
  refine ⟨x.toRatio.1 * (Nat.pow 10 (-power).toNat : Nat), x.toRatio.2 * Nat.pow 10 power.toNat,
    Nat.mul_pos hpos (Nat.pow_pos (by decide)), ?_, rfl⟩
  rw [← hratio, ← Decimal.ten_pow_ratio, Int.cast_mul, Nat.cast_mul, Int.cast_natCast,
    div_div_eq_mul_div, div_mul_eq_mul_div, div_div]

/-- **The number lies between two points of a grid.** The one above is tried, and so is the one
below unless the one above is as near. -/
theorem exists_neighbours_eq (h : 0 < x.digits) (power : Int) : ∃ below near : Nat,
    x.neighbours power = [⟨near, power⟩, ⟨below + 1, power⟩] ∧
      below * 10 ^ power ≤ x.value ∧ x.value < (below + 1 : Nat) * 10 ^ power ∧
      (near = below ∨ (below + 1 : Nat) * 10 ^ power - x.value ≤ x.value - below * 10 ^ power) := by
  obtain ⟨num, den, hden, hratio, hneighbours⟩ := neighbours_eq x power
  have hunit : (0 : ℚ) < 10 ^ power := by positivity
  have hvalue : (0 : ℚ) < x.value := mul_pos (Int.cast_pos.2 h) (by positivity)
  have hfloor : num / (den : Int) = ⌊x.value / 10 ^ power⌋ := by
    rw [← hratio, Rat.floor_intCast_div_natCast]
  obtain ⟨below, hbelow⟩ : ∃ below : Nat, num / (den : Int) = below := by
    refine Int.eq_ofNat_of_zero_le ?_
    rw [hfloor]
    exact Int.floor_nonneg.2 (div_pos hvalue hunit).le
  rw [hbelow, eq_comm, Int.floor_eq_iff, le_div_iff₀ hunit, div_lt_iff₀ hunit] at hfloor
  have hbetween : below * 10 ^ power ≤ x.value ∧ x.value < (below + 1 : Nat) * 10 ^ power := by
    exact_mod_cast hfloor
  rw [hbelow] at hneighbours
  refine ⟨below, _, hneighbours, hbetween.1, hbetween.2, ?_⟩
  rcases nearest_eq_or num den with hnear | hnear
  · exact .inl (by rw [hnear, hbelow, Int.toNat_natCast])
  · -- the nearest integer is the one above, and it is half a unit away at most
    have hhalf := abs_nearest_sub_le num hden
    rw [hnear, hbelow, hratio, abs_le, sub_le_iff_le_add, ← sub_le_iff_le_add', le_div_iff₀ hunit]
      at hhalf
    have hmiddle := hhalf.2
    push_cast at hmiddle ⊢
    exact .inr (by linarith)

section Grid

variable {unit : ℚ} {j below : Nat}

/-- If a multiple of a unit above the number is in the range, the first one is. -/
theorem InRange.first_above (hunit : 0 < unit) (hj : x.InRange (j * unit)) (h : x.value < j * unit)
    (hle : below * unit ≤ x.value) (hlt : x.value < (below + 1 : Nat) * unit) :
    x.InRange ((below + 1 : Nat) * unit) := by
  have hbelow : below < j := by
    have hmul : (below : ℚ) * unit < j * unit := hle.trans_lt h
    exact_mod_cast lt_of_mul_lt_mul_right hmul hunit.le
  refine (inRange_value x).of_between hj hlt.le ?_
  exact mul_le_mul_of_nonneg_right (Nat.cast_le.2 hbelow) hunit.le

/-- If a multiple of a unit that is not above the number is in the range, the last one is. -/
theorem InRange.last_below (hunit : 0 < unit) (hj : x.InRange (j * unit)) (h : j * unit ≤ x.value)
    (hle : below * unit ≤ x.value) (hlt : x.value < (below + 1 : Nat) * unit) :
    x.InRange (below * unit) := by
  have hbelow : j < below + 1 := by
    have hmul : (j : ℚ) * unit < (below + 1 : Nat) * unit := h.trans_lt hlt
    exact_mod_cast lt_of_mul_lt_mul_right hmul hunit.le
  refine hj.of_between (inRange_value x) ?_ hle
  exact mul_le_mul_of_nonneg_right (Nat.cast_le.2 (Nat.lt_succ_iff.1 hbelow)) hunit.le

end Grid

/-- **If any point of a grid reads back as a number, a point next to the number does.** Where the
point below is not tried, the one above is as near and reads back too. -/
theorem exists_readsBack_neighbour (h : 0 < x.digits) (hd : x.readsBack d = true) :
    ∃ c ∈ x.neighbours d.power, x.readsBack c = true := by
  obtain ⟨below, near, hneighbours, hle, hlt, hnear⟩ := exists_neighbours_eq h d.power
  have hunit : (0 : ℚ) < 10 ^ d.power := by positivity
  have habove : (⟨below + 1, d.power⟩ : Decimal) ∈ x.neighbours d.power := by
    rw [hneighbours]
    exact List.mem_cons_of_mem _ List.mem_cons_self
  rw [readsBack_iff] at hd
  rcases lt_or_ge x.value d.value with hover | hunder
  · exact ⟨_, habove, readsBack_iff.2 (hd.first_above hunit hover hle hlt)⟩
  · have hlast : x.InRange (below * 10 ^ d.power) := hd.last_below hunit hunder hle hlt
    rcases hnear with rfl | hmirrored
    · exact ⟨⟨near, d.power⟩, hneighbours ▸ List.mem_cons_self, readsBack_iff.2 hlast⟩
    · exact ⟨_, habove, readsBack_iff.2 (hlast.of_mirrored hlt.le hmirrored)⟩

/-! ## The choice -/

theorem mem_grids_iff : power ∈ grids ↔ -330 < power ∧ power ≤ 310 := by
  simp only [grids, List.mem_map, List.mem_range]
  constructor
  · rintro ⟨k, hk, rfl⟩
    omega
  · rintro ⟨hlow, hhigh⟩
    exact ⟨(310 - power).toNat, by omega, by omega⟩

/-- The grids are tried from the coarsest on. -/
theorem pairwise_grids : grids.Pairwise (· > ·) := by
  rw [grids, List.pairwise_map]
  exact List.pairwise_lt_range.imp fun h => by omega

/-- The points next to a number are points of the grid. -/
theorem power_of_mem_neighbours (h : d ∈ x.neighbours power) : d.power = power := by
  simp only [neighbours, List.mem_cons, List.not_mem_nil, or_false] at h
  rcases h with rfl | rfl <;> rfl

/-- What is chosen is tried on some grid and reads back there, and nothing that is tried on an
earlier grid does; or nothing reads back that is tried. -/
theorem shortest_cases (h : 0 < x.digits) :
    (∃ before own after, grids = before ++ own :: after ∧ x.shortest ∈ x.neighbours own ∧
      x.readsBack x.shortest = true ∧
      ∀ power ∈ before, ∀ c ∈ x.neighbours power, x.readsBack c = false) ∨
    x.shortest = x.inFull ∧
      ∀ power ∈ grids, ∀ c ∈ x.neighbours power, x.readsBack c = false := by
  have hnone : ∀ {power : Int}, (x.neighbours power).find? x.readsBack = none →
      ∀ c ∈ x.neighbours power, x.readsBack c = false := by
    intro power hfind c hc
    exact Bool.eq_false_iff.2 (List.find?_eq_none.1 hfind c hc)
  rw [shortest, if_neg (by omega)]
  cases hfind : grids.findSome? fun power => (x.neighbours power).find? x.readsBack with
  | none =>
    exact .inr ⟨rfl, fun power hpower => hnone (List.findSome?_eq_none_iff.1 hfind power hpower)⟩
  | some chosen =>
    obtain ⟨before, own, after, hgrids, hchosen, hbefore⟩ := List.findSome?_eq_some_iff.1 hfind
    exact .inl ⟨before, own, after, hgrids, List.mem_of_find?_eq_some hchosen,
      List.find?_some hchosen, fun power hpower => hnone (hbefore power hpower)⟩

/-- **The decimal that is chosen reads back as the number.** -/
theorem readsBack_shortest (h : 0 < x.digits) : x.readsBack x.shortest = true := by
  rcases shortest_cases h with ⟨_, _, _, -, -, hreads, -⟩ | ⟨hfull, -⟩
  · exact hreads
  · rw [hfull]
    exact readsBack_inFull h

/-- **No decimal on a coarser grid reads back as the number.** -/
theorem power_le_shortest (h : 0 < x.digits) (hlow : -330 < d.power) (hhigh : d.power ≤ 310)
    (hd : x.readsBack d = true) : d.power ≤ x.shortest.power := by
  have hgrid := mem_grids_iff.2 ⟨hlow, hhigh⟩
  obtain ⟨c, hc, hreads⟩ := exists_readsBack_neighbour h hd
  rcases shortest_cases h with ⟨before, own, after, hgrids, hchosen, -, hbefore⟩ | ⟨-, hnone⟩
  · rw [power_of_mem_neighbours hchosen]
    have hsorted := pairwise_grids
    rw [hgrids] at hsorted hgrid
    rcases List.mem_append.1 hgrid with hearlier | hlater
    · rw [hbefore _ hearlier c hc] at hreads
      cases hreads
    · rcases List.mem_cons.1 hlater with hown | hafter
      · exact hown.le
      · exact (List.rel_of_pairwise_cons (List.pairwise_append.1 hsorted).2.1 hafter).le
  · rw [hnone _ hgrid c hc] at hreads
    cases hreads

end Double

end ContractBridge
