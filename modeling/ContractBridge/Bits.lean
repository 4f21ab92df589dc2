/-
Numbers read as sets of places.

A natural number is the set of the places of its binary form that hold a one, and a
negative number is the complement of such a set: `-1` holds every place. The file gives the
set operations on both kinds, `ones` (the places of a natural number, lowest first) and
`count`. Every operation comes with one equation that says what it does to `holds`, and
`ext_holds` says that `holds` tells two numbers apart, so nothing below ever unfolds them.
-/

set_option autoImplicit false

namespace ContractBridge.Bits

/-! ## The view -/

/-- **Whether place `i` of `n` is set.** The places of a negative number are those its
complement lacks, so from some place on they are all set. -/
def holds : Int → Nat → Bool
  | .ofNat n, i => n.testBit i
  | .negSucc n, i => !n.testBit i

@[simp] theorem holds_natCast (n i : Nat) : holds (n : Int) i = n.testBit i := rfl

@[simp] theorem holds_zero (i : Nat) : holds 0 i = false := Nat.zero_testBit i

/-- Past its leading one a natural number holds nothing. -/
theorem testBit_eq_false_of_log2_lt {n i : Nat} (h : n.log2 < i) : n.testBit i = false :=
  Nat.testBit_lt_two_pow (Nat.lt_of_lt_of_le Nat.lt_log2_self
    (Nat.pow_le_pow_right (by omega) h))

/-- Two numbers with the same places are equal. A natural number and a negative one differ
at every place beyond both of their magnitudes. -/
theorem ext_holds {a b : Int} (h : ∀ i, holds a i = holds b i) : a = b := by
  match a, b with
  | .ofNat m, .ofNat n => exact congrArg Int.ofNat (Nat.eq_of_testBit_eq h)
  | .negSucc m, .negSucc n =>
    exact congrArg Int.negSucc (Nat.eq_of_testBit_eq fun i => by
      have := h i; simp only [holds, Bool.not_inj_iff] at this; exact this)
  | .ofNat m, .negSucc n =>
    have := h (m.log2 + n.log2 + 1)
    simp only [holds, testBit_eq_false_of_log2_lt (n := m) (i := m.log2 + n.log2 + 1) (by omega),
      testBit_eq_false_of_log2_lt (n := n) (i := m.log2 + n.log2 + 1) (by omega)] at this
    cases this
  | .negSucc m, .ofNat n =>
    have := h (m.log2 + n.log2 + 1)
    simp only [holds, testBit_eq_false_of_log2_lt (n := m) (i := m.log2 + n.log2 + 1) (by omega),
      testBit_eq_false_of_log2_lt (n := n) (i := m.log2 + n.log2 + 1) (by omega)] at this
    cases this

/-! ## The operations -/

/-- The places that `n` lacks. -/
def complement : Int → Int
  | .ofNat n => .negSucc n
  | .negSucc n => .ofNat n

/-- The places of `a` that are not in `b`. -/
def clear (a b : Nat) : Nat := a ^^^ (a &&& b)

/-- The places that two numbers share. -/
def both : Int → Int → Int
  | .ofNat a, .ofNat b => .ofNat (a &&& b)
  | .ofNat a, .negSucc b => .ofNat (clear a b)
  | .negSucc a, .ofNat b => .ofNat (clear b a)
  | .negSucc a, .negSucc b => .negSucc (a ||| b)

/-- The places of either number. -/
def either (a b : Int) : Int := complement (both (complement a) (complement b))

/-- The places of `a` without those of `b`. -/
def minus (a b : Int) : Int := both a (complement b)

/-- The number whose only place is `i`. -/
def bit (i : Nat) : Int := .ofNat (1 <<< i)

theorem testBit_clear (a b i : Nat) : (clear a b).testBit i = (a.testBit i && !b.testBit i) := by
  simp only [clear, Nat.testBit_xor, Nat.testBit_and]
  cases a.testBit i <;> cases b.testBit i <;> rfl

@[simp] theorem holds_complement (a : Int) (i : Nat) : holds (complement a) i = !holds a i := by
  cases a <;> simp [complement, holds]

@[simp] theorem holds_both (a b : Int) (i : Nat) :
    holds (both a b) i = (holds a i && holds b i) := by
  cases a <;> cases b <;>
    simp only [both, holds, Nat.testBit_and, Nat.testBit_or, testBit_clear, Bool.not_or]
  exact Bool.and_comm _ _

@[simp] theorem holds_either (a b : Int) (i : Nat) :
    holds (either a b) i = (holds a i || holds b i) := by
  simp [either]

@[simp] theorem holds_minus (a b : Int) (i : Nat) :
    holds (minus a b) i = (holds a i && !holds b i) := by
  simp [minus]

@[simp] theorem holds_bit (i j : Nat) : holds (bit i) j = decide (i = j) := by
  show (1 <<< i).testBit j = decide (i = j)
  rw [Nat.one_shiftLeft, Nat.testBit_two_pow]

@[simp] theorem holds_shiftRight (a : Int) (k i : Nat) : holds (a >>> k) i = holds a (k + i) := by
  match a with
  | .ofNat n => exact Nat.testBit_shiftRight n
  | .negSucc n => exact congrArg (!·) (Nat.testBit_shiftRight n)

/-! ## Listing the places

A number of twice `half d` places is its lower half and its upper half, and a half that is zero
lists nothing, so the work goes with the places that are set and not with the width. -/

/-- How many places are reached by halving `d` times: two for each one before. -/
def half (d : Nat) : Nat := 1 <<< d

/-- The places of `n`, counted from `base`, for `n` of at most `half d` places. -/
def onesAt : Nat → Nat → Nat → List Nat
  | 0, base, n => if n = 0 then [] else [base]
  | d + 1, base, n =>
    if n = 0 then []
    else onesAt d base (n % 1 <<< half d) ++ onesAt d (base + half d) (n >>> half d)

/-- A depth of halving that reaches every place of `n`. -/
def depth (n : Nat) : Nat := (n.log2 + 1).log2 + 1

/-- **The places of a natural number, lowest first.** -/
def ones (n : Nat) : List Nat := onesAt (depth n) 0 n

/-- How many places of a number's magnitude are set. -/
def count (n : Int) : Nat := (ones n.natAbs).length

/-- The number of binary digits of a number's magnitude; zero has none. -/
def width (n : Int) : Nat := if n = 0 then 0 else n.natAbs.log2 + 1

/-- The lowest place of `n` as a number of its own: `n` and `-n` agree up to it and share
nothing past it. -/
def lowest (n : Int) : Int := both n (-n)

@[simp] theorem half_zero : half 0 = 1 := rfl

theorem half_succ (d : Nat) : half (d + 1) = half d + half d := by
  simp only [half, Nat.one_shiftLeft, Nat.pow_succ, Nat.mul_two]

theorem testBit_mod_shift (n k i : Nat) :
    (n % 1 <<< k).testBit i = (decide (i < k) && n.testBit i) := by
  rw [Nat.one_shiftLeft, Nat.testBit_mod_two_pow]

/-- Whether `n` has no place from `half d` on. -/
def Fits (d n : Nat) : Prop := ∀ i, half d ≤ i → n.testBit i = false

theorem fits_depth (n : Nat) : Fits (depth n) n := fun i hi =>
  testBit_eq_false_of_log2_lt (by
    have : n.log2 + 1 < half (depth n) := by
      simp only [half, Nat.one_shiftLeft, depth]
      exact Nat.lt_log2_self
    omega)

/-- The lower half of a number fits. -/
theorem fits_lower (d n : Nat) : Fits d (n % 1 <<< half d) := fun i hi => by
  rw [testBit_mod_shift]
  simp [Nat.not_lt.2 hi]

/-- The upper half of a number fits if the number fits twice the places. -/
theorem fits_upper {d n : Nat} (h : Fits (d + 1) n) : Fits d (n >>> half d) := fun i hi => by
  rw [Nat.testBit_shiftRight]
  exact h _ (by rw [half_succ]; omega)

/-- A number of one place is zero or one. -/
theorem eq_zero_or_one_of_fits {n : Nat} (h : Fits 0 n) : n = 0 ∨ n = 1 := by
  have : n / 2 = 0 := Nat.eq_of_testBit_eq fun i => by
    rw [Nat.testBit_div_two, Nat.zero_testBit]
    exact h _ (by simp)
  omega

theorem mem_onesAt {d base n i : Nat} (hn : Fits d n) :
    i ∈ onesAt d base n ↔ base ≤ i ∧ n.testBit (i - base) = true := by
  induction d generalizing base n with
  | zero =>
    rcases eq_zero_or_one_of_fits hn with rfl | rfl
    · simp [onesAt]
    · simp only [onesAt, Nat.one_ne_zero, if_false, List.mem_singleton]
      constructor
      · rintro rfl; simp
      · rintro ⟨hi, ht⟩
        by_cases h0 : i - base = 0
        · omega
        · rw [hn _ (by simp only [half_zero]; omega)] at ht; cases ht
  | succ d ih =>
    unfold onesAt
    split
    · next h => subst h; simp
    · rw [List.mem_append, ih (fits_lower d n), ih (fits_upper hn)]
      simp only [testBit_mod_shift, Nat.testBit_shiftRight]
      generalize half d = p
      constructor
      · rintro (⟨h1, h2⟩ | ⟨h1, h2⟩)
        · simp only [Bool.and_eq_true, decide_eq_true_eq] at h2
          exact ⟨h1, h2.2⟩
        · rw [show p + (i - (base + p)) = i - base by omega] at h2
          exact ⟨by omega, h2⟩
      · rintro ⟨h1, h2⟩
        by_cases hlt : i - base < p
        · left; exact ⟨h1, by simp [hlt, h2]⟩
        · right
          refine ⟨by omega, ?_⟩
          rw [show p + (i - (base + p)) = i - base by omega]
          exact h2

/-- `ones` lists exactly the places that are set. -/
@[simp] theorem mem_ones {n i : Nat} : i ∈ ones n ↔ n.testBit i = true := by
  simp [ones, mem_onesAt (fits_depth n)]

theorem onesAt_lt {d base n i : Nat} (hn : Fits d n) (h : i ∈ onesAt d base n) :
    i < base + half d := by
  rw [mem_onesAt hn] at h
  obtain ⟨h1, h2⟩ := h
  apply Classical.byContradiction
  intro hge
  rw [hn _ (by omega)] at h2; cases h2

theorem onesAt_pairwise {d base n : Nat} (hn : Fits d n) : (onesAt d base n).Pairwise (· < ·) := by
  induction d generalizing base n with
  | zero => unfold onesAt; split <;> simp
  | succ d ih =>
    unfold onesAt
    split
    · simp
    · refine List.pairwise_append.2 ⟨ih (fits_lower d n), ih (fits_upper hn), fun a ha b hb => ?_⟩
      have h1 := onesAt_lt (fits_lower d n) ha
      have h2 := ((mem_onesAt (fits_upper hn)).1 hb).1
      omega

/-- `ones` lists the places in increasing order, each once. -/
theorem ones_pairwise (n : Nat) : (ones n).Pairwise (· < ·) := onesAt_pairwise (fits_depth n)

end ContractBridge.Bits
