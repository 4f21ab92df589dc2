/-
Integers written and read back.

The digits that an integer is written in are read as that integer, for any limit on their number:
what a limit refuses to read it also refuses to write. The reader knows the digits of many
scripts and the writer uses the first one, so the only thing to see is that the common ten digits
come first among the scripts (`digitValue?_of_isDigit`).
-/
import ContractBridge.Proofs.Text.Splitting
import ContractBridge.Text.Digits

set_option autoImplicit false

namespace ContractBridge.Text

variable {limit : DigitLimit} {c : Char} {n : Int}

/-! ## Digits -/

theorem digitValue?_of_isDigit (h : c.isDigit = true) :
    digitValue? c = some (c.toNat - '0'.toNat) := by
  have hrange := Char.isDigit_iff_toNat.1 h
  -- the scripts are searched in order, and the first one has the character
  have hfirst : zeros.find? (fun nought => nought ≤ c.toNat && c.toNat < nought + 10) =
      some 0x30 := by
    apply List.find?_cons_of_pos
    rw [Bool.and_eq_true, decide_eq_true_iff, decide_eq_true_iff]
    exact ⟨hrange.1, Nat.lt_succ_of_le hrange.2⟩
  rw [digitValue?, hfirst]
  rfl

/-- A digit is no blank. -/
theorem isBlank_of_isDigit (h : c.isDigit = true) : isBlank c = false := by
  have hrange := Char.isDigit_iff_toNat.1 h
  rw [show '0'.toNat = 48 from rfl, show '9'.toNat = 57 from rfl] at hrange
  rw [← Bool.not_eq_true]
  simp only [isBlank, Bool.or_eq_true, Bool.and_eq_true, decide_eq_true_eq, beq_iff_eq]
  omega

theorem ne_of_isDigit {d : Char} (h : c.isDigit = true) (hd : d.isDigit = false) : c ≠ d := by
  rintro rfl
  rw [h] at hd
  cases hd

/-! ## Numbers without a sign -/

theorem readDigits?_of_isDigit (value read : Nat) {digits : List Char}
    (h : ∀ c ∈ digits, c.isDigit = true) :
    readDigits? limit value read digits =
      if limit.admits (read + digits.length) then some (Nat.ofDigitChars 10 digits value)
      else none := by
  induction digits generalizing value read with
  | nil => rw [readDigits?, List.length_nil, Nat.add_zero, Nat.ofDigitChars_nil]
  | cons c digits ih =>
    obtain ⟨hc, hdigits⟩ := List.forall_mem_cons.1 h
    have hstep : readDigits? limit value read (c :: digits) =
        readDigits? limit (10 * value + (c.toNat - '0'.toNat)) (read + 1) digits := by
      rw [readDigits?.eq_3 _ _ _ _ _ fun _ _ hbar _ => ne_of_isDigit hc (by decide) hbar,
        digitValue?_of_isDigit hc]
    rw [hstep, ih _ _ hdigits, Nat.ofDigitChars_cons, List.length_cons, Nat.add_assoc,
      Nat.add_comm 1]

theorem isDigit_of_mem_toDigits {m : Nat} (h : c ∈ Nat.toDigits 10 m) : c.isDigit = true :=
  Nat.isDigit_of_mem_toDigits (by decide) (by decide) h

theorem readNatural?_toDigits (m : Nat) : readNatural? limit (Nat.toDigits 10 m) =
    if limit.admits (Nat.toDigits 10 m).length then some m else none := by
  have hread : readDigits? limit 0 0 (Nat.toDigits 10 m) = _ :=
    readDigits?_of_isDigit 0 0 fun _ => isDigit_of_mem_toDigits
  rw [Nat.ofDigitChars_ten_toDigits, Nat.zero_add] at hread
  rw [← hread]
  -- a number has digits, and the first one is no bar, so they are read from the start
  cases hdigits : Nat.toDigits 10 m with
  | nil => exact absurd hdigits Nat.toDigits_ne_nil
  | cons c digits =>
    have hc : c.isDigit = true := isDigit_of_mem_toDigits (hdigits ▸ List.mem_cons_self)
    exact readNatural?.eq_3 _ _ (List.cons_ne_nil _ _) fun _ hbar =>
      ne_of_isDigit hc (by decide) (List.cons.inj hbar).1

/-! ## Integers -/

/-- Every character of a written integer is a digit or the sign. -/
theorem isDigit_of_mem_decimal (h : c ∈ decimal n) : c.isDigit = true ∨ c = '-' := by
  cases n with
  | ofNat m => exact .inl (isDigit_of_mem_toDigits h)
  | negSucc m =>
    rcases List.mem_cons.1 h with rfl | h
    · exact .inr rfl
    · exact .inl (isDigit_of_mem_toDigits h)

theorem isBlank_of_mem_decimal (h : c ∈ decimal n) : isBlank c = false := by
  rcases isDigit_of_mem_decimal h with hdigit | rfl
  · exact isBlank_of_isDigit hdigit
  · decide

theorem readIntegerWithin?_of_isDigit {digits : List Char} (h : ∀ c ∈ digits, c.isDigit = true) :
    readIntegerWithin? limit digits = (readNatural? limit digits).map Int.ofNat := by
  rw [readIntegerWithin?, strip_of_not_blank fun c hc => isBlank_of_isDigit (h c hc)]
  split
  · exact absurd (h _ List.mem_cons_self) (by decide)
  · exact absurd (h _ List.mem_cons_self) (by decide)
  · rfl

/-- **A written integer is read back,** if the limit admits its digits, and refused otherwise. -/
theorem readIntegerWithin?_decimal (limit : DigitLimit) (n : Int) :
    readIntegerWithin? limit (decimal n) =
      if limit.admits (digitCount n) then some n else none := by
  cases n with
  | ofNat m =>
    rw [decimal, readIntegerWithin?_of_isDigit fun _ => isDigit_of_mem_toDigits,
      readNatural?_toDigits]
    show _ = if limit.admits (Nat.toDigits 10 m).length then _ else _
    split <;> rfl
  | negSucc m =>
    rw [readIntegerWithin?, strip_of_not_blank fun _ => isBlank_of_mem_decimal]
    show (readNatural? limit (Nat.toDigits 10 (m + 1))).map (fun k => -(k : Int)) = _
    rw [readNatural?_toDigits, digitCount, Int.natAbs_negSucc]
    split <;> rfl

end ContractBridge.Text
