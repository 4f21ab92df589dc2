/-
The circle of sixteen boards.

Dealers and vulnerabilities go round in circles of four (`IsCircle`). A board's dealer is its number
modulo four, and its vulnerability is counted in rounded numbers: the boards before it and every
fourth of them once more. As long as that count has 53 digits nothing is rounded on the way
(`ofBoard_eq`), so both are remainders of exact integers. Together the two remainders are the number
of the board modulo sixteen (`turns_iff`), and everything about the circle of boards follows: it
closes after sixteen of them, and each pair of a dealer and a vulnerability comes once in it.
-/
import ContractBridge.Proofs.Double.Integers
import ContractBridge.Vulnerability

set_option autoImplicit false

namespace ContractBridge

/-! ## Circles of four -/

/-- **A circle of four:** where a turn ends depends on its remainder alone, and each member of the
circle is where the turn of its number ends. -/
structure IsCircle {α : Type} (index : α → Nat) (ofTurn : Int → α) : Prop where
  ofTurn_emod : ∀ k, ofTurn (k % 4) = ofTurn k
  index_ofTurn_natCast : ∀ i : Nat, i < 4 → index (ofTurn i) = i
  ofTurn_index : ∀ a, ofTurn (index a) = a

namespace IsCircle

variable {α : Type} {index : α → Nat} {ofTurn : Int → α} {k : Int} {a : α}

theorem index_ofTurn (h : IsCircle index ofTurn) (k : Int) : (index (ofTurn k) : Int) = k % 4 := by
  obtain ⟨i, hi⟩ := Int.eq_ofNat_of_zero_le (Int.emod_nonneg k (by decide : (4 : Int) ≠ 0))
  rw [← h.ofTurn_emod, hi, h.index_ofTurn_natCast i (by omega)]

theorem index_lt_four (h : IsCircle index ofTurn) (a : α) : index a < 4 := by
  have hturn := h.index_ofTurn (index a)
  rw [h.ofTurn_index] at hturn
  omega

theorem ofTurn_eq_iff (h : IsCircle index ofTurn) : ofTurn k = a ↔ k % 4 = index a := by
  constructor
  · rintro rfl
    exact (h.index_ofTurn k).symm
  · intro hk
    rw [← h.ofTurn_emod, hk, h.ofTurn_index]

end IsCircle

namespace Seat

theorem isCircle : IsCircle index ofTurn where
  ofTurn_emod k := by rw [ofTurn, Int.emod_emod, ← ofTurn]
  index_ofTurn_natCast := by decide
  ofTurn_index := ofTurn_index

theorem ofBoard_eq_iff {number : Int} {dealer : Seat} :
    ofBoard number = dealer ↔ (number - 1) % 4 = dealer.index :=
  isCircle.ofTurn_eq_iff

end Seat

namespace Vulnerability

variable {n : Int}

theorem isCircle : IsCircle index ofTurn where
  ofTurn_emod k := by rw [ofTurn, Int.emod_emod, ← ofTurn]
  index_ofTurn_natCast := by decide
  ofTurn_index := ofTurn_index

/-! ## Nothing is rounded -/

/-- **The vulnerability of a board is an exact remainder,** as long as the count of its turns has 53
binary digits. -/
theorem ofBoard_eq (h : |n - 1 + (n - 1) / 4| ≤ 2 ^ 53) :
    ofBoard n = .ok (ofTurn (n - 1 + (n - 1) / 4)) := by
  have hboards : |n - 1| ≤ 2 ^ 53 := by
    rw [abs_le] at h ⊢
    omega
  have hrounds : |(n - 1) / 4| ≤ 2 ^ 53 := by
    rw [abs_le] at h ⊢
    omega
  have hvalue : ((Double.ofInt (n - 1)).add (Double.ofInt ((n - 1) / 4))).value =
      (n - 1 + (n - 1) / 4 : Int) := by
    apply Double.value_add_of_eq h
    rw [Double.value_ofInt hboards, Double.value_ofInt hrounds, Int.cast_add]
  have hfinite := Double.isFinite_of_value_eq hboards (Double.value_ofInt hboards)
  have hfinite' := Double.isFinite_of_value_eq h hvalue
  rw [ofBoard, Double.floor_quarter hboards, if_pos ⟨hfinite, hfinite'⟩, Double.floor_eq, hvalue,
    Int.floor_intCast]

/-- The boards up to `2 ^ 52` and the sixteen behind each of them are counted in 53 digits. -/
theorem ofBoard_eq_of_le (hlo : 1 ≤ n) (hhi : n ≤ 2 ^ 52 + 16) :
    ofBoard n = .ok (ofTurn (n - 1 + (n - 1) / 4)) := by
  apply ofBoard_eq
  rw [abs_le]
  omega

/-! ## The circle -/

/-- **The dealer and the vulnerability are the number of a board modulo sixteen.** -/
theorem turns_iff {k : Int} {i j : Nat} (hi : i < 4) (hj : j < 4) :
    k % 4 = i ∧ (k + k / 4) % 4 = j ↔ k % 16 = i + 4 * (((j : Int) - i) % 4) := by
  -- the two digits of the number in base four, the lower one first
  have hdigits : ∀ m : Int, 0 ≤ m → m < 4 →
      (k % 4 = i ∧ k / 4 % 4 = m ↔ k % 16 = i + 4 * m) := fun m _ _ => by omega
  calc k % 4 = i ∧ (k + k / 4) % 4 = j
      ↔ k % 4 = i ∧ k / 4 % 4 = ((j : Int) - i) % 4 := by omega
    _ ↔ k % 16 = i + 4 * (((j : Int) - i) % 4) :=
        hdigits _ (Int.emod_nonneg _ (by decide)) (Int.emod_lt_of_pos _ (by decide))

/-- **Sixteen boards are a circle, and the circle is exact.** The vulnerability of a board up to
`2 ^ 52`, although it is counted in rounded numbers, has the number that exact integers give: that of
the boards before it and every fourth of them once more, modulo four. Sixteen boards later the dealer
and the vulnerability are the same, and any sixteen boards in a row have every dealer with every
vulnerability exactly once. -/
theorem boards_come_round (hlo : 1 ≤ n) (hhi : n ≤ 2 ^ 52) :
    (∃ v, ofBoard n = .ok v ∧ (v.index : Int) = (n - 1 + (n - 1) / 4) % 4) ∧
      Seat.ofBoard (n + 16) = Seat.ofBoard n ∧ ofBoard (n + 16) = ofBoard n ∧
      ∀ dealer v, ∃! board, (n ≤ board ∧ board < n + 16) ∧ Seat.ofBoard board = dealer ∧
        ofBoard board = .ok v := by
  have hexact : ∀ board, n ≤ board → board ≤ n + 16 →
      ofBoard board = .ok (ofTurn (board - 1 + (board - 1) / 4)) :=
    fun board hfirst hlast => ofBoard_eq_of_le (by omega) (by omega)
  refine ⟨⟨_, hexact n (by omega) (by omega), isCircle.index_ofTurn _⟩, ?_, ?_, fun dealer v => ?_⟩
  · rw [Seat.ofBoard_eq_iff, Seat.ofBoard, Seat.isCircle.index_ofTurn]
    omega
  · rw [hexact n (by omega) (by omega), hexact (n + 16) (by omega) (by omega), Except.ok.injEq,
      isCircle.ofTurn_eq_iff, isCircle.index_ofTurn]
    omega
  · have hdealer := Seat.isCircle.index_lt_four dealer
    have hv := isCircle.index_lt_four v
    have hmeets : ∀ board, n ≤ board → board < n + 16 →
        (Seat.ofBoard board = dealer ∧ ofBoard board = .ok v ↔
          (board - 1) % 16 = dealer.index + 4 * (((v.index : Int) - dealer.index) % 4)) := by
      intro board hfirst hlast
      rw [hexact board hfirst hlast.le, Seat.ofBoard_eq_iff, Except.ok.injEq,
        isCircle.ofTurn_eq_iff, turns_iff hdealer hv]
    obtain ⟨r, hr⟩ : ∃ r : Int, r = dealer.index + 4 * (((v.index : Int) - dealer.index) % 4) :=
      ⟨_, rfl⟩
    rw [← hr] at hmeets
    refine ⟨n + (r + 1 - n) % 16, ⟨⟨by omega, by omega⟩, ?_⟩, ?_⟩
    · rw [hmeets _ (by omega) (by omega)]
      omega
    · rintro board ⟨⟨hfirst, hlast⟩, hboard⟩
      rw [hmeets board hfirst hlast] at hboard
      omega

/-- At the last board that this is said of: west deals it with east and west vulnerable, and so it is
sixteen boards later. -/
theorem boards_come_round_last :
    ofBoard (2 ^ 52) = .ok .eastWest ∧ ofBoard (2 ^ 52 + 16) = .ok .eastWest ∧
      Seat.ofBoard (2 ^ 52 + 16) = .west ∧
      ∃! board, ((2 : Int) ^ 52 ≤ board ∧ board < 2 ^ 52 + 16) ∧ Seat.ofBoard board = .north ∧
        ofBoard board = .ok .both := by
  obtain ⟨⟨v, hv, hindex⟩, hdealer, hround, hpairs⟩ :=
    boards_come_round (n := 2 ^ 52) (by norm_num) le_rfl
  have heastWest : v = .eastWest := by
    rw [← ofTurn_index v, hindex]
    rfl
  rw [heastWest] at hv
  exact ⟨hv, hround.trans hv, hdealer.trans rfl, hpairs .north .both⟩

end Vulnerability

end ContractBridge
