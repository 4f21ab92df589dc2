/-
Several deals, one after the other.

`Calls` lists what a number of calls give that all succeed, each going on from the session that the
one before it left. The number that a call asks for goes into its deal and nowhere else
(`deal_renumber`), so calls with other numbers give the same hands and fail in the same place. Dealing
several hands is a number of calls, with the numbers of the boards: it succeeds where they all do, and
otherwise it fails as the first of them that fails.
-/
import ContractBridge.Proofs.Dealer.Outcome
import ContractBridge.Proofs.Vulnerability

set_option autoImplicit false

namespace ContractBridge

namespace Dealer

variable {d : Dealer} {watched : Bool} {s t u : DealerSession} {number : Nat → Int}
  {deal : Deal} {deals called called' : List Deal} {n m : Nat} {e : Error}

/-! ## One call with another number -/

/-- **The number that is asked for goes into the deal and nowhere else.** -/
theorem deal_renumber {k : Int} (k' : Int) (h : d.deal k watched s = .ok deal t) :
    d.deal k' watched s = .ok { deal with number := k' } t := by
  obtain ⟨hands, haccepted, hcheck, rfl⟩ := deal_eq_ok_iff.1 h
  exact deal_eq_ok_iff.2 ⟨hands, haccepted, hcheck, rfl⟩

theorem deal_eq_error_iff_renumber (k k' : Int) :
    d.deal k watched s = .error e t ↔ d.deal k' watched s = .error e t := by
  rw [deal_eq_error_iff, deal_eq_error_iff]

/-! ## Calls that all succeed -/

/-- **Some calls one after the other, all of which succeed.** The call after `n` others asks for the
number `number n`, and it goes on from the session that they left. -/
inductive Calls (d : Dealer) (watched : Bool) (number : Nat → Int) :
    Nat → DealerSession → List Deal → DealerSession → Prop
  | none (s : DealerSession) : Calls d watched number 0 s [] s
  | next {n : Nat} {s t u : DealerSession} {called : List Deal} {deal : Deal} :
      Calls d watched number n s called t → d.deal (number n) watched t = .ok deal u →
        Calls d watched number (n + 1) s (called ++ [deal]) u

theorem calls_succ_iff : d.Calls watched number (n + 1) s deals u ↔
    ∃ called t deal, d.Calls watched number n s called t ∧
      d.deal (number n) watched t = .ok deal u ∧ deals = called ++ [deal] := by
  constructor
  · intro h
    cases h with
    | next hcalls hdeal => exact ⟨_, _, _, hcalls, hdeal, rfl⟩
  · rintro ⟨called, t, deal, hcalls, hdeal, rfl⟩
    exact hcalls.next hdeal

theorem Calls.length_eq (h : d.Calls watched number n s called t) : called.length = n := by
  induction h with
  | none => rfl
  | next _ _ ih => rw [List.length_append, ih, List.length_singleton]

theorem Calls.vulnerability_eq (h : d.Calls watched number n s called t) (hdeal : deal ∈ called) :
    deal.vulnerability = d.vulnerability := by
  induction h with
  | none => exact absurd hdeal List.not_mem_nil
  | next _ hnext ih =>
    rcases List.mem_append.1 hdeal with hbefore | hlast
    · exact ih hbefore
    · obtain ⟨hands, -, -, heq⟩ := deal_eq_ok_iff.1 hnext
      rw [List.mem_singleton.1 hlast, heq]

/-- The deal of each call has the number that the call asks for. -/
theorem Calls.number_eq (h : d.Calls watched number n s called t) {i : Nat}
    (hi : called[i]? = some deal) : deal.number = number i := by
  have hnumbers : called.map (·.number) = (List.range n).map number := by
    clear hi
    induction h with
    | none => rfl
    | next _ hnext ih =>
      obtain ⟨hands, -, -, rfl⟩ := deal_eq_ok_iff.1 hnext
      rw [List.map_append, ih, List.range_succ, List.map_append, List.map_singleton,
        List.map_singleton]
  have hget : (called.map (·.number))[i]? = some deal.number := by
    rw [List.getElem?_map, hi, Option.map_some]
  have hlt : i < n := h.length_eq ▸ (List.getElem?_eq_some_iff.1 hi).1
  rw [hnumbers, List.getElem?_map, List.getElem?_range hlt, Option.map_some,
    Option.some.injEq] at hget
  exact hget.symm

/-- The deals of some calls with other numbers. -/
def renumbered (number : Nat → Int) (called : List Deal) : List Deal :=
  called.mapIdx fun i deal => { deal with number := number i }

/-- **Calls with other numbers give the same deals but for the numbers.** -/
theorem Calls.renumber (number' : Nat → Int) (h : d.Calls watched number n s called t) :
    d.Calls watched number' n s (renumbered number' called) t := by
  induction h with
  | none => exact .none _
  | next hcalls hdeal ih =>
    rw [renumbered, List.mapIdx_concat, hcalls.length_eq]
    exact ih.next (deal_renumber _ hdeal)

/-- **The first calls are calls that all succeed, too.** -/
theorem Calls.take (h : d.Calls watched number n s called t) (hm : m ≤ n) :
    ∃ u, d.Calls watched number m s (called.take m) u := by
  induction h with
  | none =>
    rw [Nat.le_zero.1 hm]
    exact ⟨_, .none _⟩
  | next hcalls hdeal ih =>
    rcases Nat.le_succ_iff.1 hm with hbefore | rfl
    · rw [List.take_append_of_le_length (hcalls.length_eq ▸ hbefore)]
      exact ih hbefore
    · have hall := hcalls.next hdeal
      rw [List.take_of_length_le hall.length_eq.le]
      exact ⟨_, hall⟩

/-! ## A list of calls -/

/-- A list of calls has its deals exactly if the calls all succeed. -/
theorem mapM_eq_ok_iff_calls :
    (List.range n).mapM (fun i => d.deal (number i) watched) s = .ok deals t ↔
      d.Calls watched number n s deals t := by
  induction n generalizing deals t with
  | zero =>
    constructor
    · intro h
      cases h
      exact .none s
    · intro h
      cases h
      rfl
  | succ n ih =>
    rw [List.range_succ, estate_mapM_concat_eq_ok_iff, calls_succ_iff]
    simp only [ih]

/-- It fails exactly if a call fails after others that all succeed, and it fails as that one. -/
theorem mapM_eq_error_iff_calls :
    (List.range n).mapM (fun i => d.deal (number i) watched) s = .error e t ↔
      ∃ k < n, ∃ called u, d.Calls watched number k s called u ∧
        d.deal (number k) watched u = .error e t := by
  induction n with
  | zero =>
    constructor
    · intro h
      cases h
    · rintro ⟨_, hk, -⟩
      exact absurd hk (Nat.not_lt_zero _)
  | succ n ih =>
    rw [List.range_succ, estate_mapM_concat_eq_error_iff, ih]
    simp only [mapM_eq_ok_iff_calls, Nat.lt_succ_iff_lt_or_eq, or_and_right, exists_or,
      exists_eq_left]

theorem Calls.eq (h : d.Calls watched number n s called t)
    (h' : d.Calls watched number n s called' u) : called = called' ∧ t = u := by
  have hsame := (mapM_eq_ok_iff_calls.2 h).symm.trans (mapM_eq_ok_iff_calls.2 h')
  cases hsame
  exact ⟨rfl, rfl⟩

/-! ## Several deals -/

/-- The number of a board after `i` others. -/
def boardNumber (i : Nat) : Int := (i % 128 + 1 : Nat)

theorem dealMany_eq_mapM {n : Int} (hn : 1 ≤ n) : d.dealMany n watched =
    (List.range n.toNat).mapM fun i => d.deal (boardNumber i) watched := by
  rw [dealMany, if_neg (by omega)]
  rfl

theorem dealMany_eq_ok_iff {n : Int} (hn : 1 ≤ n) : d.dealMany n watched s = .ok deals t ↔
    d.Calls watched boardNumber n.toNat s deals t := by
  rw [dealMany_eq_mapM hn, mapM_eq_ok_iff_calls]

/-- **The boards are the hands of any calls that all succeed,** numbered anew. -/
theorem dealMany_eq_ok_iff_renumbered {n : Int} (hn : 1 ≤ n) (number : Nat → Int) :
    d.dealMany n watched s = .ok deals t ↔ ∃ called,
      d.Calls watched number n.toNat s called t ∧ deals = renumbered boardNumber called := by
  rw [dealMany_eq_ok_iff hn]
  constructor
  · intro h
    have hcalls := h.renumber number
    exact ⟨_, hcalls, (h.eq (hcalls.renumber boardNumber)).1⟩
  · rintro ⟨called, hcalls, rfl⟩
    exact hcalls.renumber boardNumber

/-- **It fails as the first of the calls that fails.** -/
theorem dealMany_eq_error_iff {n : Int} (hn : 1 ≤ n) (number : Nat → Int) :
    d.dealMany n watched s = .error e t ↔ ∃ k < n.toNat, ∃ called u,
      d.Calls watched number k s called u ∧ d.deal (number k) watched u = .error e t := by
  rw [dealMany_eq_mapM hn, mapM_eq_error_iff_calls]
  -- with any numbers the calls before it all succeed, and it fails in the same way
  refine exists_congr fun k => and_congr_right fun _ => ⟨?_, ?_⟩
  · rintro ⟨called, u, hcalls, hfails⟩
    exact ⟨_, u, hcalls.renumber number, (deal_eq_error_iff_renumber _ _).1 hfails⟩
  · rintro ⟨called, u, hcalls, hfails⟩
    exact ⟨_, u, hcalls.renumber boardNumber, (deal_eq_error_iff_renumber _ _).1 hfails⟩

/-- The board dealers follow each other around the table, also where the numbers start again. -/
theorem index_ofBoard_boardNumber (i : Nat) : (Seat.ofBoard (boardNumber i)).index = i % 4 := by
  have hturn := Seat.isCircle.index_ofTurn (boardNumber i - 1)
  rw [boardNumber] at hturn ⊢
  rw [Seat.ofBoard]
  omega

/-- **Dealing several hands is dealing one after the other.** For any masks, and whatever numbers the
single calls ask for: `n` hands are dealt exactly if `n` calls in a row all succeed, and then they are
the hands of these calls in order, the session being left as the calls leave it. The boards are
numbered from 1 to 128 and then from 1 again, they have the dealer's vulnerability, and their dealers
follow each other around the table. If a call fails, it fails as the first call that does. Fewer
hands are the first of more hands, and where these fail, those fail in the same way. -/
theorem dealMany_is_succession {n : Int} (hn : 1 ≤ n) (d : Dealer) (watched : Bool)
    (s : DealerSession) (number : Nat → Int) :
    (∀ deals t, d.dealMany n watched s = .ok deals t ↔ ∃ called,
        d.Calls watched number n.toNat s called t ∧ deals = renumbered boardNumber called) ∧
      (∀ deals t, d.dealMany n watched s = .ok deals t → deals.length = n.toNat ∧
        ∀ (i : Nat) deal, deals[i]? = some deal → deal.number = (i % 128 + 1 : Nat) ∧
          deal.vulnerability = d.vulnerability ∧ deal.dealer.index = i % 4) ∧
      (∀ e t, d.dealMany n watched s = .error e t ↔ ∃ k < n.toNat, ∃ called u,
        d.Calls watched number k s called u ∧ d.deal (number k) watched u = .error e t) ∧
      ∀ m, 1 ≤ m → m ≤ n →
        (∀ deals t, d.dealMany n watched s = .ok deals t →
          ∃ u, d.dealMany m watched s = .ok (deals.take m.toNat) u) ∧
        ∀ e t, d.dealMany m watched s = .error e t → d.dealMany n watched s = .error e t := by
  refine ⟨fun deals t => dealMany_eq_ok_iff_renumbered hn number, fun deals t h => ?_,
    fun e t => dealMany_eq_error_iff hn number, fun m hm hmn => ⟨fun deals t h => ?_,
      fun e t h => ?_⟩⟩
  · have hcalls := (dealMany_eq_ok_iff hn).1 h
    refine ⟨hcalls.length_eq, fun i deal hi => ?_⟩
    have hnumber : deal.number = boardNumber i := hcalls.number_eq hi
    refine ⟨hnumber, hcalls.vulnerability_eq (List.mem_of_getElem? hi), ?_⟩
    rw [Deal.dealer, hnumber, index_ofBoard_boardNumber]
  · obtain ⟨u, hfirst⟩ := ((dealMany_eq_ok_iff hn).1 h).take (Int.toNat_le_toNat hmn)
    exact ⟨u, (dealMany_eq_ok_iff hm).2 hfirst⟩
  · obtain ⟨k, hk, hfails⟩ := (dealMany_eq_error_iff hm number).1 h
    exact (dealMany_eq_error_iff hn number).2
      ⟨k, hk.trans_le (Int.toNat_le_toNat hmn), hfails⟩

/-- Masks for two boards of the dealer that lays out the suits, two for each board. -/
def twoBoards : MaskSource :=
  .ofScript [0x400000000, 0x7fffffffffffffff, 0x400000000, 0x7fffffffffffffff]

/-- At two boards of that dealer: they are the hands of two calls that both ask for the number 1, and
the first board is the one that is dealt alone. -/
theorem dealMany_is_succession_two : ∃ deals called t u,
    suitDealer.dealMany 2 false { suitDealer.start false with source := twoBoards } =
        .ok deals t ∧
      suitDealer.Calls false (fun _ => 1) 2 { suitDealer.start false with source := twoBoards }
        called t ∧
      deals.map (·.number) = [1, 2] ∧ deals = renumbered boardNumber called ∧
      suitDealer.dealMany 1 false { suitDealer.start false with source := twoBoards } =
        .ok (deals.take 1) u := by
  have hruns : passes (fun deals _ => decide (deals.map (·.number) = [1, 2]))
      (suitDealer.dealMany 2 false { suitDealer.start false with source := twoBoards }) = true := by
    decide +kernel
  obtain ⟨deals, t, hdeals, hnumbers⟩ := exists_of_passes hruns
  obtain ⟨hcalls, -, -, hfewer⟩ := dealMany_is_succession (n := 2) (by decide) suitDealer false
    { suitDealer.start false with source := twoBoards } fun _ => 1
  obtain ⟨called, hcalled, hrenumbered⟩ := (hcalls deals t).1 hdeals
  obtain ⟨u, hfirst⟩ := (hfewer 1 (by decide) (by decide)).1 deals t hdeals
  exact ⟨deals, called, t, u, hdeals, hcalled, of_decide_eq_true hnumbers, hrenumbered, hfirst⟩

end Dealer

end ContractBridge
