/-
Taking cards out of a set in place.

A draw in place has one state, the set, and may fail at any of its stages: at the number, at the
source, and at every mask of the draw itself. What it does to the set is settled here. If it ends
well, the set is cut in two, the cards that are given and the cards that stay, and the number given
is the number asked for. If it fails, the set is what it was, whichever stage failed and however
many cards had been decided by then: these are in the draw, not in the set. `DrawFault` says what
can fail, and a draw in place fails for these causes and for no other.
-/
import ContractBridge.Proofs.CardSet.Draw

set_option autoImplicit false

namespace ContractBridge

open MaskSource

/-- **What a draw of `n` cards from a set fails for,** stage by stage. -/
inductive DrawFault (s : CardSet) (n : Int) (setting : SourceSetting) : Error → Prop
  | negative : n < 0 → DrawFault s n setting (.negativeDraw n)
  | tooMany : (s.size : Int) < n → DrawFault s n setting (.notEnoughCards n s.size)
  | source {e : Error} : 0 ≤ n → n ≤ s.size → setting.resolve = .error e → DrawFault s n setting e
  /-- No first masks of the source bring the draw to its end. -/
  | usedUp {src : MaskSource} : 0 ≤ n → n ≤ s.size → setting.resolve = .ok src →
      (∀ used rest d, Yields src used rest →
        ¬ Feeds Draw.isDone Draw.step (.start s n.toNat) used d) →
      DrawFault s n setting .sourceExhausted

namespace CardSet

variable {s : CardSet} {n : Int} {setting : SourceSetting} {e : Error} {drawn : Drawn}

/-! ## The stages -/

theorem drawWith_of_checkDraw_error (h : s.checkDraw n = .error e) :
    (s.drawWith n setting).1 = .error e := by
  rw [drawWith, h]

theorem drawWith_of_resolve_error {k : Nat} (hcheck : s.checkDraw n = .ok k)
    (h : setting.resolve = .error e) : (s.drawWith n setting).1 = .error e := by
  rw [drawWith, hcheck, h]

/-- Behind the checks there is the draw itself. -/
theorem drawWith_of_ok {k : Nat} {src : MaskSource} (hcheck : s.checkDraw n = .ok k)
    (h : setting.resolve = .ok src) :
    (∃ drawn rest, s.drawFrom k src = .ok drawn rest ∧ (s.drawWith n setting).1 = .ok drawn) ∨
      ∃ rest, s.drawFrom k src = .error .sourceExhausted rest ∧
        (s.drawWith n setting).1 = .error .sourceExhausted := by
  cases hdraw : s.drawFrom k src with
  | ok drawn rest =>
    refine .inl ⟨drawn, rest, rfl, ?_⟩
    simp only [drawWith, hcheck, h, hdraw]
  | error e rest =>
    obtain ⟨rfl, -⟩ := drawFrom_eq_error hdraw
    refine .inr ⟨rest, rfl, ?_⟩
    simp only [drawWith, hcheck, h, hdraw]

/-- A draw fails for the causes of `DrawFault`. -/
theorem drawWith_eq_error_iff :
    (s.drawWith n setting).1 = .error e ↔ DrawFault s n setting e := by
  constructor
  · intro hdraw
    rcases checkDraw_cases s n with ⟨hneg, hcheck⟩ | ⟨hmany, hcheck⟩ | ⟨hnonneg, hle, hcheck⟩
    · cases (drawWith_of_checkDraw_error hcheck).symm.trans hdraw
      exact .negative hneg
    · cases (drawWith_of_checkDraw_error hcheck).symm.trans hdraw
      exact .tooMany hmany
    · cases hresolve : setting.resolve with
      | error e' =>
        cases (drawWith_of_resolve_error hcheck hresolve).symm.trans hdraw
        exact .source hnonneg hle hresolve
      | ok src =>
        rcases drawWith_of_ok hcheck hresolve with ⟨_, _, -, hok⟩ | ⟨rest, hfrom, hfails⟩
        · cases hok.symm.trans hdraw
        · cases hfails.symm.trans hdraw
          refine .usedUp hnonneg hle hresolve fun used left d hyields hfeeds => ?_
          -- masks that end the draw would have let it end well
          have hends := drawFrom_eq_ok_iff.2 ⟨used, d, hyields, hfeeds, rfl⟩
          cases hfrom.symm.trans hends
  · intro hfault
    rcases checkDraw_cases s n with ⟨hneg, hcheck⟩ | ⟨hmany, hcheck⟩ | ⟨hnonneg, hle, hcheck⟩
    · cases hfault with
      | negative _ => exact drawWith_of_checkDraw_error hcheck
      | tooMany _ | source _ _ _ | usedUp _ _ _ _ => omega
    · cases hfault with
      | tooMany _ => exact drawWith_of_checkDraw_error hcheck
      | negative _ | source _ _ _ | usedUp _ _ _ _ => omega
    · cases hfault with
      | negative _ | tooMany _ => omega
      | source _ _ hresolve => exact drawWith_of_resolve_error hcheck hresolve
      | usedUp _ _ hresolve hnone =>
        rcases drawWith_of_ok hcheck hresolve with ⟨_, _, hfrom, -⟩ | ⟨_, -, hfails⟩
        · obtain ⟨used, d, hyields, hfeeds, -⟩ := drawFrom_eq_ok_iff.1 hfrom
          exact absurd hfeeds (hnone _ _ _ hyields)
        · exact hfails

/-- A draw that ends well gives as many cards of the set as were asked for. -/
theorem isOf_of_drawWith (hs : s.IsFinite) (h : (s.drawWith n setting).1 = .ok drawn) :
    ∃ k : Nat, n = k ∧ drawn.IsOf s k := by
  rcases checkDraw_cases s n with ⟨-, hcheck⟩ | ⟨-, hcheck⟩ | ⟨hnonneg, hle, hcheck⟩
  · cases (drawWith_of_checkDraw_error hcheck).symm.trans h
  · cases (drawWith_of_checkDraw_error hcheck).symm.trans h
  · cases hresolve : setting.resolve with
    | error e => cases (drawWith_of_resolve_error hcheck hresolve).symm.trans h
    | ok src =>
      obtain ⟨k, rfl⟩ := Int.eq_ofNat_of_zero_le hnonneg
      rcases drawWith_of_ok hcheck hresolve with ⟨_, rest, hfrom, hok⟩ | ⟨_, -, hfails⟩
      · cases hok.symm.trans h
        have hrun : s.draw k src = .ok drawn rest := by
          rw [draw_of_le (by omega)]
          exact hfrom
        exact ⟨k, rfl, isOf_of_draw hs hrun⟩
      · cases hfails.symm.trans h

/-! ## The set afterwards -/

/-- A draw in place puts back what is left, and nothing if there is an error. -/
theorem takeOut_cases (s : CardSet) (n : Int) (setting : SourceSetting) :
    (∃ drawn, (s.drawWith n setting).1 = .ok drawn ∧
      takeOut n setting s = .ok drawn.given drawn.rest) ∨
    ∃ e, (s.drawWith n setting).1 = .error e ∧ takeOut n setting s = .error e s := by
  unfold takeOut
  cases hdraw : (s.drawWith n setting).1 with
  | ok drawn =>
    refine .inl ⟨drawn, rfl, estate_bind_eq_ok_iff.2 ⟨s, s, rfl, ?_⟩⟩
    rw [hdraw]
    rfl
  | error e =>
    refine .inr ⟨e, rfl, estate_bind_eq_error_iff.2 (.inr ⟨s, s, rfl, ?_⟩)⟩
    rw [hdraw]
    rfl

/-- **Cards are taken out of a set as asked, or the set stays as it was.** A draw in place that ends
well gives `n` cards of the set, and the set is left without just these. One that fails leaves the
set unchanged, and it fails exactly for the causes of `DrawFault`: a negative number, more cards
than there are, a source that is none, or masks that run out before the draw is done. -/
theorem takeOut_cuts_or_keeps (hs : s.IsFinite) (n : Int) (setting : SourceSetting) :
    (∀ given rest, takeOut n setting s = .ok given rest →
      (given.size : Int) = n ∧ given.subset s = true ∧ rest = s \ given) ∧
    ∀ e rest, takeOut n setting s = .error e rest ↔ rest = s ∧ DrawFault s n setting e := by
  rcases takeOut_cases s n setting with ⟨drawn, hdraw, htake⟩ | ⟨e, hdraw, htake⟩
  · refine ⟨fun given rest h => ?_, fun e rest => ⟨fun h => ?_, ?_⟩⟩
    · cases htake.symm.trans h
      obtain ⟨k, rfl, hof⟩ := isOf_of_drawWith hs hdraw
      exact ⟨by rw [hof.given_size], subset_iff.2 hof.given_imp, hof.rest_eq⟩
    · cases htake.symm.trans h
    · rintro ⟨-, hfault⟩
      cases hdraw.symm.trans (drawWith_eq_error_iff.2 hfault)
  · refine ⟨fun given rest h => ?_, fun e' rest => ⟨fun h => ?_, ?_⟩⟩
    · cases htake.symm.trans h
    · cases htake.symm.trans h
      exact ⟨rfl, drawWith_eq_error_iff.1 hdraw⟩
    · rintro ⟨rfl, hfault⟩
      cases hdraw.symm.trans (drawWith_eq_error_iff.2 hfault)
      exact htake

/-- Two cards out of the ace, king, queen and jack of spades. The one mask `0x4000` decides the ace
and is not enough, and the four cards are still there. With `0x6000` behind it, the ace and the king
are given. -/
theorem takeOut_cuts_or_keeps_honours :
    (⟨0x7800⟩ : CardSet).IsFinite ∧
    (∃ e rest, takeOut 2 (.given (.ofScript [0x4000])) ⟨0x7800⟩ = .error e rest ∧
      rest = ⟨0x7800⟩ ∧ DrawFault ⟨0x7800⟩ 2 (.given (.ofScript [0x4000])) e) ∧
    ∃ rest, takeOut 2 (.given (.ofScript [0x4000, 0x6000])) ⟨0x7800⟩ = .ok ⟨0x6000⟩ rest ∧
      ((⟨0x6000⟩ : CardSet).size : Int) = 2 ∧ rest = ⟨0x7800⟩ \ ⟨0x6000⟩ := by
  have hs : (⟨0x7800⟩ : CardSet).IsFinite := by decide
  refine ⟨hs, ?_, ?_⟩
  · have hshort : ∃ e rest, takeOut 2 (.given (.ofScript [0x4000])) ⟨0x7800⟩ = .error e rest :=
      ⟨_, _, rfl⟩
    obtain ⟨e, rest, hshort⟩ := hshort
    exact ⟨e, rest, hshort, ((takeOut_cuts_or_keeps hs 2 _).2 e rest).1 hshort⟩
  · have henough : ∃ rest,
        takeOut 2 (.given (.ofScript [0x4000, 0x6000])) ⟨0x7800⟩ = .ok ⟨0x6000⟩ rest := ⟨_, rfl⟩
    obtain ⟨rest, henough⟩ := henough
    obtain ⟨hsize, -, hrest⟩ := (takeOut_cuts_or_keeps hs 2 _).1 _ _ henough
    exact ⟨rest, henough, hsize, hrest⟩

end CardSet

end ContractBridge
