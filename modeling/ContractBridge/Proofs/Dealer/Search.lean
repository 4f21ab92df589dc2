/-
The attempts of a dealer.

A search makes attempts until one is accepted, and each attempt changes the session. `settle` is
what an attempt does with the hands that it drew, `Rejected` strings together attempts that were
all turned down, and `search_eq_ok_iff` says that a search gives hands exactly if some number of
attempts below the limit is turned down and the next one is accepted.

Attempts look at the masks of a session only through the hands that they draw. So a run of
rejected attempts is the same on any other source that begins with the masks they took
(`Rejected.exists_used`).
-/
import ContractBridge.Proofs.Dealer.Filling

set_option autoImplicit false

namespace ContractBridge

open MaskSource Drawing

/-! ## What the rule says -/

namespace DealerSession

/-- The verdict of the session's rule; without one everything is accepted. -/
def verdict (s : DealerSession) (hands : Hands) : Except Error Bool :=
  s.rule.elim (.ok true) fun rule => rule.judge hands

/-- The session after its rule was called. -/
def heard (s : DealerSession) (hands : Hands) : DealerSession :=
  { s with rule := s.rule.map fun rule => (rule.call hands).after
           cancelled := s.cancelled || s.rule.elim false fun rule => (rule.call hands).cancels }

end DealerSession

namespace Dealer

variable {d : Dealer} {s t u : DealerSession} {hands kept : Hands} {r : Option Hands}

/-! ## One attempt -/

/-- What is done with four hands: the descriptors are asked first, and the rule if they accept. -/
def settle (d : Dealer) (hands : Hands) : Dealing (Option Hands) := fun s =>
  match d.fits hands with
  | .error e => .error e s
  | .ok false => .ok none s
  | .ok true =>
    match s.verdict hands with
    | .error e => .error e (s.heard hands)
    | .ok verdict => .ok (if verdict then some hands else none) (s.heard hands)

theorem consult_eq (s : DealerSession) (hands : Hands) : consult hands s =
    match s.verdict hands with
    | .ok verdict => .ok verdict (s.heard hands)
    | .error e => .error e (s.heard hands) := by
  obtain ⟨source, rule, cancelled⟩ := s
  match rule with
  | none =>
    simp only [consult, DealerSession.verdict, DealerSession.heard, Option.elim_none,
      Option.map_none, Bool.or_false]
  | some rule => rfl

/-- **An attempt draws hands and settles what becomes of them.** -/
theorem attempt_eq (d : Dealer) : d.attempt = drawing d.drawHands >>= d.settle := by
  unfold attempt
  congr 1
  funext hands s
  rw [settle]
  cases hfits : d.fits hands with
  | error e => rfl
  | ok fits =>
    match fits with
    | false => rfl
    | true =>
      -- only hands that the descriptors accept are shown to the rule
      show (consult hands >>= _) s = _
      show EStateM.bind (consult hands) _ s = _
      rw [EStateM.bind, consult_eq]
      cases s.verdict hands with
      | error e => rfl
      | ok verdict => cases verdict <;> rfl

theorem drawing_eq_ok_iff {α : Type} {x : Drawing α} {a : α} : drawing x s = .ok a t ↔
    ∃ source, x s.source = .ok a source ∧ t = { s with source } := by
  rw [drawing]
  cases x s.source with
  | ok b source =>
    constructor
    · intro h
      cases h
      exact ⟨source, rfl, rfl⟩
    · rintro ⟨_, h, rfl⟩
      cases h
      rfl
  | error e source =>
    constructor
    · intro h
      cases h
    · rintro ⟨_, h, -⟩
      cases h

theorem attempt_eq_ok_iff : d.attempt s = .ok r t ↔ ∃ hands source,
    d.drawHands s.source = .ok hands source ∧ d.settle hands { s with source } = .ok r t := by
  rw [attempt_eq, estate_bind_eq_ok_iff]
  constructor
  · rintro ⟨hands, _, hdraw, hsettle⟩
    obtain ⟨source, hhands, rfl⟩ := drawing_eq_ok_iff.1 hdraw
    exact ⟨hands, source, hhands, hsettle⟩
  · rintro ⟨hands, source, hhands, hsettle⟩
    exact ⟨hands, _, drawing_eq_ok_iff.2 ⟨source, hhands, rfl⟩, hsettle⟩

/-- Hands are kept exactly if the descriptors and the rule accept them. -/
theorem settle_eq_some_iff : d.settle hands s = .ok (some kept) t ↔
    d.fits hands = .ok true ∧ s.verdict hands = .ok true ∧ kept = hands ∧ t = s.heard hands := by
  rw [settle]
  constructor
  · intro h
    split at h
    · cases h
    · cases h
    · rename_i hfits
      split at h
      · cases h
      · rename_i verdict hverdict
        cases verdict with
        | false => cases h
        | true =>
          cases h
          exact ⟨hfits, hverdict, rfl, rfl⟩
  · rintro ⟨hfits, hverdict, rfl, rfl⟩
    simp only [hfits, hverdict, if_true]

/-- What becomes of four hands does not depend on the masks that are left. -/
theorem settle_with_source (h : d.settle hands s = .ok r t) :
    t.source = s.source ∧
      ∀ source, d.settle hands { s with source } = .ok r { t with source } := by
  rw [settle] at h
  have hverdict : ∀ source,
      ({ s with source } : DealerSession).verdict hands = s.verdict hands := fun _ => rfl
  split at h
  · cases h
  · rename_i hfits
    cases h
    refine ⟨rfl, ?_⟩
    intro source
    rw [settle, hfits]
  · rename_i hfits
    split at h
    · cases h
    · rename_i verdict hs
      cases h
      refine ⟨rfl, ?_⟩
      intro source
      rw [settle, hfits]
      simp only [hverdict, hs]
      rfl

/-! ## Several attempts -/

/-- **So many attempts in a row were turned down,** and no cancellation was noticed before any of
them. -/
inductive Rejected (d : Dealer) (watched : Bool) : Nat → DealerSession → DealerSession → Prop
  | zero (s : DealerSession) : Rejected d watched 0 s s
  | succ {n : Nat} {s t u : DealerSession} : (watched && s.cancelled) = false →
      d.attempt s = .ok none t → Rejected d watched n t u → Rejected d watched (n + 1) s u

variable {watched : Bool} {n m : Nat}

/-- One step of a search. -/
theorem search_succ (exhausted : Error) (fuel rejected : Nat) (s : DealerSession) :
    d.search watched exhausted (fuel + 1) rejected s =
      if watched && s.cancelled then .error (.cancelled rejected) s
      else match d.attempt s with
        | .ok (some hands) t => .ok hands t
        | .ok none t => d.search watched exhausted fuel (rejected + 1) t
        | .error e t => .error e t := by
  rw [search]
  have hget : (EStateM.get s : EStateM.Result Error _ _) = .ok s s := rfl
  show EStateM.bind EStateM.get _ s = _
  rw [EStateM.bind, hget]
  cases hseen : watched && s.cancelled with
  | true => simp only [hseen]; rfl
  | false =>
    simp only [hseen]
    show EStateM.bind d.attempt _ s = _
    rw [EStateM.bind]
    cases d.attempt s with
    | error e t => rfl
    | ok r t => cases r <;> rfl

/-- **A search gives hands exactly if some attempts are turned down and the next is accepted,**
all of them within the limit. -/
theorem search_eq_ok_iff {exhausted : Error} {fuel rejected : Nat} :
    d.search watched exhausted fuel rejected s = .ok hands t ↔
      ∃ n u, n < fuel ∧ Rejected d watched n s u ∧ (watched && u.cancelled) = false ∧
        d.attempt u = .ok (some hands) t := by
  -- a search that goes on has one more rejected attempt in front
  induction fuel generalizing rejected s with
  | zero =>
    constructor
    · intro h
      cases h
    · rintro ⟨n, u, hn, -⟩
      cases hn
  | succ fuel ih =>
    rw [search_succ]
    constructor
    · intro h
      split at h
      · cases h
      · rename_i hseen
        rw [Bool.not_eq_true] at hseen
        split at h
        · rename_i hattempt
          cases h
          exact ⟨0, s, Nat.succ_pos fuel, .zero s, hseen, hattempt⟩
        · rename_i hattempt
          obtain ⟨n, u, hn, hrejected, hlast⟩ := ih.1 h
          exact ⟨n + 1, u, Nat.succ_lt_succ hn, .succ hseen hattempt hrejected, hlast⟩
        · cases h
    · rintro ⟨n, u, hn, hrejected, hseen, hattempt⟩
      cases hrejected with
      | zero => rw [hseen, if_neg Bool.false_ne_true, hattempt]
      | succ hfirst hnone hrejected =>
        rw [hfirst, if_neg Bool.false_ne_true, hnone]
        exact ih.2 ⟨_, u, Nat.lt_of_succ_lt_succ hn, hrejected, hseen, hattempt⟩

/-- **A search fails exactly if all attempts within the limit are turned down,** or, after some of
them, a cancellation is noticed or an attempt fails. -/
theorem search_eq_error_iff {exhausted e : Error} {fuel rejected : Nat} :
    d.search watched exhausted fuel rejected s = .error e t ↔
      (Rejected d watched fuel s t ∧ e = exhausted) ∨
      ∃ n u, n < fuel ∧ Rejected d watched n s u ∧
        ((watched && u.cancelled) = true ∧ e = .cancelled (rejected + n) ∧ t = u ∨
          (watched && u.cancelled) = false ∧ d.attempt u = .error e t) := by
  induction fuel generalizing rejected s with
  | zero =>
    constructor
    · intro h
      cases h
      exact .inl ⟨.zero _, rfl⟩
    · rintro (⟨hrejected, rfl⟩ | ⟨n, u, hn, -⟩)
      · cases hrejected
        rfl
      · cases hn
  | succ fuel ih =>
    rw [search_succ]
    constructor
    · intro h
      split at h
      · rename_i hseen
        cases h
        exact .inr ⟨0, _, Nat.succ_pos fuel, .zero _, .inl ⟨hseen, rfl, rfl⟩⟩
      · rename_i hseen
        rw [Bool.not_eq_true] at hseen
        split at h
        · cases h
        · rename_i hattempt
          rcases ih.1 h with ⟨hrejected, he⟩ | ⟨n, u, hn, hrejected, hlast⟩
          · exact .inl ⟨.succ hseen hattempt hrejected, he⟩
          · refine .inr ⟨n + 1, u, Nat.succ_lt_succ hn, .succ hseen hattempt hrejected, ?_⟩
            rwa [Nat.add_assoc, Nat.add_comm 1] at hlast
        · rename_i hattempt
          cases h
          exact .inr ⟨0, s, Nat.succ_pos fuel, .zero s, .inr ⟨hseen, hattempt⟩⟩
    · rintro (⟨hrejected, rfl⟩ | ⟨n, u, hn, hrejected, hlast⟩)
      · cases hrejected with
        | succ hfirst hnone hrejected =>
          rw [hfirst, if_neg Bool.false_ne_true, hnone]
          exact ih.2 (.inl ⟨hrejected, rfl⟩)
      · cases hrejected with
        | zero =>
          rcases hlast with ⟨hseen, rfl, rfl⟩ | ⟨hseen, hattempt⟩
          · rw [hseen, if_pos rfl, Nat.add_zero]
          · rw [hseen, if_neg Bool.false_ne_true, hattempt]
        | @succ n _ _ _ hfirst hnone hrejected =>
          rw [hfirst, if_neg Bool.false_ne_true, hnone]
          refine ih.2 (.inr ⟨n, u, Nat.lt_of_succ_lt_succ hn, hrejected, ?_⟩)
          rwa [Nat.add_assoc, Nat.add_comm 1]

/-- How many attempts a dealer makes at most. -/
def limit (d : Dealer) (s : DealerSession) : Nat := d.maxAttempts.getD (horizon s)

/-- What is said when all of them are turned down. -/
def exhausted (d : Dealer) : Error := d.maxAttempts.elim .endless fun limit => .unsatisfied limit

theorem accepted_eq (d : Dealer) (watched : Bool) (s : DealerSession) :
    d.accepted watched s = d.search watched d.exhausted (d.limit s) 0 s := by
  rw [accepted, exhausted, limit]
  cases d.maxAttempts <;> rfl

theorem accepted_eq_ok_iff : d.accepted watched s = .ok hands t ↔
    ∃ n u, n < d.limit s ∧ Rejected d watched n s u ∧ (watched && u.cancelled) = false ∧
      d.attempt u = .ok (some hands) t := by
  rw [accepted_eq]
  exact search_eq_ok_iff

/-- Rejected attempts lead to one session only. -/
theorem Rejected.eq (hu : Rejected d watched n s u) (ht : Rejected d watched n s t) : u = t := by
  induction hu with
  | zero =>
    cases ht
    rfl
  | succ _ hnone _ ih =>
    cases ht with
    | succ _ hnone' ht =>
      rw [hnone] at hnone'
      cases hnone'
      exact ih ht

/-- The last of some rejected attempts. -/
theorem Rejected.exists_last (h : Rejected d watched (n + 1) s t) :
    ∃ u, Rejected d watched n s u ∧ (watched && u.cancelled) = false ∧
      d.attempt u = .ok none t := by
  induction n generalizing s with
  | zero =>
    cases h with
    | succ hseen hnone hrest =>
      cases hrest
      exact ⟨s, .zero s, hseen, hnone⟩
  | succ n ih =>
    cases h with
    | succ hseen hnone hrest =>
      obtain ⟨u, hrejected, hlast⟩ := ih hrest
      exact ⟨u, .succ hseen hnone hrejected, hlast⟩

/-- The first of some rejected attempts. -/
theorem Rejected.exists_first (h : Rejected d watched n s t) (hle : m ≤ n) :
    ∃ u, Rejected d watched m s u := by
  induction h generalizing m with
  | zero s =>
    obtain rfl := Nat.le_zero.1 hle
    exact ⟨s, .zero s⟩
  | @succ _ s _ _ hseen hnone _ ih =>
    cases m with
    | zero => exact ⟨s, .zero s⟩
    | succ m =>
      obtain ⟨u, hrejected⟩ := ih (Nat.le_of_succ_le_succ hle)
      exact ⟨u, .succ hseen hnone hrejected⟩

/-- The attempt that is accepted is the first one that is not turned down. -/
theorem Rejected.unique {w : DealerSession} {t' w' : DealerSession} {other : Hands}
    (hu : Rejected d watched n s u) (hw : Rejected d watched m s w)
    (hkept : d.attempt u = .ok (some kept) t') (hother : d.attempt w = .ok (some other) w') :
    n = m ∧ u = w := by
  induction hu generalizing m with
  | zero =>
    cases hw with
    | zero => exact ⟨rfl, rfl⟩
    | succ _ hnone _ =>
      rw [hkept] at hnone
      cases hnone
  | succ _ hnone _ ih =>
    cases hw with
    | zero =>
      rw [hother] at hnone
      cases hnone
    | succ _ hnone' hw =>
      rw [hnone] at hnone'
      cases hnone'
      obtain ⟨hn, hsame⟩ := ih hw hkept
      exact ⟨by rw [hn], hsame⟩

/-! ## The masks of the attempts -/

theorem isLocal_fillSeat (held : Option CardSet) (deck : CardSet) :
    IsLocal (fillSeat held deck) := by
  rw [fillSeat_eq]
  by_cases h : (held.getD ∅).size < handSize
  · rw [if_pos h]
    exact (CardSet.isLocal_draw _).bind fun _ => isLocal_pure _
  · rw [if_neg h]
    exact isLocal_pure _

theorem isLocal_drawHands (d : Dealer) : IsLocal d.drawHands := by
  refine (isLocal_fillSeat _ _).bind fun north => ?_
  refine (isLocal_fillSeat _ _).bind fun east => ?_
  refine (isLocal_fillSeat _ _).bind fun south => ?_
  exact (isLocal_fillSeat _ _).bind fun _ => isLocal_pure _

/-- **An attempt depends on the masks that it takes and on no others.** -/
theorem exists_used_of_attempt (h : d.attempt s = .ok r t) :
    ∃ used, Yields s.source used t.source ∧ ∀ ⦃source rest⦄, Yields source used rest →
      d.attempt { s with source } = .ok r { t with source := rest } := by
  obtain ⟨hands, mid, hdraw, hsettle⟩ := attempt_eq_ok_iff.1 h
  obtain ⟨used, hyields, htakes⟩ := isLocal_drawHands d hdraw
  obtain ⟨hsource, hother⟩ := settle_with_source hsettle
  refine ⟨used, by rw [hsource]; exact hyields, ?_⟩
  intro source rest hrest
  exact attempt_eq_ok_iff.2 ⟨hands, rest, htakes hrest, hother rest⟩

/-- **Rejected attempts depend on the masks that they take and on no others.** -/
theorem Rejected.exists_used (h : Rejected d watched n s u) :
    ∃ used, Yields s.source used u.source ∧ ∀ ⦃source rest⦄, Yields source used rest →
      Rejected d watched n { s with source } { u with source := rest } := by
  induction h with
  | zero s =>
    refine ⟨[], .nil _, ?_⟩
    intro source rest hrest
    cases hrest
    exact .zero _
  | succ hseen hnone _ ih =>
    obtain ⟨first, hfirst, hattempt⟩ := exists_used_of_attempt hnone
    obtain ⟨others, hothers, hrejected⟩ := ih
    refine ⟨first ++ others, hfirst.append hothers, ?_⟩
    intro source rest hrest
    obtain ⟨mid, hmid, hrest⟩ := hrest.split
    exact .succ hseen (hattempt hmid) (hrejected hrest)

end Dealer

end ContractBridge
