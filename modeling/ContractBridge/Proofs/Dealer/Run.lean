/-
How a dealer's run ends.

The masks of a session give one sequence of hands, drawn one after the other whether or not they
are accepted (`drawTimes`), and what the descriptors and the rule say to four hands is the same
throughout a run (`judge_after`). So a run can be told without its intermediate sessions: `TurnsDown`
lists the hands that were turned down, `after` is the session that they leave, and `sees` says
whether a cancellation is seen then.

A dealer without a limit is given one by the size of its session. It never takes effect where the
run would end: an attempt that takes no mask is repeated in every later attempt, and by then the
rule has asked for all the cancellations that it asks for on these hands (`rejected_of_horizon`).
-/
import ContractBridge.Proofs.DealRule
import ContractBridge.Proofs.Dealer.Search

set_option autoImplicit false

namespace ContractBridge

open MaskSource Drawing

namespace Dealer

variable {d : Dealer} {watched : Bool} {s t u : DealerSession} {hands kept : Hands}
  {hs hs' : List Hands} {src mid rest : MaskSource} {n : Nat} {e : Error}

/-! ## Hands and what is said to them -/

/-- **Hands drawn one after the other,** accepted or not. -/
def drawTimes (d : Dealer) : Nat → Drawing (List Hands)
  | 0 => pure []
  | n + 1 => do
    let hands ← d.drawHands
    return hands :: (← d.drawTimes n)

theorem drawTimes_succ_eq_ok_iff : d.drawTimes (n + 1) src = .ok hs rest ↔
    ∃ hands mid hs', hs = hands :: hs' ∧ d.drawHands src = .ok hands mid ∧
      d.drawTimes n mid = .ok hs' rest := by
  rw [drawTimes, estate_bind_eq_ok_iff]
  constructor
  · rintro ⟨hands, mid, hdraw, h⟩
    obtain ⟨hs', _, hmore, h⟩ := estate_bind_eq_ok_iff.1 h
    cases h
    exact ⟨hands, mid, hs', rfl, hdraw, hmore⟩
  · rintro ⟨hands, mid, hs', rfl, hdraw, hmore⟩
    exact ⟨hands, mid, hdraw, estate_bind_eq_ok_iff.2 ⟨hs', rest, hmore, rfl⟩⟩

/-- **What the descriptors and the session's rule say to four hands.** -/
def judge (d : Dealer) (s : DealerSession) (hands : Hands) : Except Error Bool := do
  if ← d.fits hands then s.verdict hands else return false

/-- Whether four hands are shown to the rule. -/
def shows (d : Dealer) (hands : Hands) : Bool :=
  match d.fits hands with
  | .ok true => true
  | _ => false

/-- **The session after some hands,** with the masks that are left. -/
def after (d : Dealer) (s : DealerSession) (hs : List Hands) (source : MaskSource) :
    DealerSession where
  source := source
  rule := s.rule.map fun rule => rule.afterAll (hs.filter d.shows)
  cancelled := s.cancelled || s.rule.elim false fun rule => rule.asksWithin (hs.filter d.shows)

@[simp] theorem source_after : (d.after s hs src).source = src := rfl

theorem after_nil (d : Dealer) (s : DealerSession) (src : MaskSource) :
    d.after s [] src = { s with source := src } := by
  obtain ⟨source, rule, cancelled⟩ := s
  cases rule with
  | none => simp [after]
  | some rule => simp [after, DealRule.afterAll, DealRule.asksWithin]

theorem after_append (d : Dealer) (s : DealerSession) (hs hs' : List Hands)
    (src rest : MaskSource) :
    d.after (d.after s hs src) hs' rest = d.after s (hs ++ hs') rest := by
  obtain ⟨source, rule, cancelled⟩ := s
  cases rule with
  | none => simp [after]
  | some rule =>
    simp only [after, List.filter_append, Option.map_some, Option.elim_some,
      DealRule.afterAll_append, DealRule.asksWithin_append, Bool.or_assoc]

/-- **Hands that were drawn before do not change what is said to others.** -/
theorem judge_after (d : Dealer) (s : DealerSession) (hs : List Hands) (src : MaskSource)
    (hands : Hands) : d.judge (d.after s hs src) hands = d.judge s hands := by
  have hverdict : (d.after s hs src).verdict hands = s.verdict hands := by
    unfold DealerSession.verdict after
    cases s.rule with
    | none => rfl
    | some rule => exact DealRule.judge_afterAll _ _ _
  unfold judge
  rw [hverdict]

/-- One more call, where there is one. -/
theorem after_singleton (d : Dealer) (s : DealerSession) (hands : Hands) (src : MaskSource) :
    d.after s [hands] src =
      if d.shows hands then { s.heard hands with source := src } else { s with source := src } := by
  by_cases h : d.shows hands = true
  · have hfilter : [hands].filter d.shows = [hands] := by simp [h]
    rw [if_pos h]
    unfold after DealerSession.heard
    rw [hfilter]
    simp only [DealRule.afterAll, DealRule.asksWithin, List.foldl_cons, List.foldl_nil,
      Bool.or_false]
  · have hfilter : [hands].filter d.shows = [].filter d.shows := by simp [h]
    rw [if_neg h, ← after_nil]
    unfold after
    rw [hfilter]

/-! ## One attempt -/

theorem settle_eq (d : Dealer) (hands : Hands) (s : DealerSession) (src : MaskSource) :
    d.settle hands { s with source := src } = match d.judge s hands with
    | .ok verdict => .ok (if verdict then some hands else none) (d.after s [hands] src)
    | .error e => .error e (d.after s [hands] src) := by
  rw [after_singleton]
  unfold settle judge shows
  -- only hands that the descriptors accept are shown to the rule, and only these change it
  cases d.fits hands with
  | error e => rfl
  | ok fits =>
    cases fits with
    | false => rfl
    | true =>
      have hjudge : (do if ← Except.ok true then s.verdict hands else return false)
          = s.verdict hands := rfl
      have hverdict : ({ s with source := src } : DealerSession).verdict hands
          = s.verdict hands := rfl
      rw [hjudge, hverdict]
      cases s.verdict hands with
      | error e => rfl
      | ok verdict => rfl

/-- **One attempt draws four hands and goes by what is said to them.** -/
theorem attempt_eq_match (d : Dealer) (s : DealerSession) : d.attempt s =
    match d.drawHands s.source with
    | .error e rest => .error e (d.after s [] rest)
    | .ok hands rest =>
      match d.judge s hands with
      | .ok verdict => .ok (if verdict then some hands else none) (d.after s [hands] rest)
      | .error e => .error e (d.after s [hands] rest) := by
  rw [attempt_eq]
  show EStateM.bind (drawing d.drawHands) d.settle s = _
  rw [EStateM.bind, drawing]
  cases d.drawHands s.source with
  | error e rest => simp only [after_nil]
  | ok hands rest => exact settle_eq d hands s rest

theorem attempt_eq_verdict_iff {r : Option Hands} : d.attempt s = .ok r t ↔
    ∃ hands rest verdict, d.drawHands s.source = .ok hands rest ∧
      d.judge s hands = .ok verdict ∧ r = (if verdict then some hands else none) ∧
        t = d.after s [hands] rest := by
  rw [attempt_eq_match]
  constructor
  · intro h
    split at h
    · cases h
    · rename_i hands rest hdraw
      split at h
      · rename_i verdict hjudge
        cases h
        exact ⟨hands, rest, verdict, hdraw, hjudge, rfl, rfl⟩
      · cases h
  · rintro ⟨hands, rest, verdict, hdraw, hjudge, rfl, rfl⟩
    simp only [hdraw, hjudge]

theorem attempt_eq_none_iff : d.attempt s = .ok none t ↔ ∃ hands rest,
    d.drawHands s.source = .ok hands rest ∧ d.judge s hands = .ok false ∧
      t = d.after s [hands] rest := by
  rw [attempt_eq_verdict_iff]
  constructor
  · rintro ⟨hands, rest, verdict, hdraw, hjudge, hr, rfl⟩
    cases verdict with
    | true => cases hr
    | false => exact ⟨hands, rest, hdraw, hjudge, rfl⟩
  · rintro ⟨hands, rest, hdraw, hjudge, rfl⟩
    exact ⟨hands, rest, false, hdraw, hjudge, rfl, rfl⟩

theorem attempt_eq_some_iff : d.attempt s = .ok (some kept) t ↔ ∃ rest,
    d.drawHands s.source = .ok kept rest ∧ d.judge s kept = .ok true ∧
      t = d.after s [kept] rest := by
  rw [attempt_eq_verdict_iff]
  constructor
  · rintro ⟨hands, rest, verdict, hdraw, hjudge, hr, rfl⟩
    cases verdict with
    | false => cases hr
    | true =>
      cases hr
      exact ⟨rest, hdraw, hjudge, rfl⟩
  · rintro ⟨rest, hdraw, hjudge, rfl⟩
    exact ⟨kept, rest, true, hdraw, hjudge, rfl, rfl⟩

theorem attempt_eq_error_iff : d.attempt s = .error e t ↔
    (∃ rest, d.drawHands s.source = .error e rest ∧ t = d.after s [] rest) ∨
      ∃ hands rest, d.drawHands s.source = .ok hands rest ∧ d.judge s hands = .error e ∧
        t = d.after s [hands] rest := by
  rw [attempt_eq_match]
  constructor
  · intro h
    split at h
    · rename_i rest hdraw
      cases h
      exact .inl ⟨rest, hdraw, rfl⟩
    · rename_i hands rest hdraw
      split at h
      · cases h
      · rename_i hjudge
        cases h
        exact .inr ⟨hands, rest, hdraw, hjudge, rfl⟩
  · rintro (⟨rest, hdraw, rfl⟩ | ⟨hands, rest, hdraw, hjudge, rfl⟩)
    · simp only [hdraw]
    · simp only [hdraw, hjudge]

/-! ## Hands that were turned down -/

/-- **Whether a cancellation is seen** after some hands. -/
def sees (d : Dealer) (watched : Bool) (s : DealerSession) (hs : List Hands) : Bool :=
  watched && (d.after s hs s.source).cancelled

theorem sees_after (d : Dealer) (watched : Bool) (s : DealerSession) (hs hs' : List Hands)
    (src : MaskSource) :
    d.sees watched (d.after s hs src) hs' = d.sees watched s (hs ++ hs') := by
  rw [sees, after_append]
  rfl

theorem sees_nil (d : Dealer) (watched : Bool) (s : DealerSession) :
    d.sees watched s [] = (watched && s.cancelled) := by
  rw [sees, after_nil]

/-- **The first hands that a session draws are all turned down,** each in an attempt before which
no cancellation is seen. -/
structure TurnsDown (d : Dealer) (watched : Bool) (s : DealerSession) (hs : List Hands)
    (rest : MaskSource) : Prop where
  drawn : d.drawTimes hs.length s.source = .ok hs rest
  refused : ∀ hands ∈ hs, d.judge s hands = .ok false
  unseen : ∀ k < hs.length, d.sees watched s (hs.take k) = false

theorem turnsDown_nil : d.TurnsDown watched s [] s.source := by
  refine ⟨rfl, fun _ h => absurd h List.not_mem_nil, fun k hk => ?_⟩
  cases hk

theorem turnsDown_cons_iff : d.TurnsDown watched s (hands :: hs) rest ↔
    (watched && s.cancelled) = false ∧ ∃ mid, d.drawHands s.source = .ok hands mid ∧
      d.judge s hands = .ok false ∧ d.TurnsDown watched (d.after s [hands] mid) hs rest := by
  constructor
  · rintro ⟨hdrawn, hrefused, hunseen⟩
    obtain ⟨_, mid, _, heq, hdraw, hmore⟩ := drawTimes_succ_eq_ok_iff.1 hdrawn
    cases heq
    obtain ⟨hfirst, hrefused⟩ := List.forall_mem_cons.1 hrefused
    have hseen := hunseen 0 (Nat.succ_pos _)
    rw [List.take_zero, sees_nil] at hseen
    refine ⟨hseen, mid, hdraw, hfirst, hmore, fun other hother => ?_, fun k hk => ?_⟩
    · rw [judge_after]
      exact hrefused other hother
    · rw [sees_after]
      exact hunseen (k + 1) (Nat.succ_lt_succ hk)
  · rintro ⟨hseen, mid, hdraw, hfirst, hmore, hrefused, hunseen⟩
    refine ⟨drawTimes_succ_eq_ok_iff.2 ⟨hands, mid, hs, rfl, hdraw, hmore⟩,
      List.forall_mem_cons.2 ⟨hfirst, fun other hother => ?_⟩, fun k hk => ?_⟩
    · rw [← judge_after d s [hands] mid]
      exact hrefused other hother
    · cases k with
      | zero => rw [List.take_zero, sees_nil, hseen]
      | succ k =>
        have hlater := hunseen k (Nat.lt_of_succ_lt_succ hk)
        rwa [sees_after] at hlater

/-- **Attempts that are turned down, by the hands of the attempts.** -/
theorem rejected_iff : Rejected d watched n s u ↔ ∃ hs rest, hs.length = n ∧
    d.TurnsDown watched s hs rest ∧ u = d.after s hs rest := by
  constructor
  · intro h
    induction h with
    | zero s => exact ⟨[], s.source, rfl, turnsDown_nil, (after_nil d s s.source).symm⟩
    | succ hseen hnone _ ih =>
      obtain ⟨hands, mid, hdraw, hjudge, rfl⟩ := attempt_eq_none_iff.1 hnone
      obtain ⟨hs, rest, rfl, hturns, rfl⟩ := ih
      exact ⟨hands :: hs, rest, rfl,
        turnsDown_cons_iff.2 ⟨hseen, mid, hdraw, hjudge, hturns⟩, after_append d _ [hands] hs _ _⟩
  · rintro ⟨hs, rest, rfl, hturns, rfl⟩
    induction hs generalizing s with
    | nil =>
      -- no hands were drawn, so the masks are those of the session
      have hrest := hturns.drawn
      cases hrest
      rw [after_nil]
      exact .zero s
    | cons hands hs ih =>
      obtain ⟨hseen, mid, hdraw, hjudge, hturns⟩ := turnsDown_cons_iff.1 hturns
      have hmore := ih hturns
      rw [after_append] at hmore
      exact .succ hseen (attempt_eq_none_iff.2 ⟨hands, mid, hdraw, hjudge, rfl⟩) hmore

/-! ## Attempts without a limit -/

/-- Among more attempts than there are masks one takes none. -/
theorem exists_takes_nil (h : d.drawTimes n src = .ok hs rest) (hn : src.size < n) :
    ∃ hands, Takes d.drawHands [] hands := by
  induction n generalizing src hs with
  | zero => omega
  | succ n ih =>
    obtain ⟨hands, mid, hs', rfl, hdraw, hmore⟩ := drawTimes_succ_eq_ok_iff.1 h
    obtain ⟨used, hyields, htakes⟩ := isLocal_drawHands d hdraw
    cases used with
    | nil => exact ⟨hands, htakes⟩
    | cons mask masks =>
      -- this attempt took a mask, so the later ones have fewer
      have hsize := hyields.size_add
      rw [List.length_cons] at hsize
      exact ih hmore (by omega)

/-- Hands that are drawn without a mask are drawn every time. -/
theorem drawTimes_of_takes_nil (h : Takes d.drawHands [] hands) (n : Nat) (src : MaskSource) :
    d.drawTimes n src = .ok (List.replicate n hands) src := by
  induction n with
  | zero => rfl
  | succ n ih => exact drawTimes_succ_eq_ok_iff.2 ⟨hands, src, _, rfl, h (.nil src), ih⟩

/-- On the same hands again and again, a cancellation is seen early or not at all. -/
theorem sees_replicate_eq_false (hn : s.rule.elim 0 DealRule.pending ≤ n)
    (h : d.sees watched s (List.replicate n hands) = false) (m : Nat) :
    d.sees watched s (List.replicate m hands) = false := by
  rw [sees, after, Bool.and_eq_false_iff, Bool.or_eq_false_iff] at h ⊢
  refine h.imp_right fun ⟨hcancelled, hasks⟩ => ⟨hcancelled, ?_⟩
  cases hrule : s.rule with
  | none => rfl
  | some rule =>
    rw [hrule, Option.elim_some] at hn hasks
    rw [Option.elim_some]
    by_cases hshown : d.shows hands = true
    · rw [List.filter_replicate_of_pos hshown] at hasks ⊢
      exact DealRule.asksWithin_replicate_eq_false
        (Nat.le_trans (DealRule.pendingOn_le_pending rule hands) hn) hasks m
    · rw [List.filter_replicate_of_neg hshown]
      rfl

/-- **What is turned down up to the horizon is turned down for ever.** -/
theorem rejected_of_horizon (h : Rejected d watched (horizon s) s u) (n : Nat) :
    ∃ t, Rejected d watched n s t := by
  obtain ⟨hs, rest, hlength, hturns, -⟩ := rejected_iff.1 h
  have hdrawn := hturns.drawn
  rw [hlength] at hdrawn
  obtain ⟨hands, htakes⟩ := exists_takes_nil hdrawn (by unfold horizon; omega)
  -- all hands are the same, and the masks stay where they are
  rw [drawTimes_of_takes_nil htakes] at hdrawn
  cases hdrawn
  have hseen := hturns.unseen (s.rule.elim 0 DealRule.pending) (by rw [hlength, horizon]; omega)
  rw [List.take_replicate] at hseen
  have hunseen := sees_replicate_eq_false (by unfold horizon; omega) hseen
  have hrefused := hturns.refused hands (List.mem_replicate.2 ⟨by unfold horizon; omega, rfl⟩)
  refine ⟨_, rejected_iff.2 ⟨List.replicate n hands, s.source, List.length_replicate,
    ⟨?_, fun other hother => ?_, fun k _ => ?_⟩, rfl⟩⟩
  · rw [List.length_replicate]
    exact drawTimes_of_takes_nil htakes n s.source
  · rw [List.eq_of_mem_replicate hother]
    exact hrefused
  · rw [List.take_replicate]
    exact hunseen _

/-- **The limit of a dealer without one is never in the way of an end.** -/
theorem lt_limit_iff (hrejected : Rejected d watched n s u)
    (hends : (watched && u.cancelled) = true ∨ ∀ t, d.attempt u ≠ .ok none t) :
    n < d.limit s ↔ ∀ m, d.maxAttempts = some m → n < m := by
  unfold limit
  cases hmax : d.maxAttempts with
  | some m =>
    rw [Option.getD_some]
    constructor
    · intro h _ heq
      cases heq
      exact h
    · intro h
      exact h m rfl
  | none =>
    rw [Option.getD_none]
    refine ⟨fun _ _ h => (by cases h), fun _ => ?_⟩
    by_contra hle
    -- the attempts would go on, but the next one is not turned down
    obtain ⟨v, hv⟩ := hrejected.exists_first (Nat.le_of_not_lt hle)
    obtain ⟨w, hw⟩ := rejected_of_horizon hv (n + 1)
    obtain ⟨u', hu', hseen, hnone⟩ := hw.exists_last
    obtain rfl := hrejected.eq hu'
    rcases hends with hcancelled | hattempt
    · rw [hcancelled] at hseen
      cases hseen
    · exact hattempt w hnone

/-! ## The end of a run -/

/-- **The dealer goes on** to another attempt after some hands: all of them were turned down, the
limit is not reached, and no cancellation is seen. -/
structure GoesOn (d : Dealer) (watched : Bool) (s : DealerSession) (hs : List Hands)
    (rest : MaskSource) : Prop extends d.TurnsDown watched s hs rest where
  below : ∀ m, d.maxAttempts = some m → hs.length < m
  last_unseen : d.sees watched s hs = false

/-- Attempts that were turned down and the one that ends the run. -/
theorem exists_goesOn_iff {p : DealerSession → Prop}
    (hp : ∀ u, p u → ∀ t, d.attempt u ≠ .ok none t) :
    (∃ n u, n < d.limit s ∧ Rejected d watched n s u ∧ (watched && u.cancelled) = false ∧ p u) ↔
      ∃ hs mid, d.GoesOn watched s hs mid ∧ p (d.after s hs mid) := by
  constructor
  · rintro ⟨n, u, hn, hrejected, hseen, hu⟩
    have hbelow := (lt_limit_iff hrejected (.inr (hp u hu))).1 hn
    obtain ⟨hs, mid, rfl, hturns, rfl⟩ := rejected_iff.1 hrejected
    exact ⟨hs, mid, ⟨hturns, hbelow, hseen⟩, hu⟩
  · rintro ⟨hs, mid, hgoes, hu⟩
    have hrejected := rejected_iff.2 ⟨hs, mid, rfl, hgoes.toTurnsDown, rfl⟩
    exact ⟨hs.length, _, (lt_limit_iff hrejected (.inr (hp _ hu))).2 hgoes.below, hrejected,
      hgoes.last_unseen, hu⟩

/-- **A run gives the first hands that are accepted,** and takes the masks up to them. -/
theorem accepted_eq_ok_iff_goesOn : d.accepted watched s = .ok kept t ↔ ∃ hs mid rest,
    d.GoesOn watched s hs mid ∧ d.drawHands mid = .ok kept rest ∧ d.judge s kept = .ok true ∧
      t = d.after s (hs ++ [kept]) rest := by
  rw [accepted_eq_ok_iff, exists_goesOn_iff fun u hu t' => by simp [hu]]
  simp only [attempt_eq_some_iff, source_after, judge_after, after_append]
  constructor
  · rintro ⟨hs, mid, hgoes, rest, hrest⟩
    exact ⟨hs, mid, rest, hgoes, hrest⟩
  · rintro ⟨hs, mid, rest, hgoes, hrest⟩
    exact ⟨hs, mid, hgoes, rest, hrest⟩

/-- As many attempts as that are made and turned down. -/
def UsesUp (d : Dealer) (watched : Bool) (s : DealerSession) (n : Nat) (t : DealerSession) : Prop :=
  ∃ hs rest, d.TurnsDown watched s hs rest ∧ hs.length = n ∧ t = d.after s hs rest

/-- So many attempts are turned down, the limit is not reached, and a cancellation is seen then. -/
def IsCancelled (d : Dealer) (watched : Bool) (s : DealerSession) (n : Nat) (t : DealerSession) :
    Prop :=
  ∃ hs rest, d.TurnsDown watched s hs rest ∧ hs.length = n ∧
    (∀ m, d.maxAttempts = some m → n < m) ∧ d.sees watched s hs = true ∧ t = d.after s hs rest

/-- In the attempt that the dealer goes on to no hands can be drawn. -/
def Stops (d : Dealer) (watched : Bool) (s : DealerSession) (e : Error) (t : DealerSession) :
    Prop :=
  ∃ hs mid rest, d.GoesOn watched s hs mid ∧ d.drawHands mid = .error e rest ∧
    t = d.after s hs rest

/-- In the attempt that the dealer goes on to a descriptor or the rule fails on the hands. -/
def Raises (d : Dealer) (watched : Bool) (s : DealerSession) (e : Error) (t : DealerSession) :
    Prop :=
  ∃ hs hands mid rest, d.GoesOn watched s hs mid ∧ d.drawHands mid = .ok hands rest ∧
    d.judge s hands = .error e ∧ t = d.after s (hs ++ [hands]) rest

/-- **The run has no end:** whatever was turned down, the dealer goes on. -/
def RunsOn (d : Dealer) (watched : Bool) (s : DealerSession) : Prop :=
  ∀ n, ∃ hs rest, hs.length = n ∧ d.GoesOn watched s hs rest

theorem usesUp_iff : d.UsesUp watched s n t ↔ Rejected d watched n s t := by
  rw [rejected_iff]
  constructor
  · rintro ⟨hs, rest, hturns, hlength, ht⟩
    exact ⟨hs, rest, hlength, hturns, ht⟩
  · rintro ⟨hs, rest, hlength, hturns, ht⟩
    exact ⟨hs, rest, hturns, hlength, ht⟩

theorem isCancelled_iff : d.IsCancelled watched s n t ↔
    n < d.limit s ∧ Rejected d watched n s t ∧ (watched && t.cancelled) = true := by
  constructor
  · rintro ⟨hs, rest, hturns, hlength, hbelow, hseen, rfl⟩
    have hrejected := rejected_iff.2 ⟨hs, rest, hlength, hturns, rfl⟩
    exact ⟨(lt_limit_iff hrejected (.inl hseen)).2 hbelow, hrejected, hseen⟩
  · rintro ⟨hn, hrejected, hseen⟩
    have hbelow := (lt_limit_iff hrejected (.inl hseen)).1 hn
    obtain ⟨hs, rest, hlength, hturns, rfl⟩ := rejected_iff.1 hrejected
    exact ⟨hs, rest, hturns, hlength, hbelow, hseen, rfl⟩

theorem stops_or_raises_iff : d.Stops watched s e t ∨ d.Raises watched s e t ↔
    ∃ n u, n < d.limit s ∧ Rejected d watched n s u ∧ (watched && u.cancelled) = false ∧
      d.attempt u = .error e t := by
  rw [exists_goesOn_iff fun u hu t' => by simp [hu]]
  simp only [attempt_eq_error_iff, source_after, judge_after, after_append, List.append_nil]
  constructor
  · rintro (⟨hs, mid, rest, hgoes, hdraw⟩ | ⟨hs, hands, mid, rest, hgoes, hdraw⟩)
    · exact ⟨hs, mid, hgoes, .inl ⟨rest, hdraw⟩⟩
    · exact ⟨hs, mid, hgoes, .inr ⟨hands, rest, hdraw⟩⟩
  · rintro ⟨hs, mid, hgoes, ⟨rest, hdraw⟩ | ⟨hands, rest, hdraw⟩⟩
    · exact .inl ⟨hs, mid, rest, hgoes, hdraw⟩
    · exact .inr ⟨hs, hands, mid, rest, hgoes, hdraw⟩

/-- **A run that gives no hands.** -/
theorem accepted_eq_error_iff : d.accepted watched s = .error e t ↔
    (e = d.exhausted ∧ d.UsesUp watched s (d.limit s) t) ∨
      (∃ n, e = .cancelled n ∧ d.IsCancelled watched s n t) ∨
        d.Stops watched s e t ∨ d.Raises watched s e t := by
  rw [accepted_eq, search_eq_error_iff, stops_or_raises_iff]
  simp only [usesUp_iff, isCancelled_iff, Nat.zero_add]
  constructor
  · rintro (⟨hrejected, he⟩ | ⟨n, u, hn, hrejected, ⟨hseen, he, rfl⟩ | ⟨hseen, hattempt⟩⟩)
    · exact .inl ⟨he, hrejected⟩
    · exact .inr (.inl ⟨n, he, hn, hrejected, hseen⟩)
    · exact .inr (.inr ⟨n, u, hn, hrejected, hseen, hattempt⟩)
  · rintro (⟨he, hrejected⟩ | ⟨n, he, hn, hrejected, hseen⟩ | ⟨n, u, hn, hrejected, hlast⟩)
    · exact .inl ⟨hrejected, he⟩
    · exact .inr ⟨n, t, hn, hrejected, .inl ⟨hseen, he, rfl⟩⟩
    · exact .inr ⟨n, u, hn, hrejected, .inr hlast⟩

/-- Only a dealer without a limit runs on, and it does if it reaches the horizon. -/
theorem runsOn_iff : d.RunsOn watched s ↔
    d.maxAttempts = none ∧ ∃ t, d.UsesUp watched s (horizon s) t := by
  constructor
  · intro h
    refine ⟨?_, ?_⟩
    · cases hmax : d.maxAttempts with
      | none => rfl
      | some m =>
        obtain ⟨hs, rest, hlength, hgoes⟩ := h m
        have hbelow := hgoes.below m hmax
        omega
    · obtain ⟨hs, rest, hlength, hgoes⟩ := h (horizon s)
      exact ⟨_, hs, rest, hgoes.toTurnsDown, hlength, rfl⟩
  · rintro ⟨hmax, t, hused⟩ n
    obtain ⟨v, hv⟩ := rejected_of_horizon (usesUp_iff.1 hused) (n + 1)
    obtain ⟨u, hrejected, hseen, -⟩ := hv.exists_last
    obtain ⟨hs, rest, hlength, hturns, rfl⟩ := rejected_iff.1 hrejected
    refine ⟨hs, rest, hlength, hturns, fun m hm => ?_, hseen⟩
    rw [hmax] at hm
    cases hm

end Dealer

end ContractBridge
