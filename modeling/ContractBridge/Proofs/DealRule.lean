/-
Verdicts of rules that were called before.

A call changes a rule, but only in when it asks for a cancellation: `judge_after` says that the
verdict on any hands is the same before and after a call on any others. So a dealer's rule is one
predicate on hands throughout, whatever it has been shown.

The cancellations run out. A rule that is shown the same hands again and again calls the same
parts of itself each time, and each call brings them all nearer to the one in which they ask
(`pendingOn_after`); so after `pending` calls nothing is asked for any more.
-/
import ContractBridge.DealRule

set_option autoImplicit false

namespace ContractBridge.DealRule

variable {hands other : Hands} {a b : DealRule}

/-! ## The parts of a rule -/

theorem call_both (a b : DealRule) (hands : Hands) : (both a b).call hands =
    match a.judge hands with
    | .ok true => ⟨b.judge hands, both (a.call hands).after (b.call hands).after,
        (a.call hands).cancels || (b.call hands).cancels⟩
    | verdict => ⟨verdict, both (a.call hands).after b, (a.call hands).cancels⟩ := rfl

theorem call_both_of_true (h : a.judge hands = .ok true) : (both a b).call hands =
    ⟨b.judge hands, both (a.call hands).after (b.call hands).after,
      (a.call hands).cancels || (b.call hands).cancels⟩ := by
  rw [call_both, h]

theorem call_both_of_ne (h : a.judge hands ≠ .ok true) : (both a b).call hands =
    ⟨a.judge hands, both (a.call hands).after b, (a.call hands).cancels⟩ := by
  rw [call_both]
  rcases hverdict : a.judge hands with e | (_ | _)
  · rfl
  · rfl
  · exact absurd hverdict h

theorem call_either (a b : DealRule) (hands : Hands) : (either a b).call hands =
    match a.judge hands with
    | .ok false => ⟨b.judge hands, either (a.call hands).after (b.call hands).after,
        (a.call hands).cancels || (b.call hands).cancels⟩
    | verdict => ⟨verdict, either (a.call hands).after b, (a.call hands).cancels⟩ := rfl

theorem call_either_of_false (h : a.judge hands = .ok false) : (either a b).call hands =
    ⟨b.judge hands, either (a.call hands).after (b.call hands).after,
      (a.call hands).cancels || (b.call hands).cancels⟩ := by
  rw [call_either, h]

theorem call_either_of_ne (h : a.judge hands ≠ .ok false) : (either a b).call hands =
    ⟨a.judge hands, either (a.call hands).after b, (a.call hands).cancels⟩ := by
  rw [call_either]
  rcases hverdict : a.judge hands with e | (_ | _)
  · rfl
  · exact absurd hverdict h
  · rfl

theorem judge_both (a b : DealRule) (hands : Hands) : (both a b).judge hands =
    match a.judge hands with
    | .ok true => b.judge hands
    | verdict => verdict := by
  show ((both a b).call hands).verdict = _
  rw [call_both]
  rcases a.judge hands with e | (_ | _) <;> rfl

theorem judge_either (a b : DealRule) (hands : Hands) : (either a b).judge hands =
    match a.judge hands with
    | .ok false => b.judge hands
    | verdict => verdict := by
  show ((either a b).call hands).verdict = _
  rw [call_either]
  rcases a.judge hands with e | (_ | _) <;> rfl

theorem judge_negation (a : DealRule) (hands : Hands) :
    (negation a).judge hands = (a.judge hands).map (!·) := rfl

/-! ## Calls -/

theorem after_both (a b : DealRule) (hands : Hands) :
    ((both a b).call hands).after = both (a.call hands).after b ∨
      ((both a b).call hands).after = both (a.call hands).after (b.call hands).after := by
  by_cases h : a.judge hands = .ok true
  · rw [call_both_of_true h]
    exact .inr rfl
  · rw [call_both_of_ne h]
    exact .inl rfl

theorem after_either (a b : DealRule) (hands : Hands) :
    ((either a b).call hands).after = either (a.call hands).after b ∨
      ((either a b).call hands).after = either (a.call hands).after (b.call hands).after := by
  by_cases h : a.judge hands = .ok false
  · rw [call_either_of_false h]
    exact .inr rfl
  · rw [call_either_of_ne h]
    exact .inl rfl

/-- **A call does not change the verdict on any hands.** -/
theorem judge_after (rule : DealRule) (hands other : Hands) :
    (rule.call hands).after.judge other = rule.judge other := by
  -- after a call the second part of a pair is as it was or was called as well
  induction rule with
  | test f => rfl
  | both a b iha ihb =>
    rw [judge_both]
    rcases after_both a b hands with h | h
    · rw [h, judge_both, iha]
    · rw [h, judge_both, iha, ihb]
  | either a b iha ihb =>
    rw [judge_either]
    rcases after_either a b hands with h | h
    · rw [h, judge_either, iha]
    · rw [h, judge_either, iha, ihb]
  | negation a ih =>
    show (negation (a.call hands).after).judge other = _
    rw [judge_negation, judge_negation, ih]
  | cancelAt left => rfl

/-- A rule after calls on some hands, one after the other. -/
def afterAll (rule : DealRule) (calls : List Hands) : DealRule :=
  calls.foldl (fun rule hands => (rule.call hands).after) rule

theorem afterAll_append (rule : DealRule) (calls more : List Hands) :
    rule.afterAll (calls ++ more) = (rule.afterAll calls).afterAll more := List.foldl_append

theorem afterAll_concat (rule : DealRule) (calls : List Hands) (hands : Hands) :
    rule.afterAll (calls ++ [hands]) = ((rule.afterAll calls).call hands).after :=
  afterAll_append rule calls [hands]

theorem judge_afterAll (rule : DealRule) (calls : List Hands) (hands : Hands) :
    (rule.afterAll calls).judge hands = rule.judge hands := by
  induction calls generalizing rule with
  | nil => rfl
  | cons first calls ih =>
    show ((rule.call first).after.afterAll calls).judge hands = _
    rw [ih, judge_after]

/-- **Whether a rule asks for a cancellation** in one of some calls. -/
def asksWithin (rule : DealRule) : List Hands → Bool
  | [] => false
  | hands :: calls => (rule.call hands).cancels || (rule.call hands).after.asksWithin calls

theorem asksWithin_append (rule : DealRule) (calls more : List Hands) :
    rule.asksWithin (calls ++ more) =
      (rule.asksWithin calls || (rule.afterAll calls).asksWithin more) := by
  induction calls generalizing rule with
  | nil => rfl
  | cons first calls ih =>
    show ((rule.call first).cancels || (rule.call first).after.asksWithin (calls ++ more)) = _
    rw [ih, ← Bool.or_assoc]
    rfl

/-! ## The same hands again and again -/

/-- How many calls on some hands may pass before every part of the rule that is called has asked
for its cancellation. -/
def pendingOn (hands : Hands) : DealRule → Nat
  | test _ => 0
  | both a b =>
    match a.judge hands with
    | .ok true => max (a.pendingOn hands) (b.pendingOn hands)
    | _ => a.pendingOn hands
  | either a b =>
    match a.judge hands with
    | .ok false => max (a.pendingOn hands) (b.pendingOn hands)
    | _ => a.pendingOn hands
  | negation a => a.pendingOn hands
  | cancelAt left => left

theorem pendingOn_both (a b : DealRule) (hands : Hands) : (both a b).pendingOn hands =
    match a.judge hands with
    | .ok true => max (a.pendingOn hands) (b.pendingOn hands)
    | _ => a.pendingOn hands := rfl

theorem pendingOn_both_of_true (h : a.judge hands = .ok true) :
    (both a b).pendingOn hands = max (a.pendingOn hands) (b.pendingOn hands) := by
  rw [pendingOn_both, h]

theorem pendingOn_both_of_ne (h : a.judge hands ≠ .ok true) :
    (both a b).pendingOn hands = a.pendingOn hands := by
  rw [pendingOn_both]
  rcases hverdict : a.judge hands with e | (_ | _)
  · rfl
  · rfl
  · exact absurd hverdict h

theorem pendingOn_either (a b : DealRule) (hands : Hands) : (either a b).pendingOn hands =
    match a.judge hands with
    | .ok false => max (a.pendingOn hands) (b.pendingOn hands)
    | _ => a.pendingOn hands := rfl

theorem pendingOn_either_of_false (h : a.judge hands = .ok false) :
    (either a b).pendingOn hands = max (a.pendingOn hands) (b.pendingOn hands) := by
  rw [pendingOn_either, h]

theorem pendingOn_either_of_ne (h : a.judge hands ≠ .ok false) :
    (either a b).pendingOn hands = a.pendingOn hands := by
  rw [pendingOn_either]
  rcases hverdict : a.judge hands with e | (_ | _)
  · rfl
  · exact absurd hverdict h
  · rfl

theorem pendingOn_le_pending (rule : DealRule) (hands : Hands) :
    rule.pendingOn hands ≤ rule.pending := by
  induction rule with
  | test f => exact Nat.le_refl 0
  | both a b iha ihb =>
    show _ ≤ max a.pending b.pending
    by_cases h : a.judge hands = .ok true
    · rw [pendingOn_both_of_true h]
      omega
    · rw [pendingOn_both_of_ne h]
      omega
  | either a b iha ihb =>
    show _ ≤ max a.pending b.pending
    by_cases h : a.judge hands = .ok false
    · rw [pendingOn_either_of_false h]
      omega
    · rw [pendingOn_either_of_ne h]
      omega
  | negation a ih => exact ih
  | cancelAt left => exact Nat.le_refl left

/-- **A call on the same hands brings every cancellation one call nearer.** The verdicts say which
parts are called, and they do not change. -/
theorem pendingOn_after (rule : DealRule) (hands : Hands) :
    (rule.call hands).after.pendingOn hands = rule.pendingOn hands - 1 := by
  induction rule with
  | test f => rfl
  | both a b iha ihb =>
    have hjudge : (a.call hands).after.judge hands = a.judge hands := judge_after a hands hands
    by_cases h : a.judge hands = .ok true
    · rw [call_both_of_true h, pendingOn_both_of_true h,
        pendingOn_both_of_true (hjudge.trans h), iha, ihb]
      omega
    · rw [call_both_of_ne h, pendingOn_both_of_ne h, pendingOn_both_of_ne (hjudge ▸ h), iha]
  | either a b iha ihb =>
    have hjudge : (a.call hands).after.judge hands = a.judge hands := judge_after a hands hands
    by_cases h : a.judge hands = .ok false
    · rw [call_either_of_false h, pendingOn_either_of_false h,
        pendingOn_either_of_false (hjudge.trans h), iha, ihb]
      omega
    · rw [call_either_of_ne h, pendingOn_either_of_ne h, pendingOn_either_of_ne (hjudge ▸ h), iha]
  | negation a ih => exact ih
  | cancelAt left => rfl

theorem cancels_eq_false_of_pendingOn {rule : DealRule} (h : rule.pendingOn hands = 0) :
    (rule.call hands).cancels = false := by
  induction rule with
  | test f => rfl
  | both a b iha ihb =>
    by_cases hfirst : a.judge hands = .ok true
    · rw [pendingOn_both_of_true hfirst] at h
      rw [call_both_of_true hfirst, iha (by omega), ihb (by omega)]
      rfl
    · rw [pendingOn_both_of_ne hfirst] at h
      rw [call_both_of_ne hfirst, iha h]
  | either a b iha ihb =>
    by_cases hfirst : a.judge hands = .ok false
    · rw [pendingOn_either_of_false hfirst] at h
      rw [call_either_of_false hfirst, iha (by omega), ihb (by omega)]
      rfl
    · rw [pendingOn_either_of_ne hfirst] at h
      rw [call_either_of_ne hfirst, iha h]
  | negation a ih => exact ih h
  | cancelAt left =>
    obtain rfl : left = 0 := h
    rfl

/-- What a rule asks for within some calls on the same hands it asks for within the first
`pending` of them. -/
theorem asksWithin_replicate_eq_false {rule : DealRule} {m : Nat} (hm : rule.pendingOn hands ≤ m)
    (h : rule.asksWithin (List.replicate m hands) = false) (n : Nat) :
    rule.asksWithin (List.replicate n hands) = false := by
  induction n generalizing rule m with
  | zero => rfl
  | succ n ih =>
    refine Bool.or_eq_false_iff.2 ?_
    cases m with
    | zero =>
      -- nothing is pending, and the rule stays like that
      have hzero : rule.pendingOn hands = 0 := Nat.le_zero.1 hm
      have hafter : (rule.call hands).after.pendingOn hands ≤ 0 := by
        have hnext := pendingOn_after rule hands
        omega
      exact ⟨cancels_eq_false_of_pendingOn hzero, ih hafter rfl⟩
    | succ m =>
      obtain ⟨hfirst, hothers⟩ := Bool.or_eq_false_iff.1 h
      refine ⟨hfirst, ih ?_ hothers⟩
      have hnext := pendingOn_after rule hands
      omega

end ContractBridge.DealRule
