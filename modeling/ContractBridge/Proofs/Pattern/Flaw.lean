/-
Where a text leaves the grammar.

A text that is no shape still begins like one for a while: its longest beginning that can be
continued to a shape (`IsViableLength`) says where it goes wrong. It is blamed on the character
behind that beginning, unless the fault is in a group which the beginning has left open: a group
that the text never closes, or closes too early, is to blame as a whole, at its opening parenthesis
(`BlamesGroup`). `IsFaultPlace` puts the two together, from the grammar alone.

A reader finds the fault in another way. It takes patterns until it meets something that is none,
and `Flaw` lists what this can be. Both ways lead to the same place (`isFaultPlace_of_flaw`).
-/
import ContractBridge.Proofs.Pattern.Grammar
import Mathlib.Order.Bounds.Basic

set_option autoImplicit false

namespace ContractBridge

open WrittenPattern

/-! ## The place of a fault -/

/-- Whether a text can be continued to a shape. -/
def Viable (cs : List Char) : Prop := ∃ r ds, spelled ds = cs ++ r

/-- **How far a text can be continued to a shape:** the length of its longest viable beginning. -/
def IsViableLength (cs : List Char) (v : Nat) : Prop :=
  IsGreatest {k | k ≤ cs.length ∧ Viable (cs.take k)} v

/-- Whether a text ends inside a group, which was opened at `opening` and has `suits` suits. -/
def LeavesOpen (cs : List Char) (opening suits : Nat) : Prop :=
  ∃ (ds : List WrittenPattern) (ss : List WrittenSuit),
    cs = spelled ds ++ '(' :: ss.flatMap WrittenSuit.chars ∧
      opening = (spelled ds).length ∧ suits = ss.length

/-- Whether a text that is viable up to `v` is wrong in a group opened at `opening`: it does not
close the group, or it closes it with fewer than two suits. -/
def BlamesGroup (cs : List Char) (v opening : Nat) : Prop :=
  ∃ suits, LeavesOpen (cs.take v) opening suits ∧
    (v = cs.length ∨ cs[v]? = some ')' ∧ suits < 2)

/-- **Where a text that is no shape is wrong:** at the opening parenthesis of the group to blame,
and where there is none, at the first character that no shape has there. -/
def IsFaultPlace (cs : List Char) (place : Nat) : Prop :=
  ∃ v, IsViableLength cs v ∧ (BlamesGroup cs v place ∨
    v < cs.length ∧ (∀ opening, ¬ BlamesGroup cs v opening) ∧ place = v)

/-! ## Groups left open -/

section OpenGroups

variable {ds : List WrittenPattern} {ss : List WrittenSuit} {r : List Char}

/-- A suit or a group that begins with a parenthesis is a group, which is closed. -/
theorem WrittenPattern.members_of_append_eq {d : WrittenPattern} {t : List Char}
    (h : d.chars ++ r = '(' :: t) : ∃ ts : List WrittenSuit, 2 ≤ ts.length ∧
      t = ts.flatMap WrittenSuit.chars ++ ')' :: r := by
  match d with
  | .suit s => exact absurd h (WrittenSuit.append_ne_cons (by decide))
  | .group first second others =>
    refine ⟨first :: second :: others, Nat.le_add_left 2 _, ?_⟩
    rw [chars, List.cons_append, List.append_assoc] at h
    exact (List.cons.inj h).2.symm

/-- An open group is neither a suit nor a group. -/
theorem WrittenPattern.append_ne_opened {d : WrittenPattern} :
    d.chars ++ r ≠ '(' :: ss.flatMap WrittenSuit.chars := by
  intro h
  obtain ⟨ts, -, hts⟩ := members_of_append_eq h
  obtain ⟨ts', -, hnil⟩ := exists_members_append (allOver_members ss unmarked_nil)
    ((List.append_nil _).trans hts)
  exact absurd hnil.symm (List.append_ne_nil_of_right_ne_nil _ (List.cons_ne_nil _ _))

theorem unmarked_opening : Unmarked ('(' :: r) := unmarked_cons (by decide) (by decide)

/-- What stands before an open group is determined. -/
theorem LeavesOpen.opening_unique {cs : List Char} {a b j k : Nat} (ha : LeavesOpen cs a j)
    (hb : LeavesOpen cs b k) : a = b := by
  obtain ⟨ds, ss, rfl, rfl, -⟩ := ha
  obtain ⟨es, ts, h, rfl, -⟩ := hb
  obtain ⟨es', rfl, hopen⟩ := (allOver_spelled ds unmarked_opening).exists_append
    (fun _ _ _ _ => append_inj)
    (fun fs => unmarked_flatMap_append unmarked_append fs unmarked_opening)
    (fun _ _ => append_ne_opened) h
  match es' with
  | [] => rw [List.append_nil]
  | e :: es' =>
    rw [List.flatMap_cons, List.append_assoc] at hopen
    exact absurd hopen.symm append_ne_opened

/-- A shape leaves no group open. -/
theorem not_leavesOpen_spelled {opening suits : Nat} : ¬ LeavesOpen (spelled ds) opening suits := by
  rintro ⟨es, ss, h, -, -⟩
  obtain ⟨ds', rfl, hopen⟩ := exists_spelled_append (allOver_spelled es unmarked_opening) h.symm
  match ds' with
  | [] => cases hopen
  | d :: ds' =>
    rw [spelled, List.flatMap_cons] at hopen
    exact append_ne_opened hopen.symm

end OpenGroups

/-! ## Viable beginnings -/

section Viable

variable {p r : List Char} {c : Char}

theorem viable_spelled (ds : List WrittenPattern) : Viable (spelled ds) :=
  ⟨[], ds, (List.append_nil _).symm⟩

/-- An open group can be given two more suits and closed. -/
theorem viable_opened (ds : List WrittenPattern) (ss : List WrittenSuit) :
    Viable (spelled ds ++ '(' :: ss.flatMap WrittenSuit.chars) := by
  have hclose : ∃ d : WrittenPattern,
      d.chars = '(' :: (ss.flatMap WrittenSuit.chars ++ ['x', 'x', ')']) := by
    match ss with
    | [] => exact ⟨.group (.joker false) (.joker false) [], rfl⟩
    | [s] =>
      refine ⟨.group s (.joker false) [.joker false], ?_⟩
      simp only [chars, WrittenSuit.chars, List.flatMap_cons, List.flatMap_nil, List.append_nil,
        List.append_assoc, List.cons_append, List.nil_append]
    | a :: b :: l =>
      refine ⟨.group a b (l ++ [.joker false, .joker false]), ?_⟩
      simp only [chars, WrittenSuit.chars, List.flatMap_cons, List.flatMap_append, List.flatMap_nil,
        List.append_assoc, List.cons_append, List.nil_append]
  obtain ⟨d, hd⟩ := hclose
  refine ⟨['x', 'x', ')'], ds ++ [d], ?_⟩
  rw [spelled, List.flatMap_append, List.flatMap_singleton, hd, List.append_assoc,
    List.cons_append]
  rfl

theorem isViableLength_length {cs : List Char} (h : Viable cs) : IsViableLength cs cs.length :=
  ⟨⟨Nat.le_refl _, by rwa [List.take_length]⟩, fun _ hk => hk.1⟩

theorem getElem?_length_append : (p ++ c :: r)[p.length]? = some c := by
  rw [List.getElem?_append_right (Nat.le_refl _), Nat.sub_self, List.getElem?_cons_zero]

/-- Where a beginning can be continued, but not by the next character, it is the longest. -/
theorem isViableLength_of_stuck (hviable : Viable p) (hstuck : ∀ es u, spelled es ≠ p ++ c :: u) :
    IsViableLength (p ++ c :: r) p.length := by
  refine ⟨⟨?_, ?_⟩, fun k hk => ?_⟩
  · rw [List.length_append]
    exact Nat.le_add_right _ _
  · rwa [List.take_left]
  · by_contra hlt
    obtain ⟨n, rfl⟩ : ∃ n, k = p.length + (n + 1) := ⟨k - p.length - 1, by omega⟩
    obtain ⟨-, u, es, hes⟩ := hk
    rw [List.take_length_add_append, List.take_succ_cons, List.append_assoc,
      List.cons_append] at hes
    exact hstuck es _ hes

end Viable

/-! ## What is met behind complete patterns -/

/-- **What is wrong behind complete patterns,** and how far behind them the reader says so: a
character that begins no pattern, a group that is not closed, one that is closed too early, and a
character inside a group that neither begins a suit nor closes the group. -/
inductive Flaw : List Char → Nat → Prop
  | stray {c : Char} {r : List Char} : c ≠ '(' → ¬ BeginsSuit c → Flaw (c :: r) 0
  | unclosed (ss : List WrittenSuit) : Flaw ('(' :: ss.flatMap WrittenSuit.chars) 0
  | small (ss : List WrittenSuit) {r : List Char} : ss.length < 2 →
      Flaw ('(' :: (ss.flatMap WrittenSuit.chars ++ ')' :: r)) 0
  | inside {ss : List WrittenSuit} {c : Char} {r : List Char} :
      AllOver WrittenSuit.chars WrittenSuit.IsOver ss (c :: r) → c ≠ ')' → ¬ BeginsSuit c →
        Flaw ('(' :: (ss.flatMap WrittenSuit.chars ++ c :: r))
          ((ss.flatMap WrittenSuit.chars).length + 1)

/-- Whether parts are over depends only on the character behind them. -/
theorem AllOver.congr {α : Type} {chars : α → List Char} {isOver : α → List Char → Prop}
    (hhead : ∀ a r u, r.head? = u.head? → isOver a r → isOver a u) {l : List α} {c : Char}
    {r u : List Char} (h : AllOver chars isOver l (c :: r)) : AllOver chars isOver l (c :: u) := by
  induction l with
  | nil => trivial
  | cons a l ih =>
    refine ⟨hhead a _ _ ?_ h.1, ih h.2⟩
    rw [List.head?_append, List.head?_append, List.head?_cons, List.head?_cons]

theorem WrittenSuit.IsOver.congr (s : WrittenSuit) (r u : List Char) (hru : r.head? = u.head?)
    (h : s.IsOver r) : s.IsOver u := by
  match s with
  | .length _ .exact =>
    intro m c hc
    rw [← hru]
    exact h m c hc
  | .length _ .atLeast | .length _ .atMost | .joker _ => trivial

theorem WrittenPattern.IsOver.congr (d : WrittenPattern) (r u : List Char)
    (hru : r.head? = u.head?) (h : d.IsOver r) : d.IsOver u := by
  match d with
  | .suit s => exact WrittenSuit.IsOver.congr s r u hru h
  | .group _ _ _ => trivial

section Stuck

variable {ds es : List WrittenPattern} {ss : List WrittenSuit} {c : Char} {r u : List Char}

/-- A shape begins with a suit or with a parenthesis. -/
theorem begins_of_spelled_eq_cons (h : spelled es = c :: r) : c = '(' ∨ BeginsSuit c := by
  match es with
  | [] => cases h
  | .group _ _ _ :: _ => exact .inl (List.cons.inj h).1.symm
  | .suit s :: _ =>
    by_contra hnone
    exact WrittenSuit.append_ne_cons (fun hc => hnone (.inr hc)) h

/-- No shape goes on behind patterns with a character that begins none. -/
theorem spelled_ne_of_stray (hds : AllOver chars IsOver ds (c :: r)) (hopen : c ≠ '(')
    (hsuit : ¬ BeginsSuit c) : spelled es ≠ spelled ds ++ c :: u := by
  intro h
  have hdsu : AllOver chars IsOver ds (c :: u) := hds.congr IsOver.congr
  obtain ⟨es', -, hes'⟩ := exists_spelled_append hdsu h.symm
  exact (begins_of_spelled_eq_cons hes'.symm).elim hopen hsuit

/-- A group that stands in a shape is closed, with two members or more. -/
theorem exists_members_of_spelled_eq {t : List Char} (h : spelled es = spelled ds ++ '(' :: t) :
    ∃ (ts : List WrittenSuit) (v : List Char), 2 ≤ ts.length ∧
      t = ts.flatMap WrittenSuit.chars ++ ')' :: v := by
  obtain ⟨es', -, hes'⟩ := exists_spelled_append (allOver_spelled ds unmarked_opening) h.symm
  match es' with
  | [] => cases hes'
  | e :: es' =>
    rw [spelled, List.flatMap_cons] at hes'
    obtain ⟨ts, hlength, hts⟩ := members_of_append_eq hes'.symm
    exact ⟨ts, _, hlength, hts⟩

/-- No shape closes a group with fewer than two members. -/
theorem spelled_ne_of_small (hss : ss.length < 2) :
    spelled es ≠ (spelled ds ++ '(' :: ss.flatMap WrittenSuit.chars) ++ ')' :: u := by
  intro h
  rw [List.append_assoc] at h
  obtain ⟨ts, v, hlength, hts⟩ := exists_members_of_spelled_eq h
  rw [(members_append_inj hts).1] at hss
  exact absurd hlength (Nat.not_le.2 hss)

/-- No group of a shape has a character between its members that begins none of them. -/
theorem spelled_ne_of_inside (hss : AllOver WrittenSuit.chars WrittenSuit.IsOver ss (c :: r))
    (hclose : c ≠ ')') (hsuit : ¬ BeginsSuit c) :
    spelled es ≠ (spelled ds ++ '(' :: ss.flatMap WrittenSuit.chars) ++ c :: u := by
  intro h
  rw [List.append_assoc] at h
  obtain ⟨ts, v, -, hts⟩ := exists_members_of_spelled_eq h
  have hssu : AllOver WrittenSuit.chars WrittenSuit.IsOver ss (c :: u) :=
    hss.congr WrittenSuit.IsOver.congr
  obtain ⟨ts', -, hts'⟩ := exists_members_append hssu hts
  match ts' with
  | [] => exact hclose (List.cons.inj hts').1
  | t :: ts' =>
    rw [List.flatMap_cons, List.append_assoc] at hts'
    exact WrittenSuit.append_ne_cons hsuit hts'.symm

end Stuck

/-! ## The place of a flaw -/

section Places

variable {cs : List Char} {place : Nat}

/-- A character that is to blame itself. -/
theorem isFaultPlace_of_stuck {p r : List Char} {c : Char} (hviable : Viable p)
    (hstuck : ∀ es u, spelled es ≠ p ++ c :: u)
    (hgroup : c ≠ ')' ∨ ∀ opening suits, ¬ LeavesOpen p opening suits) :
    IsFaultPlace (p ++ c :: r) p.length := by
  have hlt : p.length < (p ++ c :: r).length := by
    rw [List.length_append, List.length_cons]
    omega
  refine ⟨_, isViableLength_of_stuck hviable hstuck, .inr ⟨hlt, ?_, rfl⟩⟩
  rintro opening ⟨suits, hopen, hlast | ⟨hclose, -⟩⟩
  · exact absurd hlast (Nat.ne_of_lt hlt)
  · rw [List.take_left] at hopen
    rw [getElem?_length_append, Option.some.injEq] at hclose
    rcases hgroup with hne | hnone
    · exact hne hclose
    · exact hnone _ _ hopen

/-- **A flaw behind complete patterns is at the place of the fault.** -/
theorem isFaultPlace_of_flaw {ds : List WrittenPattern} {r : List Char} {k : Nat}
    (hds : AllOver chars IsOver ds r) (hr : Flaw r k) :
    IsFaultPlace (spelled ds ++ r) ((spelled ds).length + k) := by
  cases hr with
  | stray hopen hsuit =>
    exact isFaultPlace_of_stuck (viable_spelled ds) (fun _ _ => spelled_ne_of_stray hds hopen hsuit)
      (.inr fun _ _ => not_leavesOpen_spelled)
  | unclosed ss =>
    refine ⟨_, isViableLength_length (viable_opened ds ss), .inl ⟨ss.length, ?_, .inl rfl⟩⟩
    rw [List.take_length]
    exact ⟨ds, ss, rfl, rfl, rfl⟩
  | small ss hss =>
    -- the group is open where the text stops to be viable, and the next character closes it
    rw [← List.cons_append, ← List.append_assoc]
    refine ⟨_, isViableLength_of_stuck (viable_opened ds ss) (fun _ _ => spelled_ne_of_small hss),
      .inl ⟨ss.length, ?_, .inr ⟨?_, hss⟩⟩⟩
    · rw [List.take_left]
      exact ⟨ds, ss, rfl, rfl, rfl⟩
    · exact getElem?_length_append
  | @inside ss c r hss hclose hsuit =>
    have hplace := isFaultPlace_of_stuck (r := r) (viable_opened ds ss)
      (fun _ _ => spelled_ne_of_inside hss hclose hsuit) (.inl hclose)
    rwa [List.append_assoc, List.length_append] at hplace

/-- A shape has no fault. -/
theorem not_isFaultPlace_spelled {ds : List WrittenPattern} : ¬ IsFaultPlace (spelled ds) place := by
  rintro ⟨v, hv, hplace⟩
  obtain rfl := hv.unique (isViableLength_length (viable_spelled ds))
  rcases hplace with ⟨suits, hopen, -⟩ | ⟨hlt, -, -⟩
  · rw [List.take_length] at hopen
    exact not_leavesOpen_spelled hopen
  · exact absurd hlt (Nat.lt_irrefl _)

/-- **A text has no more than one place of a fault.** -/
theorem IsFaultPlace.unique {place' : Nat} (h : IsFaultPlace cs place)
    (h' : IsFaultPlace cs place') : place = place' := by
  obtain ⟨v, hv, hplace⟩ := h
  obtain ⟨v', hv', hplace'⟩ := h'
  obtain rfl := hv.unique hv'
  rcases hplace with hblames | ⟨-, hnone, rfl⟩ <;>
    rcases hplace' with hblames' | ⟨-, hnone', rfl⟩
  · obtain ⟨_, hopen, -⟩ := hblames
    obtain ⟨_, hopen', -⟩ := hblames'
    exact hopen.opening_unique hopen'
  · exact absurd hblames (hnone' _)
  · exact absurd hblames' (hnone _)
  · rfl

end Places

end ContractBridge
