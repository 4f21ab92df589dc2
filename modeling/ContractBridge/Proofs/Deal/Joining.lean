/-
Two texts of tag lines, one behind the other.

What was read before a line cannot be seen in what the line does but through the number and the
vulnerability that are set (`readLines_behind`). A board tag sets the number, so the number does not
pass from one text to a text that begins with one. A vulnerability passes: it is forgotten only
behind a deal, so the one of a board without a deal is still set when the next board begins, and the
first deal of the next text gets it unless that text sets its own (`readLines_vulnerable`). Every
other deal is read as if its text stood alone.
-/
import ContractBridge.Proofs.Deal.Session

set_option autoImplicit false

namespace ContractBridge.Deal

variable {limit : Text.DigitLimit} {s t : Reading} {line : List Char} {lines : List (List Char)}
  {text : List Char} {deals : List Deal}

/-! ## Kinds of tag lines -/

/-- Whether a line is a tag line of a name. -/
def isTag (name : String) (line : List Char) : Bool := (tagValue? name (Text.strip line)).isSome

/-- Whether the first line of a text that is not blank is a board tag. -/
def OpensWithBoard (text : List Char) : Prop :=
  ∃ blanks line others, Text.lines text = blanks ++ line :: others ∧
    (∀ blank ∈ blanks, Text.strip blank = []) ∧ isTag "Board" line = true

/-- Whether some lines set a vulnerability before their first deal. -/
def setsVulnerability (lines : List (List Char)) : Bool :=
  (lines.takeWhile fun line => !isTag "Deal" line).any (isTag "Vulnerable")

/-- A tag line shows at its second character which tag it is. -/
theorem head?_tail_of_tagValue? {name : String} {value : List Char}
    (h : tagValue? name line = some value) : line.tail.head? = (name.toList ++ [' ']).head? := by
  unfold tagValue? at h
  dsimp only at h
  split at h
  · next hopening =>
    obtain ⟨rest, rfl⟩ := List.isPrefixOf_iff_prefix.1 hopening
    cases name.toList <;> rfl
  · cases h

theorem tagValue?_eq_none {name other : String} {value : List Char}
    (hne : (name.toList ++ [' ']).head? ≠ (other.toList ++ [' ']).head?)
    (h : tagValue? name line = some value) : tagValue? other line = none := by
  cases hother : tagValue? other line with
  | none => rfl
  | some _ =>
    exact absurd ((head?_tail_of_tagValue? h).symm.trans (head?_tail_of_tagValue? hother)) hne

/-- What a line is: a tag of one of the three names that count, or none of them. -/
inductive LineKind (line : List Char) : Prop
  | board {value : List Char} (hboard : tagValue? "Board" (Text.strip line) = some value)
      (hvulnerable : tagValue? "Vulnerable" (Text.strip line) = none)
      (hdeal : tagValue? "Deal" (Text.strip line) = none)
  | vulnerable {value : List Char} (hboard : tagValue? "Board" (Text.strip line) = none)
      (hvulnerable : tagValue? "Vulnerable" (Text.strip line) = some value)
      (hdeal : tagValue? "Deal" (Text.strip line) = none)
  | deal {value : List Char} (hboard : tagValue? "Board" (Text.strip line) = none)
      (hvulnerable : tagValue? "Vulnerable" (Text.strip line) = none)
      (hdeal : tagValue? "Deal" (Text.strip line) = some value)
  | other (hboard : tagValue? "Board" (Text.strip line) = none)
      (hvulnerable : tagValue? "Vulnerable" (Text.strip line) = none)
      (hdeal : tagValue? "Deal" (Text.strip line) = none)

theorem lineKind (line : List Char) : LineKind line := by
  cases hboard : tagValue? "Board" (Text.strip line) with
  | some value =>
    exact .board hboard (tagValue?_eq_none (by decide) hboard)
      (tagValue?_eq_none (by decide) hboard)
  | none =>
    cases hvulnerable : tagValue? "Vulnerable" (Text.strip line) with
    | some value => exact .vulnerable hboard hvulnerable (tagValue?_eq_none (by decide) hvulnerable)
    | none =>
      cases hdeal : tagValue? "Deal" (Text.strip line) with
      | some value => exact .deal hboard hvulnerable hdeal
      | none => exact .other hboard hvulnerable hdeal

theorem setsVulnerability_cons (hdeal : tagValue? "Deal" (Text.strip line) = none) :
    setsVulnerability (line :: lines) = (isTag "Vulnerable" line || setsVulnerability lines) := by
  simp [setsVulnerability, isTag, hdeal]

theorem setsVulnerability_cons_of_deal {value : List Char}
    (hdeal : tagValue? "Deal" (Text.strip line) = some value) :
    setsVulnerability (line :: lines) = false := by
  simp [setsVulnerability, isTag, hdeal]

/-! ## What was read before -/

/-- A reading with some deals in front. -/
def Reading.behind (front : List Deal) (s : Reading) : Reading :=
  { s with deals := front ++ s.deals }

/-- The reading of some lines. -/
def Reading.readLines (limit : Text.DigitLimit) (s : Reading) (lines : List (List Char)) :
    Except Error Reading := lines.foldlM (Reading.readLine limit) s

theorem readLines_cons : s.readLines limit (line :: lines) =
    s.readLine limit line >>= fun s => s.readLines limit lines := List.foldlM_cons

theorem readLines_append (ls ms : List (List Char)) : s.readLines limit (ls ++ ms) =
    s.readLines limit ls >>= fun s => s.readLines limit ms := List.foldlM_append

/-- **A line is read as it would be without the deals before it.** -/
theorem readLine_behind (front : List Deal) (s : Reading) (line : List Char) :
    (s.behind front).readLine limit line = (s.readLine limit line).map (.behind front) := by
  cases lineKind line with
  | board hboard =>
    rw [readLine_of_board hboard, readLine_of_board hboard]
    cases Text.readIntegerWithin? limit (unquoted _) <;> rfl
  | vulnerable hboard hvulnerable =>
    rw [readLine_of_vulnerable hboard hvulnerable, readLine_of_vulnerable hboard hvulnerable]
    cases Vulnerability.ofText _ <;> rfl
  | deal hboard hvulnerable hdeal =>
    rw [readLine_of_deal hboard hvulnerable hdeal, readLine_of_deal hboard hvulnerable hdeal]
    simp only [Reading.behind]
    cases read _ s.number (s.vulnerability.elim .none fun v => .number v.index) with
    | error _ => rfl
    | ok deal => simp [bind, Except.bind, pure, Except.pure, Except.map, Reading.behind]
  | other hboard hvulnerable hdeal =>
    rw [readLine_of_none hboard hvulnerable hdeal, readLine_of_none hboard hvulnerable hdeal]
    rfl

theorem readLines_behind (front : List Deal) (s : Reading) (lines : List (List Char)) :
    (s.behind front).readLines limit lines = (s.readLines limit lines).map (.behind front) := by
  induction lines generalizing s with
  | nil => rfl
  | cons line lines ih =>
    rw [readLines_cons, readLines_cons, readLine_behind]
    cases s.readLine limit line with
    | error _ => rfl
    | ok t => exact ih t

/-! ## Lines that change nothing or set the number -/

theorem readLine_of_strip_eq_nil (h : Text.strip line = []) : s.readLine limit line = .ok s := by
  apply readLine_of_none <;> rw [h] <;> rfl

theorem readLines_blanks (h : ∀ blank ∈ lines, Text.strip blank = []) :
    s.readLines limit lines = .ok s := by
  induction lines with
  | nil => rfl
  | cons blank lines ih =>
    obtain ⟨hblank, hlines⟩ := List.forall_mem_cons.1 h
    rw [readLines_cons, readLine_of_strip_eq_nil hblank]
    exact ih hlines

/-- The number that is set makes no difference to a text that begins with a board tag. -/
theorem readLines_number (h : OpensWithBoard text) (s : Reading) (number : Int) :
    Reading.readLines limit { s with number } (Text.lines text) =
      s.readLines limit (Text.lines text) := by
  obtain ⟨blanks, line, others, hlines, hblanks, hboard⟩ := h
  obtain ⟨value, hvalue⟩ := Option.isSome_iff_exists.1 hboard
  rw [hlines, readLines_append, readLines_append, readLines_blanks hblanks,
    readLines_blanks hblanks]
  show Reading.readLines limit { s with number } (line :: others) =
    s.readLines limit (line :: others)
  rw [readLines_cons, readLines_cons, readLine_of_board hvalue, readLine_of_board hvalue]

/-! ## The vulnerability that is set -/

/-- Some deals, the first with a vulnerability that was set before. -/
def inherit : Option Vulnerability → List Deal → List Deal
  | some v, d :: deals => { d with vulnerability := v } :: deals
  | _, deals => deals

/-- A deal that is read with the vulnerability of its board is read with any that is asked for. -/
theorem read_of_read_none {value : List Char} {number : Int} {d : Deal}
    (h : read value number .none = .ok d) (v : Vulnerability) :
    read value number (.number v.index) = .ok { d with vulnerability := v } := by
  obtain ⟨hands, hhands, h⟩ := except_bind_eq_ok_iff.1 h
  obtain ⟨asked, -, h⟩ := except_bind_eq_ok_iff.1 h
  obtain ⟨_, hcheck, h⟩ := except_bind_eq_ok_iff.1 h
  obtain ⟨_, -, h⟩ := except_bind_eq_ok_iff.1 h
  cases h
  rw [read, hhands]
  show ofHandsLiteral hands (.number v.index) number = _
  rw [ofHandsLiteral, hcheck, Vulnerability.ofLiteral_index]
  rfl

/-- **A vulnerability that is set goes to the first deal that is read,** unless the lines set their
own before it. -/
theorem readLines_vulnerable {number : Int} (h : Reading.readLines limit ⟨[], number, none⟩ lines =
      .ok s) (v : Vulnerability) :
    ∃ t, Reading.readLines limit ⟨[], number, some v⟩ lines = .ok t ∧
      t.deals = inherit (if setsVulnerability lines then none else some v) s.deals := by
  induction lines generalizing number s with
  | nil =>
    cases h
    exact ⟨_, rfl, rfl⟩
  | cons line lines ih =>
    rw [readLines_cons] at h ⊢
    cases lineKind line with
    | board hboard hvulnerable hdeal =>
      rw [setsVulnerability_cons hdeal, isTag, hvulnerable, Option.isSome_none, Bool.false_or]
      rw [readLine_of_board hboard] at h ⊢
      cases hnumber : Text.readIntegerWithin? limit (unquoted _) with
      | none =>
        rw [hnumber] at h
        cases h
      | some n =>
        rw [hnumber] at h
        exact ih h
    | vulnerable hboard hvulnerable hdeal =>
      -- the line leaves the same state either way
      rw [setsVulnerability_cons hdeal, isTag, hvulnerable, Option.isSome_some, Bool.true_or]
      rw [readLine_of_vulnerable hboard hvulnerable] at h ⊢
      exact ⟨s, h, rfl⟩
    | deal hboard hvulnerable hdeal =>
      rw [setsVulnerability_cons_of_deal hdeal]
      rw [readLine_of_deal hboard hvulnerable hdeal] at h ⊢
      obtain ⟨mid, hmid, h⟩ := except_bind_eq_ok_iff.1 h
      obtain ⟨d, hread, hmid⟩ := except_bind_eq_ok_iff.1 hmid
      cases hmid
      -- what the other lines add stands behind the deal, whatever its vulnerability is
      have hbehind : ∀ e : Deal, Reading.readLines limit ⟨[] ++ [e], number + 1, none⟩ lines =
          (Reading.readLines limit ⟨[], number + 1, none⟩ lines).map (.behind [e]) :=
        fun e => readLines_behind [e] ⟨[], number + 1, none⟩ lines
      rw [hbehind] at h
      cases hothers : Reading.readLines limit ⟨[], number + 1, none⟩ lines with
      | error _ =>
        rw [hothers] at h
        cases h
      | ok others =>
        rw [hothers] at h
        cases h
        refine ⟨others.behind [{ d with vulnerability := v }], ?_, rfl⟩
        have hasked := read_of_read_none hread v
        dsimp only [Option.elim]
        rw [hasked]
        show Reading.readLines limit ⟨[] ++ [_], number + 1, none⟩ lines = _
        rw [hbehind, hothers]
        rfl
    | other hboard hvulnerable hdeal =>
      rw [setsVulnerability_cons hdeal, isTag, hvulnerable, Option.isSome_none, Bool.false_or]
      rw [readLine_of_none hboard hvulnerable hdeal] at h ⊢
      exact ih h

/-! ## One text behind the other -/

/-- The vulnerability that is still set behind a text. -/
def pendingAfter (limit : Text.DigitLimit) (text : List Char) : Option Vulnerability :=
  match Reading.start.readLines limit (Text.lines text) with
  | .ok s => s.vulnerability
  | .error _ => none

theorem readAllWithin_eq_ok_iff : readAllWithin limit text = .ok deals ↔
    ∃ s, Reading.start.readLines limit (Text.lines text) = .ok s ∧ s.deals = deals := by
  rw [readAllWithin]
  exact except_bind_pure_eq_ok_iff

/-- The deals that a text with a board tag in front adds to those of another text. -/
theorem readAllWithin_join {first second : List Char} {ds es : List Deal}
    (hfirst : readAllWithin limit first = .ok ds) (hsecond : readAllWithin limit second = .ok es)
    (hboard : OpensWithBoard second) :
    readAllWithin limit (first ++ '\n' :: second) =
      .ok (ds ++ inherit (if setsVulnerability (Text.lines second) then none
        else pendingAfter limit first) es) := by
  obtain ⟨s, hs, rfl⟩ := readAllWithin_eq_ok_iff.1 hfirst
  obtain ⟨t, ht, rfl⟩ := readAllWithin_eq_ok_iff.1 hsecond
  obtain ⟨gap, hgap, hlines⟩ := Text.lines_append_lineFeed first second
  have hblanks : ∀ blank ∈ gap, Text.strip blank = [] := by
    rcases hgap with rfl | rfl
    · simp
    · simp [Text.strip, Text.stripFront, Text.stripBack]
  -- behind the first text only its deals and what it left set are there
  have hjoined : Reading.start.readLines limit (Text.lines (first ++ '\n' :: second)) =
      (Reading.readLines limit ⟨[], 1, s.vulnerability⟩ (Text.lines second)).map
        (.behind s.deals) := by
    rw [hlines, List.append_assoc, readLines_append, hs]
    show s.readLines limit (gap ++ Text.lines second) = _
    rw [readLines_append, readLines_blanks hblanks, ← readLines_behind]
    show s.readLines limit (Text.lines second) = _
    rw [← readLines_number hboard s 1, Reading.behind, List.append_nil]
  have hpending : pendingAfter limit first = s.vulnerability := by
    rw [pendingAfter, hs]
  rw [hpending]
  cases hv : s.vulnerability with
  | none =>
    rw [hv] at hjoined
    refine readAllWithin_eq_ok_iff.2 ⟨t.behind s.deals, ?_, ?_⟩
    · rw [hjoined, ← Reading.start, ht]
      rfl
    · rw [ite_self]
      rfl
  | some v =>
    rw [hv] at hjoined
    obtain ⟨u, hu, hdeals⟩ := readLines_vulnerable ht v
    refine readAllWithin_eq_ok_iff.2 ⟨u.behind s.deals, ?_, ?_⟩
    · rw [hjoined, hu]
      rfl
    · rw [← hdeals]
      rfl

/-- **A text behind another one is read as if it stood alone, but for one vulnerability.** If it
begins with a board tag its deals have the hands and numbers that they have alone, and from the
second deal on all is the same. So is the first deal if the text before left no vulnerability set or
the text sets one itself; otherwise the first deal has the vulnerability that was left. -/
theorem readAll_append_lineFeed {first second : List Char} {ds es : List Deal}
    (hfirst : readAllWithin limit first = .ok ds) (hsecond : readAllWithin limit second = .ok es)
    (hboard : OpensWithBoard second) :
    ∃ es', readAllWithin limit (first ++ '\n' :: second) = .ok (ds ++ es') ∧
      es'.map (fun d => (d.hands, d.number)) = es.map (fun d => (d.hands, d.number)) ∧
      es'.tail = es.tail ∧
      (pendingAfter limit first = none ∨ setsVulnerability (Text.lines second) = true →
        es' = es) ∧
      ∀ v, pendingAfter limit first = some v → setsVulnerability (Text.lines second) = false →
        ∀ d ∈ es'.head?, d.vulnerability = v := by
  refine ⟨_, readAllWithin_join hfirst hsecond hboard, ?_⟩
  generalize hcarried : (if setsVulnerability (Text.lines second) then none
    else pendingAfter limit first) = carried
  refine ⟨?_, ?_, ?_, ?_⟩
  · cases carried <;> cases es <;> rfl
  · cases carried <;> cases es <;> rfl
  · intro h
    have hnone : carried = none := by
      rcases h with h | h <;> simp [← hcarried, h]
    rw [hnone]
    rfl
  · intro v hv hsets d hd
    have hsome : carried = some v := by simp [← hcarried, hv, hsets]
    subst hsome
    cases es with
    | nil => simp [inherit] at hd
    | cons e es =>
      simp only [inherit, List.head?_cons, Option.mem_some_iff] at hd
      rw [← hd]

/-- A board that has a vulnerability and no deal. -/
def deallessBoard : List Char := "[Board \"1\"]\n[Vulnerable \"Both\"]".toList

/-- A board that leaves its vulnerability to its number. -/
def untaggedBoard : List Char :=
  ("[Board \"2\"]\n[Deal \"N:AKQJT98765432... .AKQJT98765432.. ..AKQJT98765432. " ++
    "...AKQJT98765432\"]").toList

theorem readAll_deallessBoard : readAll deallessBoard = .ok [] := by rfl

theorem readAll_untaggedBoard :
    readAll untaggedBoard = .ok [⟨oneSuitEach, .northSouth, 2⟩] := by rfl

theorem opensWithBoard_untaggedBoard : OpensWithBoard untaggedBoard :=
  ⟨[], _, _, rfl, by simp, rfl⟩

theorem pendingAfter_deallessBoard :
    pendingAfter Text.usualLimit deallessBoard = some .both := by rfl

theorem setsVulnerability_untaggedBoard :
    setsVulnerability (Text.lines untaggedBoard) = false := by rfl

/-- Behind the board without a deal the other one is read with all vulnerable. -/
theorem readAll_append_lineFeed_dealless :
    ∃ d, readAll (deallessBoard ++ '\n' :: untaggedBoard) = .ok [d] ∧ d.hands = oneSuitEach ∧
      d.number = 2 ∧ d.vulnerability = .both := by
  have hfirst := readAll_deallessBoard
  have hsecond := readAll_untaggedBoard
  rw [readAll] at hfirst hsecond
  obtain ⟨es', hread, hsame, -, -, hinherits⟩ := readAll_append_lineFeed
    hfirst hsecond opensWithBoard_untaggedBoard
  have hone : es'.length = 1 := by simpa using congrArg List.length hsame
  obtain ⟨d, rfl⟩ := List.length_eq_one_iff.1 hone
  simp only [List.map_cons, List.map_nil, List.cons.injEq, Prod.mk.injEq, and_true] at hsame
  have hboth := hinherits .both pendingAfter_deallessBoard setsVulnerability_untaggedBoard d rfl
  rw [readAll, hread]
  exact ⟨d, rfl, hsame.1, hsame.2, hboth⟩

/-- **A vulnerability reaches the next board.** Alone the second board has north and south
vulnerable, as its number says; behind a board without a deal it has the vulnerability of that
board. -/
theorem vulnerability_reaches_next_board :
    ¬ ∀ first second ds es, OpensWithBoard second → readAll first = .ok ds →
      readAll second = .ok es → readAll (first ++ '\n' :: second) = .ok (ds ++ es) := by
  intro h
  have halone := h deallessBoard untaggedBoard _ _ opensWithBoard_untaggedBoard
    readAll_deallessBoard readAll_untaggedBoard
  have hfirst := readAll_deallessBoard
  have hsecond := readAll_untaggedBoard
  rw [readAll] at hfirst hsecond halone
  rw [readAllWithin_join hfirst hsecond opensWithBoard_untaggedBoard,
    setsVulnerability_untaggedBoard, pendingAfter_deallessBoard] at halone
  simp [inherit] at halone

end ContractBridge.Deal
