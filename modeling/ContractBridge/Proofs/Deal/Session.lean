/-
Deals written as tag lines and read back.

The reader goes through the lines with a state: the deals so far, the number of the next deal and
the vulnerability set for it. Whatever the state is, the four lines of one deal add this deal, its
own number and vulnerability included, and leave no vulnerability set (`foldlM_tagBlock`); the empty
line between two deals changes nothing. So by induction a written session is read as its deals, and
nothing of one deal reaches the next.

Numbers are written and read under one limit on their digits. If it admits the numbers of all
deals, and so in any case without a limit, the session is written and read back; if not, it is not
written.
-/
import ContractBridge.Proofs.Deal.Notation
import ContractBridge.Proofs.Text.Numeral

set_option autoImplicit false

namespace ContractBridge

namespace Vulnerability

/-- The name on a tag line, in its quotes, is read as the state. -/
theorem ofText_tag (v : Vulnerability) : ofText ('"' :: v.tag.toList ++ ['"']) = .ok v := by
  cases v <;> rfl

theorem ofLiteral_index (v : Vulnerability) : ofLiteral (.number v.index) = .ok v := by
  cases v <;> rfl

end Vulnerability

namespace Deal

variable {limit : Text.DigitLimit} {d : Deal} {deals : List Deal} {s : Reading}
  {value : List Char}

/-! ## Tag lines -/

theorem tagLine_eq (name : String) (value : List Char) :
    tagLine name value = '[' :: (name.toList ++ ' ' :: '"' :: value ++ ['"']) ++ [']'] := by
  simp only [tagLine, List.cons_append, List.append_assoc, List.nil_append]

theorem strip_tagLine (name : String) (value : List Char) :
    Text.strip (tagLine name value) = tagLine name value := by
  rw [tagLine_eq]
  exact Text.strip_cons_append rfl (List.cons_ne_nil _ _) fun _ h => List.mem_singleton.1 h ▸ rfl

theorem isLine_tagLine {name : String} (hname : Text.IsLine name.toList)
    (hvalue : Text.IsLine value) : Text.IsLine (tagLine name value) := by
  intro c hc
  rw [tagLine] at hc
  simp only [List.cons_append, List.mem_cons, List.mem_append, List.not_mem_nil, or_false] at hc
  rcases hc with rfl | (hc | rfl | rfl | hc) | rfl | rfl
  · decide
  · exact hname c hc
  · decide
  · decide
  · exact hvalue c hc
  · decide
  · decide

/-- The value of a tag line of the name that is asked for. -/
theorem tagValue?_strip_tagLine (name : String) (value : List Char) :
    tagValue? name (Text.strip (tagLine name value)) = some ('"' :: value ++ ['"']) := by
  have hline : tagLine name value =
      ('[' :: name.toList ++ [' ']) ++ ('"' :: value ++ ['"'] ++ [']']) := by
    simp only [tagLine, List.cons_append, List.append_assoc, List.nil_append]
  rw [strip_tagLine]
  unfold tagValue?
  dsimp only
  rw [hline, if_pos (List.isPrefixOf_iff_prefix.2 (List.prefix_append _ _)), List.drop_left,
    List.dropLast_concat]

/-! ## What each line does -/

section readLine

variable {line : List Char}

theorem readLine_of_board (h : tagValue? "Board" (Text.strip line) = some value) :
    s.readLine limit line =
      match Text.readIntegerWithin? limit (unquoted value) with
      | some number => .ok { s with number }
      | none => .error .unreadableNumber := by
  simp only [Reading.readLine, h]
  rfl

theorem readLine_of_vulnerable (hboard : tagValue? "Board" (Text.strip line) = none)
    (h : tagValue? "Vulnerable" (Text.strip line) = some value) :
    s.readLine limit line = (do
      return { s with vulnerability := some (← Vulnerability.ofText value) }) := by
  simp only [Reading.readLine, hboard, h]

theorem readLine_of_deal (hboard : tagValue? "Board" (Text.strip line) = none)
    (hvulnerable : tagValue? "Vulnerable" (Text.strip line) = none)
    (h : tagValue? "Deal" (Text.strip line) = some value) :
    s.readLine limit line = (do
      let deal ← read value s.number (s.vulnerability.elim .none fun v => .number v.index)
      return ⟨s.deals ++ [deal], s.number + 1, none⟩) := by
  simp only [Reading.readLine, hboard, hvulnerable, h]

theorem readLine_of_none (hboard : tagValue? "Board" (Text.strip line) = none)
    (hvulnerable : tagValue? "Vulnerable" (Text.strip line) = none)
    (hdeal : tagValue? "Deal" (Text.strip line) = none) : s.readLine limit line = .ok s := by
  simp only [Reading.readLine, hboard, hvulnerable, hdeal]
  rfl

end readLine

theorem readLine_board {n : Int} (h : limit.admits (Text.digitCount n) = true) (s : Reading) :
    s.readLine limit (tagLine "Board" (Text.decimal n)) = .ok { s with number := n } := by
  have hquote : '"' ∉ Text.decimal n := by
    intro hc
    rcases Text.isDigit_of_mem_decimal hc with hdigit | hsign
    · exact absurd hdigit (by decide)
    · exact absurd hsign (by decide)
  rw [readLine_of_board (tagValue?_strip_tagLine _ _), unquoted_quoted hquote,
    Text.readIntegerWithin?_decimal, if_pos h]

theorem readLine_dealer (limit : Text.DigitLimit) (s : Reading) (value : List Char) :
    s.readLine limit (tagLine "Dealer" value) = .ok s := by
  apply readLine_of_none <;> rw [strip_tagLine] <;> rfl

theorem readLine_vulnerable (limit : Text.DigitLimit) (s : Reading) (v : Vulnerability) :
    s.readLine limit (tagLine "Vulnerable" v.tag.toList) =
      .ok { s with vulnerability := some v } := by
  rw [readLine_of_vulnerable (by rw [strip_tagLine]; rfl) (tagValue?_strip_tagLine _ _),
    Vulnerability.ofText_tag]
  rfl

/-- Hands that divide the deck are read with the number and the vulnerability that are set. -/
theorem readLine_deal (limit : Text.DigitLimit) {hands : Hands} (h : hands.IsDivision)
    (deals : List Deal) (number : Int) (v : Vulnerability) :
    Reading.readLine limit ⟨deals, number, some v⟩
        (tagLine "Deal" (hands.lineFrom .north)) =
      .ok ⟨deals ++ [⟨hands, v, number⟩], number + 1, none⟩ := by
  have hread : read ('"' :: hands.lineFrom .north ++ ['"']) number (.number v.index) =
      .ok ⟨hands, v, number⟩ := by
    rw [read, readHands_lineFrom h.isDealt]
    show ofHandsLiteral hands (.number v.index) number = _
    rw [ofHandsLiteral, h.check_eq_ok, Vulnerability.ofLiteral_index]
    rfl
  rw [readLine_of_deal (by rw [strip_tagLine]; rfl) (by rw [strip_tagLine]; rfl)
    (tagValue?_strip_tagLine _ _)]
  dsimp only [Option.elim]
  rw [hread]
  rfl

/-- An empty line changes nothing. -/
theorem readLine_nil (limit : Text.DigitLimit) (s : Reading) : s.readLine limit [] = .ok s :=
  readLine_of_none rfl rfl rfl

/-! ## One deal -/

/-- The tag lines of a deal as they are printed. -/
def tagBlock (d : Deal) : List (List Char) :=
  [tagLine "Board" (Text.decimal d.number), tagLine "Dealer" [d.dealer.letter],
    tagLine "Vulnerable" d.vulnerability.tag.toList, tagLine "Deal" (d.hands.lineFrom .north)]

theorem tagLines_eq (h : d.hands.IsDivision) (limit : Text.DigitLimit) :
    d.tagLines limit = if limit.admits (Text.digitCount d.number) then .ok d.tagBlock
      else .error .tooManyDigits := by
  rw [tagLines, numberWithin, Text.writeIntegerWithin?, dotted_eq_ok h.isDealt]
  by_cases hlimit : limit.admits (Text.digitCount d.number) = true
  · rw [if_pos hlimit, if_pos hlimit]
    rfl
  · rw [if_neg hlimit, if_neg hlimit]
    rfl

/-- **The lines of a deal add the deal,** whatever was set before them. -/
theorem foldlM_tagBlock (h : d.hands.IsDivision)
    (hlimit : limit.admits (Text.digitCount d.number) = true) (s : Reading) :
    d.tagBlock.foldlM (Reading.readLine limit) s =
      .ok ⟨s.deals ++ [d], d.number + 1, none⟩ := by
  -- number, no change, vulnerability, and the deal with both
  simp only [tagBlock, List.foldlM_cons, List.foldlM_nil, readLine_board hlimit, readLine_dealer,
    readLine_vulnerable, readLine_deal limit h, bind, Except.bind]
  rfl

theorem isLine_of_mem_tagBlock (h : d.hands.IsDivision) {line : List Char}
    (hline : line ∈ d.tagBlock) : Text.IsLine line := by
  have hboard : Text.IsLine (tagLine "Board" (Text.decimal d.number)) :=
    isLine_tagLine (by decide) (Text.isLine_of_not_blank fun _ => Text.isBlank_of_mem_decimal)
  have hdealer : Text.IsLine (tagLine "Dealer" [d.dealer.letter]) :=
    isLine_tagLine (by decide) (by cases d.dealer <;> decide)
  have hvulnerable : Text.IsLine (tagLine "Vulnerable" d.vulnerability.tag.toList) :=
    isLine_tagLine (by decide) (by cases d.vulnerability <;> decide)
  have hdeal : Text.IsLine (tagLine "Deal" (d.hands.lineFrom .north)) :=
    isLine_tagLine (by decide) (Hands.isLine_lineFrom h.isDealt .north)
  simp only [tagBlock, List.mem_cons, List.not_mem_nil, or_false] at hline
  rcases hline with rfl | rfl | rfl | rfl
  · exact hboard
  · exact hdealer
  · exact hvulnerable
  · exact hdeal

/-! ## Any number of deals -/

/-- The lines of several deals, an empty one between two of them. No deals are an empty line. -/
def sessionLines : List Deal → List (List Char)
  | [] => [[]]
  | [d] => d.tagBlock
  | d :: next :: deals => d.tagBlock ++ [] :: sessionLines (next :: deals)

/-- **The lines of several deals add the deals.** -/
theorem foldlM_sessionLines
    (h : ∀ d ∈ deals, d.hands.IsDivision ∧ limit.admits (Text.digitCount d.number) = true)
    (s : Reading) : ∃ s', (sessionLines deals).foldlM (Reading.readLine limit) s = .ok s' ∧
      s'.deals = s.deals ++ deals := by
  induction deals generalizing s with
  | nil =>
    refine ⟨s, ?_, (List.append_nil _).symm⟩
    rw [sessionLines, List.foldlM_cons, readLine_nil]
    rfl
  | cons d deals ih =>
    obtain ⟨⟨hdivision, hlimit⟩, hdeals⟩ := List.forall_mem_cons.1 h
    cases deals with
    | nil => exact ⟨_, foldlM_tagBlock hdivision hlimit s, rfl⟩
    | cons next deals =>
      -- the others are read from the state that the first deal leaves
      obtain ⟨s', hrun, hread⟩ := ih hdeals ⟨s.deals ++ [d], d.number + 1, none⟩
      refine ⟨s', ?_, ?_⟩
      · rw [sessionLines, List.foldlM_append, foldlM_tagBlock hdivision hlimit]
        show (do let s ← Reading.readLine limit _ []; _) = _
        rw [readLine_nil]
        exact hrun
      · rw [hread, List.append_assoc, List.singleton_append]

theorem isLine_of_mem_sessionLines (h : ∀ d ∈ deals, d.hands.IsDivision) {line : List Char}
    (hline : line ∈ sessionLines deals) : Text.IsLine line := by
  induction deals with
  | nil =>
    rw [List.mem_singleton.1 hline]
    exact fun _ hc => absurd hc List.not_mem_nil
  | cons d deals ih =>
    obtain ⟨hdivision, hdeals⟩ := List.forall_mem_cons.1 h
    cases deals with
    | nil => exact isLine_of_mem_tagBlock hdivision hline
    | cons next deals =>
      rcases List.mem_append.1 hline with hline | hline
      · exact isLine_of_mem_tagBlock hdivision hline
      · rcases List.mem_cons.1 hline with rfl | hline
        · exact fun _ hc => absurd hc List.not_mem_nil
        · exact ih hdeals hline

/-- The printed deals are their lines, each with a line feed behind it. -/
theorem intercalate_tagBlock (deals : List Deal) :
    List.intercalate ['\n', '\n'] (deals.map fun d => Text.joinLines d.tagBlock) ++ ['\n'] =
      Text.withEnds (sessionLines deals) := by
  induction deals with
  | nil => rfl
  | cons d deals ih =>
    have hblock : Text.joinLines d.tagBlock ++ ['\n'] = Text.withEnds d.tagBlock :=
      Text.joinLines_append (List.cons_ne_nil _ _)
    cases deals with
    | nil => rw [List.map_singleton, List.intercalate_singleton, sessionLines, hblock]
    | cons next deals =>
      rw [List.map_cons] at ih
      rw [List.map_cons, List.map_cons, List.intercalate_cons_cons, List.append_assoc, ih,
        sessionLines, Text.withEnds_append, ← hblock]
      simp only [List.append_assoc, List.cons_append, List.nil_append]
      rfl

/-! ## The session -/

theorem writeAllWithin_eq_ok
    (h : ∀ d ∈ deals, d.hands.IsDivision ∧ limit.admits (Text.digitCount d.number) = true) :
    writeAllWithin limit deals = .ok (Text.withEnds (sessionLines deals)) := by
  have htags : deals.mapM (tagsWithin limit) =
      .ok (deals.map fun d => Text.joinLines d.tagBlock) := by
    refine mapM_eq_pure_map fun d hd => ?_
    obtain ⟨hdivision, hlimit⟩ := h d hd
    rw [tagsWithin, tagLines_eq hdivision, if_pos hlimit]
    rfl
  rw [writeAllWithin, htags, ← intercalate_tagBlock]
  rfl

theorem readAllWithin_sessionLines
    (h : ∀ d ∈ deals, d.hands.IsDivision ∧ limit.admits (Text.digitCount d.number) = true) :
    readAllWithin limit (Text.withEnds (sessionLines deals)) = .ok deals := by
  obtain ⟨s, hrun, hread⟩ := foldlM_sessionLines h Reading.start
  have hlines := Text.lines_withEnds fun line hline =>
    isLine_of_mem_sessionLines (fun d hd => (h d hd).1) hline
  rw [readAllWithin, hlines, hrun]
  exact congrArg Except.ok hread

/-- Deals that are written have numbers that the limit admits. -/
theorem admits_of_writeAllWithin {text : List Char} (hwrite : writeAllWithin limit deals = .ok text)
    (hd : d ∈ deals) (h : d.hands.IsDivision) :
    limit.admits (Text.digitCount d.number) = true := by
  obtain ⟨_, htags, -⟩ := except_bind_eq_ok_iff.1 hwrite
  obtain ⟨_, htag⟩ := except_mapM_eq_ok htags d hd
  obtain ⟨_, hlines, -⟩ := except_bind_eq_ok_iff.1 htag
  rw [tagLines_eq h] at hlines
  -- all deals are printed, so this one is, and without the limit's leave it would not be
  by_contra hlimit
  rw [if_neg hlimit] at hlines
  cases hlines

/-- **A session of deals that divide the deck is written and read back.** Without a limit on the
digits of a number that is so for all numbers; with one it is so exactly if the limit admits the
numbers of all deals. -/
theorem readAll_writeAll_iff (deals : List Deal) (h : ∀ d ∈ deals, d.hands.IsDivision) :
    (∃ text, writeAllWithin none deals = .ok text ∧ readAllWithin none text = .ok deals) ∧
      ∀ limit : Text.DigitLimit,
        (∃ text, writeAllWithin limit deals = .ok text ∧ readAllWithin limit text = .ok deals) ↔
          ∀ d ∈ deals, limit.admits (Text.digitCount d.number) = true := by
  have hround : ∀ limit : Text.DigitLimit,
      (∀ d ∈ deals, limit.admits (Text.digitCount d.number) = true) →
        ∃ text, writeAllWithin limit deals = .ok text ∧ readAllWithin limit text = .ok deals := by
    intro limit hlimit
    have hboth := fun d hd => And.intro (h d hd) (hlimit d hd)
    exact ⟨_, writeAllWithin_eq_ok hboth, readAllWithin_sessionLines hboth⟩
  refine ⟨hround none fun _ _ => rfl, fun limit => ⟨?_, hround limit⟩⟩
  rintro ⟨text, hwrite, -⟩ d hd
  exact admits_of_writeAllWithin hwrite hd (h d hd)

/-- A suit to each seat, so that every hand has three voids. -/
def oneSuitEach : Hands :=
  ⟨⟨.suitCards .spades⟩, ⟨.suitCards .hearts⟩, ⟨.suitCards .diamonds⟩, ⟨.suitCards .clubs⟩⟩

theorem isDivision_oneSuitEach : oneSuitEach.IsDivision where
  size_eq seat := by cases seat <;> decide
  apart seat other hne := by
    cases seat <;> cases other <;> first | exact absurd rfl hne | rfl
  covers := rfl

/-- Two boards with one number, a negative one, and different vulnerabilities. -/
theorem readAll_writeAll_oneSuitEach :
    ∃ text, writeAllWithin Text.usualLimit [⟨oneSuitEach, .both, -3⟩, ⟨oneSuitEach, .none, -3⟩] =
        .ok text ∧
      readAllWithin Text.usualLimit text =
        .ok [⟨oneSuitEach, .both, -3⟩, ⟨oneSuitEach, .none, -3⟩] :=
  ((readAll_writeAll_iff _ (List.forall_mem_cons.2 ⟨isDivision_oneSuitEach,
    List.forall_mem_cons.2 ⟨isDivision_oneSuitEach, fun _ h => absurd h List.not_mem_nil⟩⟩)).2
      Text.usualLimit).2 (by decide)

end Deal

end ContractBridge
