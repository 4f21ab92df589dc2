/-
The deal that a hand record says.

A line of a hand record is a row of fields with bars between them, a name and its value in turn.
What such a line says of a deal is told by its values (`IsRecordOf`): the hands with the dealer in
front of them, the vulnerability by its letter, and the number behind a word. There is at most one
deal that a line says this of (`IsRecordOf.unique`), whatever it was printed from.

The printed line of hands that divide the deck says it of the deal. The four hands hold letters of
suits and marks only, so no bar and no comma is in them, and each is read from its lettered form,
voids included. A number is printed if the limit on its digits admits it.
-/
import ContractBridge.Proofs.CardSet.Forms
import ContractBridge.Proofs.Deal.Session

set_option autoImplicit false

namespace ContractBridge

theorem Vulnerability.letter_inj {v w : Vulnerability} (h : v.letter = w.letter) : v = w := by
  cases v <;> cases w <;> first | rfl | exact absurd h (by decide)

namespace Deal

variable {d d' : Deal} {line : List Char} {limit : Text.DigitLimit}

/-! ## What a line says -/

/-- The fields of a line taken in pairs, a name and its value. -/
def recordPairs : List (List Char) → List (List Char × List Char)
  | name :: value :: fields => (name, value) :: recordPairs fields
  | _ => []

/-- The value that a line has behind a name. -/
def recordValue? (name : String) (line : List Char) : Option (List Char) :=
  (recordPairs (Text.fields '|' line)).lookup name.toList

/-- **What a line says of a deal.** The hands are those of south, west, north and east, and the
digit in front of them is the place of the dealer among these, from 1. -/
structure IsRecordOf (line : List Char) (d : Deal) : Prop where
  hands : ∃ (digit : Char) (holdings : List Char) (place : Nat),
    recordValue? "md" line = some (digit :: holdings) ∧
      Text.decimal ((place + 1 : Nat) : Int) = [digit] ∧
      [Seat.south, .west, .north, .east][place]? = some d.dealer ∧
      (Text.fields ',' holdings).mapM CardSet.read = .ok [d.hands.south.cards,
        d.hands.west.cards, d.hands.north.cards, d.hands.east.cards]
  vulnerability : ∀ v : Vulnerability,
    recordValue? "sv" line = some [v.letter] ↔ v = d.vulnerability
  number : ∃ digits, recordValue? "ah" line = some ("Board ".toList ++ digits) ∧
    Text.readIntegerWithin? none digits = some d.number

/-- **A line says it of one deal at most.** -/
theorem IsRecordOf.unique (h : IsRecordOf line d) (h' : IsRecordOf line d') : d = d' := by
  have hhands : d.hands = d'.hands := by
    obtain ⟨digit, holdings, _, hvalue, -, -, hread⟩ := h.hands
    obtain ⟨digit', holdings', _, hvalue', -, -, hread'⟩ := h'.hands
    cases hvalue.symm.trans hvalue'
    have hcards := Except.ok.inj (hread.symm.trans hread')
    simp only [List.cons.injEq, and_true] at hcards
    obtain ⟨hsouth, hwest, hnorth, heast⟩ := hcards
    apply Seats.ext_get
    intro seat
    cases seat with
    | north => exact congrArg Hand.mk hnorth
    | east => exact congrArg Hand.mk heast
    | south => exact congrArg Hand.mk hsouth
    | west => exact congrArg Hand.mk hwest
  have hvulnerability : d.vulnerability = d'.vulnerability :=
    (h'.vulnerability _).1 ((h.vulnerability _).2 rfl)
  have hnumber : d.number = d'.number := by
    obtain ⟨digits, hvalue, hread⟩ := h.number
    obtain ⟨digits', hvalue', hread'⟩ := h'.number
    have hdigits : digits = digits' :=
      List.append_cancel_left (Option.some.inj (hvalue.symm.trans hvalue'))
    rw [hdigits] at hread
    exact Option.some.inj (hread.symm.trans hread')
  cases d
  cases d'
  cases hhands
  cases hvulnerability
  cases hnumber
  rfl

/-! ## The printed line -/

/-- The lettered hands in the order of a hand record. -/
def recordHands (d : Deal) : List (List Char) :=
  recordOrder.map fun seat => CardSet.headed Suit.letter (d.hands.get seat).cards Suit.all

/-- The fields of the printed line. -/
def recordFields (d : Deal) : List (List Char) :=
  ["st".toList, [], "md".toList, Text.decimal ((recordOrder.idxOf d.dealer + 1 : Nat) : Int) ++
      List.intercalate [','] d.recordHands,
    "sv".toList, [d.vulnerability.letter], "rh".toList, [], "ah".toList,
    "Board ".toList ++ Text.decimal d.number, []]

/-- A record is printed if the limit admits its number. -/
theorem recordWithin_eq (h : d.hands.IsDealt) (limit : Text.DigitLimit) :
    d.recordWithin limit = if limit.admits (Text.digitCount d.number)
      then .ok (List.intercalate ['|'] d.recordFields) else .error .tooManyDigits := by
  have hhands : recordOrder.mapM (fun seat => lettered (d.hands.get seat)) = .ok d.recordHands :=
    mapM_eq_pure_map fun seat _ => CardSet.lettered_eq_ok (h.has_deck seat)
  rw [recordWithin, hhands, numberWithin, Text.writeIntegerWithin?]
  by_cases hlimit : limit.admits (Text.digitCount d.number) = true
  · rw [if_pos hlimit, if_pos hlimit]
    refine congrArg Except.ok ?_
    simp [recordFields]
  · rw [if_neg hlimit, if_neg hlimit]
    rfl

/-- The place of the dealer in the order of a hand record is one digit. -/
theorem exists_dealer_digit (seat : Seat) : ∃ digit,
    Text.decimal ((recordOrder.idxOf seat + 1 : Nat) : Int) = [digit] ∧ digit.isDigit = true := by
  cases seat <;> exact ⟨_, rfl, rfl⟩

/-- The lettered hands have no characters but letters of suits and marks. -/
theorem isAlphanum_of_mem_recordHands (h : d.hands.IsDealt) {hand : List Char}
    (hhand : hand ∈ d.recordHands) {c : Char} (hc : c ∈ hand) : c.isAlphanum = true := by
  obtain ⟨seat, -, rfl⟩ := List.mem_map.1 hhand
  rcases CardSet.mem_headed (h.has_deck seat) hc with ⟨suit, rfl⟩ | hmark
  · cases suit <;> decide
  · have hall : (Card.rankMarks.drop 2).all Char.isAlphanum = true := by decide
    exact List.all_eq_true.1 hall c hmark

theorem bar_not_mem_hands (h : d.hands.IsDealt) :
    '|' ∉ Text.decimal ((recordOrder.idxOf d.dealer + 1 : Nat) : Int) ++
      List.intercalate [','] d.recordHands := by
  obtain ⟨digit, hdigit, hisDigit⟩ := exists_dealer_digit d.dealer
  rw [hdigit, List.mem_append, List.mem_singleton]
  rintro (rfl | hbar)
  · cases hisDigit
  · rcases Text.mem_of_mem_intercalate hbar with hcomma | ⟨hand, hhand, hbar⟩
    · exact absurd hcomma (by decide)
    · exact absurd (isAlphanum_of_mem_recordHands h hhand hbar) (by decide)

theorem bar_not_mem_board (n : Int) : '|' ∉ "Board ".toList ++ Text.decimal n := by
  rw [List.mem_append]
  rintro (hbar | hbar)
  · exact absurd hbar (by decide)
  · rcases Text.isDigit_of_mem_decimal hbar with hdigit | hsign
    · exact absurd hdigit (by decide)
    · exact absurd hsign (by decide)

/-- The printed line has the fields that it was put together from. -/
theorem fields_recordFields (h : d.hands.IsDealt) :
    Text.fields '|' (List.intercalate ['|'] d.recordFields) = d.recordFields := by
  refine Text.fields_intercalate (List.cons_ne_nil _ _) fun field hfield => ?_
  simp only [recordFields, List.mem_cons, List.not_mem_nil, or_false] at hfield
  rcases hfield with rfl | rfl | rfl | rfl | rfl | rfl | rfl | rfl | rfl | rfl | rfl
  · decide
  · decide
  · decide
  · exact bar_not_mem_hands h
  · decide
  · cases d.vulnerability <;> decide
  · decide
  · decide
  · decide
  · exact bar_not_mem_board d.number
  · decide

theorem fields_recordHands (h : d.hands.IsDealt) :
    Text.fields ',' (List.intercalate [','] d.recordHands) = d.recordHands :=
  Text.fields_intercalate (List.cons_ne_nil _ _) fun _ hhand hcomma =>
    absurd (isAlphanum_of_mem_recordHands h hhand hcomma) (by decide)

theorem mapM_read_recordHands (h : d.hands.IsDealt) : d.recordHands.mapM CardSet.read =
    .ok (recordOrder.map fun seat => (d.hands.get seat).cards) := by
  rw [recordHands, List.mapM_map]
  exact mapM_eq_pure_map fun seat _ => CardSet.read_lettered (h.has_deck seat)

/-- **The printed line says it of the deal.** -/
theorem isRecordOf_recordFields (h : d.hands.IsDealt) :
    IsRecordOf (List.intercalate ['|'] d.recordFields) d where
  hands := by
    obtain ⟨digit, hdigit, -⟩ := exists_dealer_digit d.dealer
    refine ⟨digit, List.intercalate [','] d.recordHands, recordOrder.idxOf d.dealer, ?_, hdigit, ?_,
      ?_⟩
    · rw [recordValue?, fields_recordFields h, recordFields, hdigit]
      rfl
    · cases d.dealer <;> rfl
    · rw [fields_recordHands h, mapM_read_recordHands h]
      rfl
  vulnerability v := by
    have hvalue : recordValue? "sv" (List.intercalate ['|'] d.recordFields) =
        some [d.vulnerability.letter] := by
      rw [recordValue?, fields_recordFields h]
      rfl
    rw [hvalue, Option.some_inj, List.singleton_inj]
    exact ⟨fun hletter => (Vulnerability.letter_inj hletter).symm, fun hv => hv ▸ rfl⟩
  number := by
    refine ⟨Text.decimal d.number, ?_, ?_⟩
    · rw [recordValue?, fields_recordFields h]
      rfl
    · rw [Text.readIntegerWithin?_decimal]
      rfl

/-- **The hand record of hands that divide the deck determines the deal.** It is printed exactly if
the limit admits the board number, and what is printed says which hands they are, whose deal it is,
who is vulnerable and which number it has; no other deal has the same record. -/
theorem record_determines (d : Deal) (h : d.hands.IsDivision) (limit : Text.DigitLimit) :
    ((∃ line, d.recordWithin limit = .ok line) ↔
      limit.admits (Text.digitCount d.number) = true) ∧
    ∀ line, d.recordWithin limit = .ok line → IsRecordOf line d ∧
      ∀ d' : Deal, d'.hands.IsDivision → d'.recordWithin limit = .ok line → d' = d := by
  have hrecord : ∀ (d : Deal) (line : List Char), d.hands.IsDivision →
      d.recordWithin limit = .ok line → IsRecordOf line d := by
    intro d line h hline
    rw [recordWithin_eq h.isDealt] at hline
    split at hline
    · cases hline
      exact isRecordOf_recordFields h.isDealt
    · cases hline
  refine ⟨?_, fun line hline => ⟨hrecord d line h hline, fun d' h' hline' => ?_⟩⟩
  · rw [recordWithin_eq h.isDealt]
    by_cases hlimit : limit.admits (Text.digitCount d.number) = true
    · rw [if_pos hlimit]
      exact ⟨fun _ => hlimit, fun _ => ⟨_, rfl⟩⟩
    · rw [if_neg hlimit]
      constructor
      · rintro ⟨_, hline⟩
        cases hline
      · intro hadmits
        exact absurd hadmits hlimit
  · exact (hrecord d' line h' hline').unique (hrecord d line h hline)

/-- South deals and has the diamonds, and three suits of every hand are void. -/
theorem record_oneSuitEach : oneSuitEach.IsDivision ∧
    IsRecordOf ("st||md|1SHDAKQJT98765432C,SHDCAKQJT98765432,SAKQJT98765432HDC," ++
      "SHAKQJT98765432DC|sv|e|rh||ah|Board 7|").toList ⟨oneSuitEach, .eastWest, 7⟩ :=
  ⟨isDivision_oneSuitEach,
    ((record_determines _ isDivision_oneSuitEach Text.usualLimit).2 _ (by rfl)).1⟩

end Deal

end ContractBridge
