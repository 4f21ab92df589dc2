/-
What a line of a deal is read as.

A line has a seat before its first colon and four words behind it (`IsLine`). It names four hands if
each word is read as a hand: the first one that of the seat, the others those of the seats behind it
(`Names`). The hands are thirteen cards of the deck each, since nothing else is read from a word, so
all that is left to go wrong is a card in two hands; without that they divide the deck.

A line is refused for what is wrong with it first: its form, a word, or the cards of a seat
(`IsLineFault`). All of these are errors of dealing; in particular the cards that are dealt twice
can always be listed.
-/
import ContractBridge.Proofs.CardSet.Wording
import ContractBridge.Proofs.Deal.Refusal
import ContractBridge.Proofs.Dealer.Unconstrained

set_option autoImplicit false

namespace ContractBridge

namespace Seat

variable {c : Char} {seat : Seat}

theorem ofLetter?_eq_some_iff : ofLetter? c = some seat ↔ c = seat.letter := by
  constructor
  · intro h
    unfold ofLetter? at h
    split at h <;> cases h <;> rfl
  · rintro rfl
    exact ofLetter?_letter seat

/-- Every seat is one of the four turns from a seat on. -/
theorem exists_turn (first seat : Seat) : ∃ i : Nat, i < 4 ∧ first.turn i = seat := by
  refine ⟨(seat.index + 4 - first.index) % 4, Nat.mod_lt _ (by decide), ?_⟩
  cases first <;> cases seat <;> rfl

end Seat

/-! ## One hand -/

namespace CardSet

variable {text : List Char} {s : CardSet} {e : Error}

theorem parse_eq_ok_iff : parse text = .ok s ↔ read (Text.strip text) = .ok s := by
  rw [parse]
  cases read (Text.strip text) with
  | error e =>
    constructor
    · intro h; cases h
    · intro h; cases h
  | ok t => exact Iff.rfl

theorem isDealing_of_parse (h : parse text = .error e) : e.isDealing = true := by
  rw [parse] at h
  cases hread : read (Text.strip text) with
  | error cause =>
    simp only [hread] at h
    cases h
    rfl
  | ok t =>
    simp only [hread] at h
    cases h

end CardSet

namespace Hand

variable {text : String} {hand : Hand} {e : Error}

/-- What is read as a hand are thirteen cards of the deck. -/
theorem isDealt_of_read (h : read text = .ok hand) : hand.cards.size = handSize ∧
    ∀ i, hand.cards.has i = true → CardSet.deck.has i = true := by
  obtain ⟨cards, hcards, hhand⟩ := except_bind_eq_ok_iff.1 h
  split at hhand
  · next hsize =>
    cases hhand
    exact ⟨hsize, fun i => CardSet.has_deck_of_read (CardSet.parse_eq_ok_iff.1 hcards)⟩
  · cases hhand

theorem isDealing_of_read (h : read text = .error e) : e.isDealing = true := by
  rcases except_bind_eq_error_iff.1 h with hparse | ⟨cards, -, hsize⟩
  · exact CardSet.isDealing_of_parse hparse
  · split at hsize
    · cases hsize
    · cases hsize
      rfl

end Hand

/-! ## Four hands -/

namespace Deal

variable {text : List Char} {first : Seat} {words : List (List Char)} {hands : Hands} {e : Error}

/-- **A line of a deal:** a seat before the first colon and four words behind it. Quotes count for
nothing. -/
inductive IsLine (text : List Char) (first : Seat) (words : List (List Char)) : Prop
  | intro {front behind : List Char}
      (htext : Text.strip (unquoted text) = front ++ ':' :: behind) (hcolon : ':' ∉ front)
      (hfirst : Text.capitals (Text.strip front) = [first.letter])
      (hwords : Text.words behind = words) (hlength : words.length = 4)

/-- **The hands that a line names:** they are read from its words and belong to the seats from the
first one on. -/
def Names (text : List Char) (first : Seat) (hands : Hands) : Prop :=
  ∃ words, IsLine text first words ∧ ∀ (i : Nat) (word : List Char), words[i]? = some word →
    Hand.read (String.ofList word) = .ok (hands.get (first.turn i))

/-- **What a line is refused for:** that it is none, its first word from which no hand is read, or
the first seat with a card again. -/
inductive IsLineFault (text : List Char) : Error → Prop
  | form (h : ∀ first words, ¬ IsLine text first words) :
      IsLineFault text (.badDealText (Text.strip (unquoted text)))
  | word {first : Seat} {front rest : List (List Char)} {word : List Char} {e : Error}
      (hline : IsLine text first (front ++ word :: rest))
      (hfront : ∀ word ∈ front, ∃ hand, Hand.read (String.ofList word) = .ok hand)
      (hword : Hand.read (String.ofList word) = .error e) : IsLineFault text e
  | twice {first seat : Seat} {hands : Hands} {e : Error} (hnames : Names text first hands)
      (hseat : hands.IsFirstRefused seat) (hfor : hands.IsRefusedFor seat e) : IsLineFault text e

theorem firstSeat?_eq_some_iff :
    firstSeat? text = some first ↔ Text.capitals (Text.strip text) = [first.letter] := by
  unfold firstSeat?
  split
  · next c hc => rw [hc, Seat.ofLetter?_eq_some_iff, List.singleton_inj]
  · next hlist =>
    constructor
    · intro h; cases h
    · intro h; exact absurd h (hlist _)

theorem isLine_iff : IsLine text first words ↔
    partsOf? (Text.strip (unquoted text)) = some (first, words) ∧ words.length = 4 := by
  rw [partsOf?, Option.bind_eq_bind, Option.bind_eq_some_iff]
  constructor
  · rintro @⟨front, behind, htext, hcolon, hfirst, rfl, hlength⟩
    refine ⟨⟨_, Text.cut?_eq_some_iff.2 ⟨htext, hcolon⟩, ?_⟩, hlength⟩
    exact Option.bind_eq_some_iff.2 ⟨first, firstSeat?_eq_some_iff.2 hfirst, rfl⟩
  · rintro ⟨⟨⟨front, behind⟩, hcut, hparts⟩, hlength⟩
    obtain ⟨seat, hseat, hpair⟩ := Option.bind_eq_some_iff.1 hparts
    cases hpair
    obtain ⟨htext, hcolon⟩ := Text.cut?_eq_some_iff.1 hcut
    exact .intro htext hcolon (firstSeat?_eq_some_iff.1 hseat) rfl hlength

/-- The hands of four words, from a seat on. -/
def handsOf (first : Seat) (a b c d : List Char) : Except Error Hands := do
  return placed first (← Hand.read (String.ofList a)) (← Hand.read (String.ofList b))
    (← Hand.read (String.ofList c)) (← Hand.read (String.ofList d))

/-- A text is read as the hands of its words, if it is a line. -/
theorem readHands_cases (text : List Char) :
    (∃ first a b c d, IsLine text first [a, b, c, d] ∧ readHands text = handsOf first a b c d) ∨
      (∀ first words, ¬ IsLine text first words) ∧
        readHands text = .error (.badDealText (Text.strip (unquoted text))) := by
  unfold readHands
  dsimp only
  split
  · next first a b c d hparts =>
    exact .inl ⟨first, a, b, c, d, isLine_iff.2 ⟨hparts, rfl⟩, rfl⟩
  · next hnone =>
    refine .inr ⟨fun first words hline => ?_, rfl⟩
    obtain ⟨hparts, hlength⟩ := isLine_iff.1 hline
    obtain ⟨a, b, c, d, rfl⟩ := List.length_eq_four.1 hlength
    exact hnone first a b c d hparts

/-- A text is one line at most. -/
theorem IsLine.unique {first' : Seat} {words' : List (List Char)} (h : IsLine text first words)
    (h' : IsLine text first' words') : first = first' ∧ words = words' := by
  have hpair := (isLine_iff.1 h).1.symm.trans (isLine_iff.1 h').1
  exact Prod.mk.inj (Option.some.inj hpair)

theorem readHands_of_isLine {a b c d : List Char} (h : IsLine text first [a, b, c, d]) :
    readHands text = handsOf first a b c d := by
  rw [readHands, (isLine_iff.1 h).1]
  rfl

theorem placed_get_turn (first : Seat) (a b c d : Hand) :
    (placed first a b c d).get (first.turn 0) = a ∧
      (placed first a b c d).get (first.turn 1) = b ∧
      (placed first a b c d).get (first.turn 2) = c ∧
      (placed first a b c d).get (first.turn 3) = d := by
  cases first <;> exact ⟨rfl, rfl, rfl, rfl⟩

/-- **The hands of four words are those that the words are read as, each at its seat.** -/
theorem handsOf_eq_ok_iff {a b c d : List Char} : handsOf first a b c d = .ok hands ↔
    ∀ (i : Nat) (word : List Char), [a, b, c, d][i]? = some word →
      Hand.read (String.ofList word) = .ok (hands.get (first.turn i)) := by
  constructor
  · intro h i word hword
    obtain ⟨hand₀, ha, h⟩ := except_bind_eq_ok_iff.1 h
    obtain ⟨hand₁, hb, h⟩ := except_bind_eq_ok_iff.1 h
    obtain ⟨hand₂, hc, h⟩ := except_bind_eq_ok_iff.1 h
    obtain ⟨hand₃, hd, h⟩ := except_bind_eq_ok_iff.1 h
    cases h
    obtain ⟨h₀, h₁, h₂, h₃⟩ := placed_get_turn first hand₀ hand₁ hand₂ hand₃
    match i, hword with
    | 0, rfl => exact ha.trans (congrArg Except.ok h₀.symm)
    | 1, rfl => exact hb.trans (congrArg Except.ok h₁.symm)
    | 2, rfl => exact hc.trans (congrArg Except.ok h₂.symm)
    | 3, rfl => exact hd.trans (congrArg Except.ok h₃.symm)
  · intro h
    have ha : Hand.read (String.ofList a) = .ok (hands.get (first.turn 0)) := h 0 a rfl
    have hb : Hand.read (String.ofList b) = .ok (hands.get (first.turn 1)) := h 1 b rfl
    have hc : Hand.read (String.ofList c) = .ok (hands.get (first.turn 2)) := h 2 c rfl
    have hd : Hand.read (String.ofList d) = .ok (hands.get (first.turn 3)) := h 3 d rfl
    have hzero : first.turn 0 = first := by cases first <;> rfl
    rw [hzero] at ha
    rw [handsOf, ha, hb, hc, hd]
    exact congrArg Except.ok (placed_get hands first)

/-- The hands of four words are refused as the words are, one after another. -/
theorem handsOf_eq_error_iff {a b c d : List Char} : handsOf first a b c d = .error e ↔
    [a, b, c, d].mapM (fun word => Hand.read (String.ofList word)) = .error e := by
  have hpure : ∀ {α : Type} (a : α), ¬ (pure a : Except Error α) = .error e := by
    rintro _ _ ⟨⟩
  simp only [handsOf, List.mapM_cons, List.mapM_nil, except_bind_eq_error_iff, hpure, and_false,
    exists_false, or_false]

/-- **The lines that hands are read from are those that name them.** -/
theorem readHands_eq_ok_iff : readHands text = .ok hands ↔ ∃ first, Names text first hands := by
  constructor
  · intro h
    rcases readHands_cases text with ⟨first, a, b, c, d, hline, hread⟩ | ⟨-, hread⟩
    · exact ⟨first, _, hline, handsOf_eq_ok_iff.1 (hread.symm.trans h)⟩
    · cases h.symm.trans hread
  · rintro ⟨first, words, hline, hhand⟩
    obtain ⟨a, b, c, d, rfl⟩ := List.length_eq_four.1 (isLine_iff.1 hline).2
    exact (readHands_of_isLine hline).trans (handsOf_eq_ok_iff.2 hhand)

/-- Where there are no hands to read, the text is no line or one of its words is no hand. -/
theorem readHands_eq_error_iff : readHands text = .error e ↔
    (∀ first words, ¬ IsLine text first words) ∧
        e = .badDealText (Text.strip (unquoted text)) ∨
      ∃ first front word rest, IsLine text first (front ++ word :: rest) ∧
        (∀ word ∈ front, ∃ hand, Hand.read (String.ofList word) = .ok hand) ∧
        Hand.read (String.ofList word) = .error e := by
  rcases readHands_cases text with ⟨first, a, b, c, d, hline, hread⟩ | ⟨hnone, hread⟩
  · rw [hread, handsOf_eq_error_iff, except_mapM_eq_error_iff]
    constructor
    · rintro ⟨front, word, rest, hwords, hfront, hword⟩
      exact .inr ⟨first, front, word, rest, hwords ▸ hline, hfront, hword⟩
    · rintro (⟨hnone, -⟩ | ⟨_, front, word, rest, hline', hfront, hword⟩)
      · exact absurd hline (hnone _ _)
      · exact ⟨front, word, rest, (hline.unique hline').2, hfront, hword⟩
  · rw [hread]
    constructor
    · rintro ⟨⟩
      exact .inl ⟨hnone, rfl⟩
    · rintro (⟨-, rfl⟩ | ⟨first, front, word, rest, hline, -⟩)
      · rfl
      · exact absurd hline (hnone _ _)

/-- The hands that a line names are thirteen cards of the deck each. -/
theorem Names.isDealt (h : Names text first hands) : hands.IsDealt := by
  obtain ⟨words, hline, hhand⟩ := h
  have hlength := (isLine_iff.1 hline).2
  have hseat : ∀ seat, (hands.get seat).cards.size = handSize ∧
      ∀ i, (hands.get seat).cards.has i = true → CardSet.deck.has i = true := by
    intro seat
    obtain ⟨i, hi, rfl⟩ := first.exists_turn seat
    exact Hand.isDealt_of_read (hhand i _ (List.getElem?_eq_getElem (hlength ▸ hi)))
  exact ⟨fun seat => (hseat seat).1, fun seat => (hseat seat).2⟩

theorem IsLineFault.isDealing (h : IsLineFault text e) : e.isDealing = true := by
  cases h with
  | form => rfl
  | word _ _ hword => exact Hand.isDealing_of_read hword
  | twice _ _ hfor =>
    cases hfor with
    | size => rfl
    | again => rfl

/-! ## The first board -/

/-- On the first board nobody is vulnerable. -/
theorem read_one (text : List Char) :
    read text 1 .none = (do ofHands (← readHands text) .none 1) := by
  rw [read, Vulnerability.orOfBoard, Vulnerability.ofBoard_one]
  rfl

theorem read_one_eq_ok_iff {d : Deal} : read text 1 .none = .ok d ↔
    (∃ first, Names text first d.hands) ∧ d.hands.IsDivision ∧ d.vulnerability = .none ∧
      d.number = 1 := by
  rw [read_one, except_bind_eq_ok_iff]
  constructor
  · rintro ⟨hands, hhands, hdeal⟩
    obtain ⟨⟨⟩, hcheck, hpure⟩ := except_bind_eq_ok_iff.1 hdeal
    cases hpure
    obtain ⟨first, hnames⟩ := readHands_eq_ok_iff.1 hhands
    have hdivision := (Hands.check_eq_ok_iff hnames.isDealt.has_deck).1 hcheck
    exact ⟨⟨first, hnames⟩, hdivision, rfl, rfl⟩
  · rintro ⟨hnames, hdivision, hv, hnumber⟩
    refine ⟨d.hands, readHands_eq_ok_iff.2 hnames, ?_⟩
    rw [ofHands, hdivision.check_eq_ok, ← hv, ← hnumber]
    rfl

theorem read_one_eq_error_iff : read text 1 .none = .error e ↔ IsLineFault text e := by
  rw [read_one, except_bind_eq_error_iff, readHands_eq_error_iff]
  constructor
  · rintro ((⟨hnone, rfl⟩ | ⟨first, front, word, rest, hline, hfront, hword⟩) |
      ⟨hands, hhands, hdeal⟩)
    · exact .form hnone
    · exact .word hline hfront hword
    · obtain ⟨first, hnames⟩ := readHands_eq_ok_iff.1 hhands
      rcases except_bind_eq_error_iff.1 hdeal with hcheck | ⟨_, -, hpure⟩
      · obtain ⟨seat, hseat, hfor⟩ :=
          (Hands.check_eq_error_iff hnames.isDealt.has_deck).1 hcheck
        exact .twice hnames hseat hfor
      · cases hpure
  · intro h
    cases h with
    | form hnone => exact .inl (.inl ⟨hnone, rfl⟩)
    | word hline hfront hword => exact .inl (.inr ⟨_, _, _, _, hline, hfront, hword⟩)
    | @twice first seat hands e hnames hseat hfor =>
      have hcheck : hands.check = .error e :=
        (Hands.check_eq_error_iff hnames.isDealt.has_deck).2 ⟨seat, hseat, hfor⟩
      refine .inr ⟨hands, readHands_eq_ok_iff.2 ⟨first, hnames⟩, ?_⟩
      exact except_bind_eq_error_iff.2 (.inl hcheck)

/-- Hands that divide the deck are read from the line that lists them. -/
theorem read_one_listed (h : hands.IsDivision) (first : Seat) :
    ∃ words, (Hands.seatsFrom first).mapM (fun seat => (hands.get seat).dotted) = .ok words ∧
      read (first.letter :: ':' :: List.intercalate [' '] words) 1 .none =
        .ok ⟨hands, .none, 1⟩ := by
  have hwords : (Hands.seatsFrom first).mapM (fun seat => (hands.get seat).dotted) =
      .ok (hands.dottedHands (Hands.seatsFrom first)) :=
    mapM_eq_pure_map fun seat _ => Hand.dotted_eq_ok fun _ hi => h.has_deck hi
  have hline : readHands (hands.lineFrom first) = .ok hands :=
    readHands_of_unquoted h.isDealt (unquoted_of_not_mem (quote_not_mem_lineFrom h.isDealt first))
  refine ⟨_, hwords, ?_⟩
  rw [read_one]
  exact except_bind_eq_ok_iff.2 ⟨hands, hline, by rw [ofHands, h.check_eq_ok]; rfl⟩

/-- **What a line is read as.** On the first board it is a deal exactly if it names hands that
divide the deck, and otherwise it is refused for its fault, which is an error of dealing. Hands that
divide the deck are read from the line that lists them, whichever seat comes first. -/
theorem read_one_iff_names (text : List Char) :
    (∀ d, read text 1 .none = .ok d ↔ (∃ first, Names text first d.hands) ∧
      d.hands.IsDivision ∧ d.vulnerability = .none ∧ d.number = 1) ∧
    (∀ e, (read text 1 .none = .error e ↔ IsLineFault text e) ∧
      (IsLineFault text e → e.isDealing = true)) ∧
    ∀ (hands : Hands) (first : Seat), hands.IsDivision →
      ∃ words, (Hands.seatsFrom first).mapM (fun seat => (hands.get seat).dotted) = .ok words ∧
        read (first.letter :: ':' :: List.intercalate [' '] words) 1 .none =
          .ok ⟨hands, .none, 1⟩ :=
  ⟨fun _ => read_one_eq_ok_iff, fun _ => ⟨read_one_eq_error_iff, IsLineFault.isDealing⟩,
    fun _ first h => read_one_listed h first⟩

/-- A suit to each seat, from west on. -/
theorem read_one_oneSuitEach : oneSuitEach.IsDivision ∧
    read "W:...AKQJT98765432 AKQJT98765432... .AKQJT98765432.. ..AKQJT98765432.".toList 1 .none =
      .ok ⟨oneSuitEach, .none, 1⟩ := by
  obtain ⟨words, hwords, hread⟩ :=
    (read_one_iff_names []).2.2 oneSuitEach .west isDivision_oneSuitEach
  have hlisted : (Hands.seatsFrom .west).mapM (fun seat => (oneSuitEach.get seat).dotted) =
      .ok ["...AKQJT98765432".toList, "AKQJT98765432...".toList, ".AKQJT98765432..".toList,
        "..AKQJT98765432.".toList] := by rfl
  cases hlisted.symm.trans hwords
  exact ⟨isDivision_oneSuitEach, hread⟩

end Deal

end ContractBridge
