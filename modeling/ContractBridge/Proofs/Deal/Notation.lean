/-
A deal in one line, written and read.

The line names a seat and has the dotted hands of the seats from that one on. A dotted hand is a
word, marks and dots without a blank, so the words of the line are the hands again, and each hand
is read from its word. The line is read as the same hands whichever seat comes first
(`readHands_of_unquoted`); the printed form begins with north.
-/
import ContractBridge.Deal.Reader
import ContractBridge.Proofs.CardSet.Holding
import ContractBridge.Proofs.Deal.Division

set_option autoImplicit false

namespace ContractBridge

namespace Hands

variable {hands : Hands}

/-- Whether all cards of the hands are of the deck, thirteen to a seat. -/
structure IsDealt (hands : Hands) : Prop where
  size_eq : ∀ seat, (hands.get seat).cards.size = handSize
  has_deck : ∀ seat i, (hands.get seat).cards.has i = true → CardSet.deck.has i = true

theorem IsDivision.isDealt (h : hands.IsDivision) : hands.IsDealt where
  size_eq := h.size_eq
  has_deck _ _ hi := h.has_deck hi

/-- The dotted hands of some seats. -/
def dottedHands (hands : Hands) (seats : List Seat) : List (List Char) :=
  seats.map fun seat => (hands.get seat).cards.dottedMarks

/-- The four seats in the order of play, from a seat on. -/
def seatsFrom (first : Seat) : List Seat := [first, first.turn 1, first.turn 2, first.turn 3]

/-- **The hands in one line,** from a seat on. -/
def lineFrom (hands : Hands) (first : Seat) : List Char :=
  first.letter :: ':' :: List.intercalate [' '] (hands.dottedHands (seatsFrom first))

/-- The characters of a line: those of a dotted hand, spaces, and in front the letter and the
colon. -/
theorem mem_lineFrom (h : hands.IsDealt) {first : Seat} {c : Char}
    (hc : c ∈ hands.lineFrom first) :
    c = first.letter ∨ c = ':' ∨ c = ' ' ∨ c = '.' ∨ Card.IsMark c := by
  rcases List.mem_cons.1 hc with hc | hc
  · exact .inl hc
  rcases List.mem_cons.1 hc with hc | hc
  · exact .inr (.inl hc)
  rcases Text.mem_of_mem_intercalate hc with hspace | ⟨part, hpart, hc⟩
  · exact .inr (.inr (.inl (List.mem_singleton.1 hspace)))
  · obtain ⟨seat, -, rfl⟩ := List.mem_map.1 hpart
    exact .inr (.inr (.inr (CardSet.mem_dottedMarks (h.has_deck seat) hc)))

theorem isLine_lineFrom (h : hands.IsDealt) (first : Seat) :
    Text.IsLine (hands.lineFrom first) := by
  intro c hc
  rcases mem_lineFrom h hc with rfl | rfl | rfl | rfl | hmark
  · cases first <;> decide
  · decide
  · decide
  · decide
  · exact Text.isLine_of_not_blank (fun m hm => (Card.isMark_facts m hm).2.2.1) c hmark

theorem words_dottedHands (h : hands.IsDealt) (seats : List Seat) :
    Text.words (List.intercalate [' '] (hands.dottedHands seats)) = hands.dottedHands seats := by
  refine Text.words_intercalate fun part hpart => ?_
  obtain ⟨seat, -, rfl⟩ := List.mem_map.1 hpart
  exact ⟨List.ne_nil_of_mem (CardSet.dot_mem_dottedMarks _),
    fun _ hc => CardSet.isBlank_of_mem_dottedMarks (h.has_deck seat) hc⟩

end Hands

namespace Deal

variable {hands : Hands} {first : Seat}

theorem firstSeat?_letter (first : Seat) : firstSeat? [first.letter] = some first := by
  cases first <;> rfl

theorem partsOf?_lineFrom (h : hands.IsDealt) (first : Seat) :
    partsOf? (hands.lineFrom first) = some (first, hands.dottedHands (Hands.seatsFrom first)) := by
  have hcut : Text.cut? ':' (hands.lineFrom first) = some ([first.letter],
      List.intercalate [' '] (hands.dottedHands (Hands.seatsFrom first))) := by
    cases first <;> rfl
  rw [partsOf?, hcut]
  show (do return (← firstSeat? [first.letter], _) : Option (Seat × List (List Char))) = _
  rw [firstSeat?_letter, Hands.words_dottedHands h]
  rfl

/-- Hands taken from a seat on come to their places. -/
theorem placed_get (hands : Hands) (first : Seat) :
    placed first (hands.get first) (hands.get (first.turn 1)) (hands.get (first.turn 2))
      (hands.get (first.turn 3)) = hands := by
  apply Seats.ext_get
  intro seat
  rw [placed, Seats.get_ofFn]
  cases first <;> cases seat <;> rfl

/-- A line begins with a letter and ends with a hand, so there is nothing to strip. -/
theorem strip_lineFrom (h : hands.IsDealt) (first : Seat) :
    Text.strip (hands.lineFrom first) = hands.lineFrom first := by
  obtain ⟨init, hline⟩ : ∃ init, hands.lineFrom first =
      first.letter :: init ++ (hands.get (first.turn 3)).cards.dottedMarks := by
    refine ⟨':' :: (List.intercalate [' ']
      (hands.dottedHands [first, first.turn 1, first.turn 2]) ++ [' ']), ?_⟩
    simp only [Hands.lineFrom, Hands.dottedHands, Hands.seatsFrom, List.map_cons, List.map_nil,
      List.intercalate_cons_cons, List.intercalate_singleton, List.cons_append, List.append_assoc]
  rw [hline]
  refine Text.strip_cons_append ?_ (List.ne_nil_of_mem (CardSet.dot_mem_dottedMarks _)) fun _ hd =>
    CardSet.isBlank_of_mem_dottedMarks (h.has_deck _) hd
  cases first <;> decide

theorem unquoted_of_not_mem {text : List Char} (h : '"' ∉ text) : unquoted text = text :=
  List.filter_eq_self.2 fun _ hc => decide_eq_true fun hquote => h (hquote ▸ hc)

theorem unquoted_quoted {text : List Char} (h : '"' ∉ text) :
    unquoted ('"' :: text ++ ['"']) = text := by
  have htext : text.filter (· ≠ '"') = text := unquoted_of_not_mem h
  rw [unquoted, List.filter_append, List.filter_cons_of_neg (by decide), htext]
  exact List.append_nil text

theorem quote_not_mem_lineFrom (h : hands.IsDealt) (first : Seat) :
    '"' ∉ hands.lineFrom first := by
  intro hc
  rcases Hands.mem_lineFrom h hc with hletter | hc | hc | hc | hmark
  · cases first <;> exact absurd hletter (by decide)
  · exact absurd hc (by decide)
  · exact absurd hc (by decide)
  · exact absurd hc (by decide)
  · exact (Card.isMark_facts _ hmark).2.2.2.2.2 rfl

/-- **Hands are read from their line,** wherever there are quotes in it. -/
theorem readHands_of_unquoted {text : List Char} (h : hands.IsDealt)
    (htext : unquoted text = hands.lineFrom first) : readHands text = .ok hands := by
  have hhand : ∀ seat, Hand.read (String.ofList (hands.get seat).cards.dottedMarks) =
      .ok (hands.get seat) := fun seat =>
    Hand.read_dottedMarks (h.has_deck seat) (h.size_eq seat)
  have hparts := partsOf?_lineFrom h first
  rw [readHands, htext, strip_lineFrom h, hparts]
  -- there are four words, and each of them is a hand
  show (do return placed first (← Hand.read _) (← Hand.read _) (← Hand.read _) (← Hand.read _) :
    Except Error Hands) = _
  rw [hhand, hhand, hhand, hhand]
  exact congrArg Except.ok (placed_get hands first)

theorem readHands_lineFrom (h : hands.IsDealt) (first : Seat) :
    readHands ('"' :: hands.lineFrom first ++ ['"']) = .ok hands :=
  readHands_of_unquoted h (unquoted_quoted (quote_not_mem_lineFrom h first))

theorem dotted_eq_ok {d : Deal} (h : d.hands.IsDealt) :
    d.dotted = .ok (d.hands.lineFrom .north) := by
  have hhands : d.hands.toList.mapM Hand.dotted =
      .ok (d.hands.toList.map fun hand => hand.cards.dottedMarks) := by
    refine mapM_eq_pure_map fun hand hhand => ?_
    rw [Seats.toList_eq_map] at hhand
    obtain ⟨seat, -, rfl⟩ := List.mem_map.1 hhand
    exact Hand.dotted_eq_ok (h.has_deck seat)
  rw [dotted, hhands]
  rfl

end Deal

end ContractBridge
