/-
The three printed forms of a card set.

A set prints with the symbols of the suits that are not void, as four dotted holdings, and as four
holdings each behind the letter of its suit. One reader takes all three, and it has to tell them
apart: a text with a dot and no suit is four holdings, any other text is read from left to right
with the suit that was named last. Symbols and letters name suits, and no mark of a card is a dot, a
blank or a suit, so each form is read the way it was meant, voids included.

The first two forms are also what a hand is read from. The cards are the same, and whether they are
a hand is only a matter of their number.
-/
import ContractBridge.Deal.Text
import ContractBridge.Proofs.CardSet.Holding

set_option autoImplicit false

namespace ContractBridge

namespace CardSet

variable {s : CardSet} {text : List Char}

/-- A text without a dot is read from left to right. -/
theorem read_of_dot_not_mem (h : '.' ∉ text) : read text = readFrom text .spades ∅ text := by
  have hplain : isDotted text = false := by simp [isDotted, h]
  rw [read, if_neg (ne_true_of_eq_false hplain)]

theorem parse_of_read (hblank : ∀ c ∈ text, Text.isBlank c = false) (h : read text = .ok s) :
    parse text = .ok s := by
  simp only [parse, Text.strip_of_not_blank hblank, h]

/-! ## Suits behind what names them -/

/-- Some suits, each with its marks behind what names it. -/
def headed (head : Suit → Char) (s : CardSet) (suits : List Suit) : List Char :=
  suits.flatMap fun suit => head suit :: s.marks suit

/-- The suits that are not void. -/
def heldSuits (s : CardSet) : List Suit := Suit.all.filter fun suit => !(s.inSuit suit).isEmpty

theorem headed_heldSuits (head : Suit → Char) (s : CardSet) : headed head s s.heldSuits =
    Suit.all.flatMap fun suit =>
      if (s.inSuit suit).isEmpty then [] else head suit :: s.marks suit := by
  unfold headed heldSuits
  generalize Suit.all = suits
  induction suits with
  | nil => rfl
  | cons suit suits ih =>
    by_cases hempty : (s.inSuit suit).isEmpty = true
    · simp [hempty, ih]
    · simp [hempty, ih]

section deckCards

variable (hs : ∀ i, s.has i = true → deck.has i = true)
include hs

theorem mem_headed {head : Suit → Char} {suits : List Suit} {c : Char}
    (hc : c ∈ headed head s suits) : (∃ suit, c = head suit) ∨ Card.IsMark c := by
  obtain ⟨suit, -, hc⟩ := List.mem_flatMap.1 hc
  rcases List.mem_cons.1 hc with rfl | hmark
  · exact .inl ⟨suit, rfl⟩
  · exact .inr (isMark_of_mem_marks hs hmark)

theorem dot_not_mem_headed {head : Suit → Char} (hhead : ∀ suit, head suit ≠ '.')
    (suits : List Suit) : '.' ∉ headed head s suits := by
  intro hdot
  rcases mem_headed hs hdot with ⟨suit, hsuit⟩ | hmark
  · exact hhead suit hsuit.symm
  · exact absurd hmark (by unfold Card.IsMark; decide)

/-- Voids add nothing, so the suits that are not void are read as the set. -/
theorem readFrom_heldSuits {head : Suit → Char}
    (hhead : ∀ suit, Suit.ofChar? (head suit) = some suit) :
    readFrom text .spades ∅ (headed head s s.heldSuits) = .ok s := by
  have hnodup : s.heldSuits.Nodup := List.Nodup.filter _ (by decide)
  have hvoid : ∀ (t : CardSet) (suit : Suit),
      (if (!(s.inSuit suit).isEmpty) = true then t ∪ s.inSuit suit else t) =
        t ∪ s.inSuit suit := by
    intro t suit
    by_cases hempty : (s.inSuit suit).isEmpty = true
    · rw [if_neg (by simp [hempty]), isEmpty_iff.1 hempty]
      ext i
      simp
    · simp [hempty]
  rw [headed, readFrom_flatMap hs hhead hnodup fun _ _ _ _ => has_empty _, heldSuits,
    List.foldl_filter]
  simp only [hvoid]
  rw [foldl_inSuit hs]

/-! ## The three forms -/

theorem text?_eq_some : s.text? = some (headed Suit.symbol s s.heldSuits) := by
  have hsection : ∀ suit ∈ Suit.all, s.section? suit = pure
      (if (s.inSuit suit).isEmpty then [] else suit.symbol :: s.marks suit) := by
    intro suit _
    unfold section?
    by_cases hempty : (s.inSuit suit).isEmpty = true
    · simp [hempty]
    · simp [hempty, holding?_eq_some hs]
  rw [text?, mapM_eq_pure_map hsection, headed_heldSuits]
  rfl

theorem text_eq_ok : s.text = .ok (headed Suit.symbol s s.heldSuits) := by
  rw [text, text?_eq_some hs]

theorem lettered_eq_ok : Deal.lettered ⟨s⟩ = .ok (headed Suit.letter s Suit.all) := by
  have hsuit : ∀ suit ∈ Suit.all,
      (do return suit.letter :: (← (Hand.mk s).holding suit) : Except Error (List Char)) =
        pure (suit.letter :: s.marks suit) := by
    intro suit _
    rw [Hand.holding, holding?_eq_some hs]
    rfl
  rw [Deal.lettered, mapM_eq_pure_map hsuit]
  rfl

theorem isBlank_of_mem_text {symbols : List Char} (h : s.text = .ok symbols) {c : Char}
    (hc : c ∈ symbols) : Text.isBlank c = false := by
  rw [text_eq_ok hs] at h
  cases h
  rcases mem_headed hs hc with ⟨suit, rfl⟩ | hmark
  · cases suit <;> decide
  · exact (Card.isMark_facts c hmark).2.2.1

theorem read_text {symbols : List Char} (h : s.text = .ok symbols) : read symbols = .ok s := by
  rw [text_eq_ok hs] at h
  cases h
  rw [read_of_dot_not_mem (dot_not_mem_headed hs (fun suit => by cases suit <;> decide) _)]
  exact readFrom_heldSuits hs Suit.ofChar?_symbol

theorem read_lettered : read (headed Suit.letter s Suit.all) = .ok s := by
  rw [read_of_dot_not_mem (dot_not_mem_headed hs (fun suit => by cases suit <;> decide) _)]
  exact readFrom_headed hs Suit.ofChar?_letter

end deckCards

end CardSet

namespace Hand

variable {s : CardSet} {text : List Char}

/-- Cards that are read from a text are a hand if there are thirteen of them. -/
theorem read_eq_ite (h : CardSet.parse text = .ok s) :
    read (String.ofList text) = if s.size = handSize then .ok ⟨s⟩
      else .error (.wrongHandSize s.size (String.ofList text)) := by
  rw [read, String.toList_ofList, h]
  rfl

end Hand

namespace CardSet

variable {s : CardSet}

/-- **Every printed form of a set of deck cards is read as the set.** The symbols and the dotted
holdings are read as a hand exactly if there are thirteen cards; any other number is refused. -/
theorem read_printed (hs : s.subset deck = true) :
    ∃ symbols dotted lettered, s.text = .ok symbols ∧ Hand.dotted ⟨s⟩ = .ok dotted ∧
      Deal.lettered ⟨s⟩ = .ok lettered ∧
      read symbols = .ok s ∧ read dotted = .ok s ∧ read lettered = .ok s ∧
      ∀ text ∈ [symbols, dotted], Hand.read (String.ofList text) =
        if s.size = handSize then .ok ⟨s⟩
        else .error (.wrongHandSize s.size (String.ofList text)) := by
  have hdeck := subset_iff.1 hs
  have htext := text_eq_ok hdeck
  have hsymbols := read_text hdeck htext
  refine ⟨_, _, _, htext, Hand.dotted_eq_ok hdeck, lettered_eq_ok hdeck, hsymbols,
    read_dottedMarks hdeck, read_lettered hdeck, ?_⟩
  intro text hform
  apply Hand.read_eq_ite
  rcases List.mem_pair.1 hform with rfl | rfl
  · exact parse_of_read (fun _ => isBlank_of_mem_text hdeck htext) hsymbols
  · exact parse_dottedMarks hdeck

/-- The ace and the ten of spades and the ten of diamonds, with two voids. -/
def threeCards : CardSet := single 14 ∪ single 10 ∪ single 42

/-- At these cards: each of the three forms reads back as them, and as a hand they are too few. -/
theorem read_printed_threeCards : threeCards.subset deck = true ∧
    read "♠AT♦T".toList = .ok threeCards ∧ read "AT..T.".toList = .ok threeCards ∧
    read "SATHDTC".toList = .ok threeCards ∧
    Hand.read "AT..T." = .error (.wrongHandSize 3 "AT..T.") := by
  obtain ⟨symbols, dotted, lettered, hsymbols, hdotted, hlettered, h₁, h₂, h₃, hhand⟩ :=
    read_printed (s := threeCards) (by decide)
  have hsymbols' : threeCards.text = .ok "♠AT♦T".toList := by rfl
  have hdotted' : Hand.dotted ⟨threeCards⟩ = .ok "AT..T.".toList := by rfl
  have hlettered' : Deal.lettered ⟨threeCards⟩ = .ok "SATHDTC".toList := by rfl
  cases hsymbols'.symm.trans hsymbols
  cases hdotted'.symm.trans hdotted
  cases hlettered'.symm.trans hlettered
  exact ⟨by decide, h₁, h₂, h₃, hhand _ (by simp)⟩

end CardSet

end ContractBridge
