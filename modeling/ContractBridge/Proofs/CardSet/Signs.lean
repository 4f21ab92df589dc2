/-
The language of card texts.

A text of cards is a row of signs: suits, each the suit of the ranks behind it, ranks, and gaps,
which stand for nothing. `Spells` says what a text is a row of and `cardsNamed` which cards that
names, both without a reader.

A sign has several forms, and ten has one that begins with another of its forms. But no sign begins
with `0`, so what stands behind a `1` leaves no choice where a sign ends (`EndsAt`).

All cards that are named are of the deck, and a list of such cards without repetitions is as long as
the set of them is large (`size_ofCards`).
-/
import ContractBridge.Proofs.CardSet.Holding

set_option autoImplicit false

namespace ContractBridge

namespace CardSet

/-! ## Signs -/

/-- A part of a text of cards. -/
inductive Sign where
  | suit (suit : Suit)
  | gap
  | rank (rank : Nat)
  deriving DecidableEq, Repr

/-- **The forms of a sign:** for a suit its letter in either case and its symbol, for a rank of the
deck its mark in either case, and for ten also both of its digits or the first one alone. -/
def Sign.forms : Sign → List (List Char)
  | .suit s => [[s.letter], [s.letter.toLower], [s.symbol]]
  | .gap => [['.'], [' '], ['\t']]
  | .rank n =>
    if 2 ≤ n ∧ n ≤ 14 then
      let mark := Card.rankMarks.getD n '?'
      [[mark], [mark.toLower]] ++ if n = 10 then [['1'], ['1', '0']] else []
    else []

/-- Whether a sign is a rank. -/
def Sign.isRank : Sign → Bool
  | .rank _ => true
  | _ => false

/-- **The signs that a text is a row of.** -/
inductive Spells : List Sign → List Char → Prop
  | nil : Spells [] []
  | cons {sign : Sign} {word : List Char} {signs : List Sign} {rest : List Char} :
      word ∈ sign.forms → Spells signs rest → Spells (sign :: signs) (word ++ rest)

/-- **The cards that some signs name,** one for each rank, a suit being in force. -/
def cardsNamed : Suit → List Sign → List Card
  | _, [] => []
  | _, .suit suit :: signs => cardsNamed suit signs
  | suit, .gap :: signs => cardsNamed suit signs
  | suit, .rank rank :: signs => .ofSuitRank suit.index rank :: cardsNamed suit signs

/-- The suit in force behind some signs. -/
def suitBehind : Suit → List Sign → Suit
  | suit, [] => suit
  | _, .suit suit :: signs => suitBehind suit signs
  | suit, _ :: signs => suitBehind suit signs

/-- Whether some signs end where they are cut off: a `0` behind a `1` belongs to the same ten. -/
def EndsAt (front rest : List Char) : Prop := front.getLast? = some '1' → rest.head? ≠ some '0'

variable {word front rest : List Char} {sign : Sign} {signs : List Sign} {suit : Suit} {rank : Nat}
  {c : Char}

/-- The signs behind a sign name cards of the suit that it leaves in force. -/
theorem cardsNamed_cons : cardsNamed suit (sign :: signs) =
    cardsNamed suit [sign] ++ cardsNamed (suitBehind suit [sign]) signs := by
  cases sign <;> rfl

theorem suitBehind_cons : suitBehind suit (sign :: signs) =
    suitBehind (suitBehind suit [sign]) signs := by
  cases sign <;> rfl

theorem length_cardsNamed (suit : Suit) (signs : List Sign) :
    (cardsNamed suit signs).length = signs.countP Sign.isRank := by
  induction signs generalizing suit with
  | nil => rfl
  | cons sign signs ih =>
    cases sign with
    | suit next => rw [cardsNamed, ih, List.countP_cons_of_neg Bool.false_ne_true]
    | gap => rw [cardsNamed, ih, List.countP_cons_of_neg Bool.false_ne_true]
    | rank rank => rw [cardsNamed, List.length_cons, ih, List.countP_cons_of_pos rfl]

/-! ## Forms and characters -/

theorem mem_forms_suit_iff :
    word ∈ (Sign.suit suit).forms ↔ ∃ c, word = [c] ∧ Suit.ofChar? c = some suit := by
  constructor
  · intro h
    simp only [Sign.forms, List.mem_cons, List.not_mem_nil, or_false] at h
    rcases h with rfl | rfl | rfl
    · exact ⟨_, rfl, Suit.ofChar?_letter suit⟩
    · exact ⟨_, rfl, by cases suit <;> rfl⟩
    · exact ⟨_, rfl, Suit.ofChar?_symbol suit⟩
  · rintro ⟨c, rfl, hc⟩
    unfold Suit.ofChar? at hc
    split at hc <;> cases hc <;> decide

theorem mem_forms_gap_iff : word ∈ Sign.gap.forms ↔ ∃ c, word = [c] ∧ isGap c = true := by
  simp only [Sign.forms, isGap, List.mem_cons, List.not_mem_nil, or_false, Bool.or_eq_true,
    decide_eq_true_eq]
  constructor
  · rintro (rfl | rfl | rfl)
    · exact ⟨_, rfl, .inl (.inl rfl)⟩
    · exact ⟨_, rfl, .inl (.inr rfl)⟩
    · exact ⟨_, rfl, .inr rfl⟩
  · rintro ⟨c, rfl, (rfl | rfl) | rfl⟩
    · exact .inl rfl
    · exact .inr (.inl rfl)
    · exact .inr (.inr rfl)

/-- The mark of a rank is read as the rank, in either case. -/
theorem rankOfMark?_mark : ∀ rank < 15, 2 ≤ rank →
    Card.rankOfMark? (Card.rankMarks.getD rank '?') = some rank ∧
      Card.rankOfMark? (Card.rankMarks.getD rank '?').toLower = some rank := by
  decide

theorem mem_forms_rank_iff : word ∈ (Sign.rank rank).forms ↔
    (∃ c, word = [c] ∧ Card.rankOfMark? c = some rank) ∨
      rank = 10 ∧ (word = ['1'] ∨ word = ['1', '0']) := by
  constructor
  · intro h
    unfold Sign.forms at h
    dsimp only at h
    split at h
    · next hrank =>
      obtain ⟨hmark, hsmall⟩ := rankOfMark?_mark rank (Nat.lt_succ_of_le hrank.2) hrank.1
      rcases List.mem_append.1 h with h | h
      · rcases List.mem_pair.1 h with rfl | rfl
        · exact .inl ⟨_, rfl, hmark⟩
        · exact .inl ⟨_, rfl, hsmall⟩
      · split at h
        · next hten => exact .inr ⟨hten, List.mem_pair.1 h⟩
        · cases h
    · cases h
  · rintro (⟨c, rfl, hc⟩ | ⟨rfl, rfl | rfl⟩)
    · unfold Card.rankOfMark? at hc
      split at hc <;> cases hc <;> decide
    · decide
    · decide

theorem rank_bounds_of_mem_forms (h : word ∈ (Sign.rank rank).forms) : 2 ≤ rank ∧ rank ≤ 14 := by
  rcases mem_forms_rank_iff.1 h with ⟨c, -, hc⟩ | ⟨rfl, -⟩
  · exact Card.rankOfMark?_bounds hc
  · decide

/-- Whether a sign may begin with a character. -/
def BeginsSign (c : Char) : Prop := ∃ sign : Sign, ∃ word ∈ sign.forms, word.head? = some c

theorem beginsSign_of_mem (h : c :: rest ∈ sign.forms) : BeginsSign c :=
  ⟨sign, _, h, rfl⟩

/-- What a character is that begins a sign. -/
theorem beginsSign_iff : BeginsSign c ↔ (∃ suit, Suit.ofChar? c = some suit) ∨ isGap c = true ∨
    (∃ rank, Card.rankOfMark? c = some rank) ∨ c = '1' := by
  constructor
  · rintro ⟨sign, word, hword, hhead⟩
    cases sign with
    | suit suit =>
      obtain ⟨d, rfl, hd⟩ := mem_forms_suit_iff.1 hword
      cases hhead
      exact .inl ⟨suit, hd⟩
    | gap =>
      obtain ⟨d, rfl, hd⟩ := mem_forms_gap_iff.1 hword
      cases hhead
      exact .inr (.inl hd)
    | rank rank =>
      rcases mem_forms_rank_iff.1 hword with ⟨d, rfl, hd⟩ | ⟨-, rfl | rfl⟩
      · cases hhead
        exact .inr (.inr (.inl ⟨rank, hd⟩))
      · cases hhead
        exact .inr (.inr (.inr rfl))
      · cases hhead
        exact .inr (.inr (.inr rfl))
  · rintro (⟨suit, h⟩ | h | ⟨rank, h⟩ | rfl)
    · exact beginsSign_of_mem (mem_forms_suit_iff.2 ⟨c, rfl, h⟩)
    · exact beginsSign_of_mem (mem_forms_gap_iff.2 ⟨c, rfl, h⟩)
    · exact beginsSign_of_mem (mem_forms_rank_iff.2 (.inl ⟨c, rfl, h⟩))
    · exact beginsSign_of_mem (mem_forms_rank_iff.2 (.inr ⟨rfl, .inl rfl⟩))

theorem not_beginsSign_zero : ¬ BeginsSign '0' := by
  rw [beginsSign_iff]
  rintro (⟨suit, h⟩ | h | ⟨rank, h⟩ | h)
  · cases h
  · exact absurd h (by decide)
  · cases h
  · exact absurd h (by decide)

theorem exists_cons_of_mem_forms (h : word ∈ sign.forms) :
    ∃ c tail, word = c :: tail := by
  cases sign with
  | suit suit =>
    obtain ⟨c, rfl, -⟩ := mem_forms_suit_iff.1 h
    exact ⟨c, [], rfl⟩
  | gap =>
    obtain ⟨c, rfl, -⟩ := mem_forms_gap_iff.1 h
    exact ⟨c, [], rfl⟩
  | rank rank =>
    rcases mem_forms_rank_iff.1 h with ⟨c, rfl, -⟩ | ⟨-, rfl | rfl⟩
    · exact ⟨c, [], rfl⟩
    · exact ⟨'1', [], rfl⟩
    · exact ⟨'1', ['0'], rfl⟩

theorem head?_ne_zero_of_mem_forms (h : word ∈ sign.forms) : (word ++ rest).head? ≠ some '0' := by
  obtain ⟨c, tail, rfl⟩ := exists_cons_of_mem_forms h
  rintro ⟨⟩
  exact not_beginsSign_zero (beginsSign_of_mem h)

/-! ## Where a sign ends -/

theorem endsAt_nil : EndsAt front [] := by
  rintro - ⟨⟩

theorem nil_endsAt : EndsAt [] rest := by
  rintro ⟨⟩

/-- A sign does not go on with another one. -/
theorem endsAt_of_mem_forms (h : word ∈ sign.forms) : EndsAt front (word ++ rest) :=
  fun _ => head?_ne_zero_of_mem_forms h

/-- A row of signs ends where its last sign does. -/
theorem endsAt_append_iff (h : Spells signs front) :
    EndsAt (word ++ front) rest ↔ EndsAt word (front ++ rest) ∧ EndsAt front rest := by
  cases h with
  | nil =>
    rw [List.append_nil, List.nil_append]
    exact ⟨fun hends => ⟨hends, nil_endsAt⟩, And.left⟩
  | @cons sign form signs tail hform htail =>
    have hne : form ++ tail ≠ [] := by
      obtain ⟨c, r, rfl⟩ := exists_cons_of_mem_forms hform
      exact List.cons_ne_nil _ _
    have hbefore : EndsAt word (form ++ tail ++ rest) := by
      rw [List.append_assoc]
      exact endsAt_of_mem_forms hform
    rw [EndsAt, List.getLast?_append_of_ne_nil _ hne]
    exact ⟨fun hends => ⟨hbefore, hends⟩, And.right⟩

/-- A text begins with a form of a sign that ends there, unless its first character begins none. -/
theorem exists_word (c : Char) (r : List Char) : ¬ BeginsSign c ∨
    ∃ sign word rest, word ∈ Sign.forms sign ∧ c :: r = word ++ rest ∧ EndsAt word rest := by
  by_cases hbegins : BeginsSign c
  · right
    by_cases hone : c = '1'
    · -- with the other digit of ten, if that is there
      subst hone
      by_cases hzero : r.head? = some '0'
      · obtain ⟨rest, rfl⟩ := List.head?_eq_some_iff.1 hzero
        exact ⟨.rank 10, ['1', '0'], rest, by decide, rfl, fun hlast => absurd hlast (by decide)⟩
      · exact ⟨.rank 10, ['1'], r, by decide, rfl, fun _ => hzero⟩
    · have hends : EndsAt [c] r := fun hlast => absurd (Option.some.inj hlast) hone
      rcases beginsSign_iff.1 hbegins with ⟨suit, h⟩ | h | ⟨rank, h⟩ | h
      · exact ⟨.suit suit, [c], r, mem_forms_suit_iff.2 ⟨c, rfl, h⟩, rfl, hends⟩
      · exact ⟨.gap, [c], r, mem_forms_gap_iff.2 ⟨c, rfl, h⟩, rfl, hends⟩
      · exact ⟨.rank rank, [c], r, mem_forms_rank_iff.2 (.inl ⟨c, rfl, h⟩), rfl, hends⟩
      · exact absurd h hone
  · exact .inl hbegins

end CardSet

/-! ## Named cards -/

namespace Card

variable {c d : Card}

/-- Whether a card is of the deck. -/
def IsOfDeck (c : Card) : Prop := ∃ suit, c.IsOfSuit suit

theorem IsOfDeck.has_deck (h : c.IsOfDeck) : CardSet.deck.has c.place = true := by
  obtain ⟨suit, rank, hlo, hhi, rfl⟩ := h
  have hsuit := suit.index_lt_four
  rw [place_ofSuitRank, CardSet.has_deck, decide_eq_true_iff]
  simp only [laneWidth]
  omega

/-- Cards of the deck have a place each. -/
theorem IsOfDeck.eq_of_place_eq (hc : c.IsOfDeck) (hd : d.IsOfDeck) (h : c.place = d.place) :
    c = d := by
  obtain ⟨suit, rank, -, -, rfl⟩ := hc
  obtain ⟨suit', rank', -, -, rfl⟩ := hd
  rw [place_ofSuitRank, place_ofSuitRank] at h
  show (⟨_⟩ : Card) = ⟨_⟩
  congr 1
  omega

theorem suit?_ofSuitRank {suit : Suit} {rank : Nat} (hrank : rank ≤ 14) :
    (ofSuitRank suit.index rank).suit? = some suit := by
  have hindex : (ofSuitRank suit.index rank).suitIndex = suit.index := by
    show (rank + laneWidth * suit.index : Int) >>> (4 : Nat) = suit.index
    rw [Int.shiftRight_eq_div_pow]
    simp only [laneWidth]
    omega
  rw [suit?, hindex, Suit.ofIndex?_index]

theorem IsOfDeck.exists_label (h : c.IsOfDeck) : ∃ label, c.label = .ok label := by
  obtain ⟨suit, rank, hlo, hhi, rfl⟩ := h
  have hmark := (rankMark?_eq_some rank (Nat.lt_succ_of_le hhi) hlo).1
  rw [label, rankName, rankName?, rank_ofSuitRank hlo hhi, hmark, Card.suit, suit?_ofSuitRank hhi]
  exact ⟨_, rfl⟩

end Card

namespace CardSet

variable {word r : List Char} {sign : Sign} {signs : List Sign} {suit : Suit} {rank : Nat}
  {cards : List Card} {card : Card}

theorem isOfDeck_of_mem_forms (h : word ∈ (Sign.rank rank).forms) :
    (Card.ofSuitRank suit.index rank).IsOfDeck := by
  obtain ⟨hlo, hhi⟩ := rank_bounds_of_mem_forms h
  exact ⟨suit, rank, hlo, hhi, rfl⟩

theorem isOfDeck_of_mem_cardsNamed (h : word ∈ sign.forms) (hcard : card ∈ cardsNamed suit [sign]) :
    card.IsOfDeck := by
  cases sign with
  | suit next => cases hcard
  | gap => cases hcard
  | rank rank => exact List.mem_singleton.1 hcard ▸ isOfDeck_of_mem_forms h

theorem Spells.isOfDeck (h : Spells signs r) (hcard : card ∈ cardsNamed suit signs) :
    card.IsOfDeck := by
  induction h generalizing suit with
  | nil => cases hcard
  | cons hword _ ih =>
    rw [cardsNamed_cons] at hcard
    rcases List.mem_append.1 hcard with hcard | hcard
    · exact isOfDeck_of_mem_cardsNamed hword hcard
    · exact ih hcard

theorem has_ofCards {i : Nat} : (ofCards cards).has i = true ↔ ∃ c ∈ cards, c.place = i := by
  rw [ofCards, has_foldl_insert, has_empty]
  simp only [Bool.false_eq_true, false_or]

theorem ofCards_append_singleton : ofCards (cards ++ [card]) = (ofCards cards).insert card :=
  List.foldl_append

theorem contains_ofCards (hcards : ∀ c ∈ cards, c.IsOfDeck) (hcard : card.IsOfDeck) :
    (ofCards cards).contains card = true ↔ card ∈ cards := by
  rw [contains, has_ofCards]
  constructor
  · rintro ⟨c, hc, hplace⟩
    exact (hcards c hc).eq_of_place_eq hcard hplace ▸ hc
  · exact fun h => ⟨card, h, rfl⟩

theorem isFinite_ofCards (hcards : ∀ c ∈ cards, c.IsOfDeck) : (ofCards cards).IsFinite := by
  refine isFinite_deck.of_has_imp fun i hi => ?_
  obtain ⟨c, hc, rfl⟩ := has_ofCards.1 hi
  exact (hcards c hc).has_deck

/-- Different cards of the deck make a set of as many cards. -/
theorem size_ofCards (hcards : ∀ c ∈ cards, c.IsOfDeck) (hnodup : cards.Nodup) :
    (ofCards cards).size = cards.length := by
  have hdistinct : (cards.map Card.place).Nodup :=
    hnodup.map_on fun c hc d hd h => (hcards c hc).eq_of_place_eq (hcards d hd) h
  have hplaces : ∀ i, (ofCards cards).has i = true ↔ i ∈ cards.map Card.place := fun i => by
    rw [has_ofCards, List.mem_map]
  rw [size_eq_length (isFinite_ofCards hcards) hdistinct hplaces, List.length_map]

end CardSet

end ContractBridge
