/-
What the reader of card texts takes.

The reader passes over a sign that names no card again and adds its card (`readFrom_sign`), and so
it passes over a whole row of such signs (`readFrom_append`). Every text is such a row, or has one in
front and a fault behind it: a character that begins no sign, or one of the cards again
(`spells_or_isFault`). So the reader takes exactly the rows that name no card twice, and refuses
every other text for its fault (`read_iff_spells`).

Four dotted holdings are a row in short, each meant behind the letter of its suit (`StandsFor`).
-/
import ContractBridge.Proofs.CardSet.Signs

set_option autoImplicit false

namespace ContractBridge

namespace CardSet

variable {word front rest text plain r : List Char} {sign : Sign} {signs : List Sign} {suit : Suit}
  {rank : Nat} {s t : CardSet} {c : Char} {old : List Card} {e : Error}

/-! ## One sign -/

theorem readFrom_suitForm {next : Suit} (h : word ∈ (Sign.suit next).forms) :
    readFrom text suit t (word ++ rest) = readFrom text next t rest := by
  obtain ⟨c, rfl, hc⟩ := mem_forms_suit_iff.1 h
  exact readFrom_suit hc

theorem readFrom_gapForm (h : word ∈ Sign.gap.forms) :
    readFrom text suit t (word ++ rest) = readFrom text suit t rest := by
  obtain ⟨c, rfl, hc⟩ := mem_forms_gap_iff.1 h
  exact readFrom_gap hc

theorem readFrom_rankForm (h : word ∈ (Sign.rank rank).forms) (hends : EndsAt word rest) :
    readFrom text suit t (word ++ rest) =
      (do readFrom text suit (← addNew text suit rank t) rest) := by
  rcases mem_forms_rank_iff.1 h with ⟨c, rfl, hc⟩ | ⟨rfl, rfl | rfl⟩
  · exact readFrom_rank hc
  · -- the first digit of ten alone, since no other one is behind it
    have hzero : ∀ r, ('1' : Char) = '1' → rest = '0' :: r → False := fun _ _ hr =>
      hends rfl (by rw [hr]; rfl)
    rw [List.singleton_append, readFrom.eq_3 _ _ _ _ _ hzero]
    rfl
  · rfl

theorem readFrom_of_not_beginsSign (h : ¬ BeginsSign c) :
    readFrom text suit t (c :: rest) = .error (.badCardCharacter c text) := by
  simp only [beginsSign_iff, not_or, not_exists] at h
  obtain ⟨hsuit, hgap, hrank, hone⟩ := h
  rw [readFrom.eq_3 _ _ _ _ _ fun _ hc _ => hone hc, Option.eq_none_iff_forall_ne_some.2 hsuit,
    Option.eq_none_iff_forall_ne_some.2 hrank]
  dsimp only
  rw [if_neg hgap, if_neg hone]

theorem addNew_of_not_mem (hold : ∀ c ∈ old, c.IsOfDeck)
    (hcard : (Card.ofSuitRank suit.index rank).IsOfDeck)
    (hnew : .ofSuitRank suit.index rank ∉ old) :
    addNew text suit rank (ofCards old) = .ok (ofCards (old ++ [.ofSuitRank suit.index rank])) := by
  rw [addNew, ofCards_append_singleton]
  exact if_neg fun h => hnew ((contains_ofCards hold hcard).1 h)

theorem addNew_of_mem (hold : ∀ c ∈ old, c.IsOfDeck)
    (hmem : .ofSuitRank suit.index rank ∈ old) {label : List Char}
    (hlabel : (Card.ofSuitRank suit.index rank).label = .ok label) :
    addNew text suit rank (ofCards old) = .error (.repeatedCard label text) := by
  have hcontains := (contains_ofCards hold (hold _ hmem)).2 hmem
  rw [addNew, if_pos hcontains, hlabel]
  rfl

/-- **A sign that names no card again is passed over,** and its card is added. -/
theorem readFrom_sign (hword : word ∈ sign.forms) (hends : EndsAt word rest)
    (hold : ∀ c ∈ old, c.IsOfDeck) (hnew : (old ++ cardsNamed suit [sign]).Nodup) :
    readFrom text suit (ofCards old) (word ++ rest) =
      readFrom text (suitBehind suit [sign]) (ofCards (old ++ cardsNamed suit [sign])) rest := by
  cases sign with
  | suit next =>
    rw [readFrom_suitForm hword, cardsNamed, cardsNamed, List.append_nil]
    rfl
  | gap =>
    rw [readFrom_gapForm hword, cardsNamed, cardsNamed, List.append_nil]
    rfl
  | rank rank =>
    have hfresh : Card.ofSuitRank suit.index rank ∉ old := fun hmem =>
      (List.nodup_append.1 hnew).2.2 _ hmem _ List.mem_cons_self rfl
    rw [readFrom_rankForm hword hends, addNew_of_not_mem hold (isOfDeck_of_mem_forms hword) hfresh]
    rfl

/-! ## Rows of signs -/

/-- **A row of signs that names no card again is passed over,** and its cards are added. -/
theorem readFrom_append (h : Spells signs front) (hends : EndsAt front rest)
    (hold : ∀ c ∈ old, c.IsOfDeck) (hnew : (old ++ cardsNamed suit signs).Nodup) :
    readFrom text suit (ofCards old) (front ++ rest) =
      readFrom text (suitBehind suit signs) (ofCards (old ++ cardsNamed suit signs)) rest := by
  induction h generalizing suit old with
  | nil => rw [cardsNamed, suitBehind, List.append_nil, List.nil_append]
  | @cons sign word signs front hword hfront ih =>
    obtain ⟨hword_ends, hfront_ends⟩ := (endsAt_append_iff hfront).1 hends
    rw [cardsNamed_cons, ← List.append_assoc] at hnew ⊢
    have hnamed : ∀ c ∈ old ++ cardsNamed suit [sign], c.IsOfDeck :=
      List.forall_mem_append.2 ⟨hold, fun _ hc => isOfDeck_of_mem_cardsNamed hword hc⟩
    rw [List.append_assoc, readFrom_sign hword hword_ends hold (List.nodup_append.1 hnew).1,
      ih hfront_ends hnamed hnew, ← suitBehind_cons]

/-- **What a text is refused for,** where some cards were read before it: behind a row of other
cards there is a character that begins no sign, or one of the cards again. -/
inductive IsFault (text : List Char) (suit : Suit) (old : List Card) (r : List Char) : Error → Prop
  | character {signs : List Sign} {front rest : List Char} {c : Char}
      (hr : r = front ++ c :: rest) (hfront : Spells signs front) (hends : EndsAt front (c :: rest))
      (hnew : (old ++ cardsNamed suit signs).Nodup) (hc : ¬ BeginsSign c) :
      IsFault text suit old r (.badCardCharacter c text)
  | repeated {signs : List Sign} {front word rest label : List Char} {rank : Nat}
      (hr : r = front ++ (word ++ rest)) (hfront : Spells signs front)
      (hnew : (old ++ cardsNamed suit signs).Nodup)
      (hword : word ∈ (Sign.rank rank).forms) (hends : EndsAt word rest)
      (hcard : .ofSuitRank (suitBehind suit signs).index rank ∈ old ++ cardsNamed suit signs)
      (hlabel : (Card.ofSuitRank (suitBehind suit signs).index rank).label = .ok label) :
      IsFault text suit old r (.repeatedCard label text)

/-- What is wrong behind a sign is wrong with the text, the card of the sign being read before. -/
theorem IsFault.behind (hword : word ∈ sign.forms) (hends : EndsAt word r)
    (h : IsFault text (suitBehind suit [sign]) (old ++ cardsNamed suit [sign]) r e) :
    IsFault text suit old (word ++ r) e := by
  cases h with
  | @character signs front rest c hr hfront hfront_ends hnew hc =>
    have hr' : word ++ r = word ++ front ++ c :: rest := by rw [hr, List.append_assoc]
    have hends' : EndsAt (word ++ front) (c :: rest) :=
      (endsAt_append_iff hfront).2 ⟨hr ▸ hends, hfront_ends⟩
    rw [List.append_assoc, ← cardsNamed_cons] at hnew
    exact .character hr' (.cons hword hfront) hends' hnew hc
  | @repeated signs front again rest label rank hr hfront hnew hagain hagain_ends hcard hlabel =>
    have hr' : word ++ r = word ++ front ++ (again ++ rest) := by rw [hr, List.append_assoc]
    rw [List.append_assoc, ← cardsNamed_cons] at hnew hcard
    rw [← suitBehind_cons] at hcard hlabel
    exact .repeated hr' (.cons hword hfront) hnew hagain hagain_ends hcard hlabel

/-- **A text is a row of new cards or has a fault.** -/
theorem spells_or_isFault (text : List Char) (hold : ∀ c ∈ old, c.IsOfDeck) (hnodup : old.Nodup)
    (suit : Suit) (r : List Char) :
    (∃ signs, Spells signs r ∧ (old ++ cardsNamed suit signs).Nodup) ∨
      ∃ e, IsFault text suit old r e := by
  have hnil : (old ++ cardsNamed suit []).Nodup := by rwa [cardsNamed, List.append_nil]
  induction hlength : r.length using Nat.strongRecOn generalizing r suit old with
  | ind n ih =>
    cases r with
    | nil => exact .inl ⟨[], .nil, hnil⟩
    | cons c r =>
      rcases exists_word c r with hc | ⟨sign, word, rest, hword, heq, hends⟩
      · exact .inr ⟨_, .character rfl .nil nil_endsAt hnil hc⟩
      have hlt : rest.length < n := by
        obtain ⟨d, tail, rfl⟩ := exists_cons_of_mem_forms hword
        rw [← hlength, heq, List.length_append, List.length_cons]
        omega
      rw [heq]
      by_cases hnew : (old ++ cardsNamed suit [sign]).Nodup
      · have hnamed : ∀ c ∈ old ++ cardsNamed suit [sign], c.IsOfDeck :=
          List.forall_mem_append.2 ⟨hold, fun _ hc => isOfDeck_of_mem_cardsNamed hword hc⟩
        have hbehind : (old ++ cardsNamed suit [sign] ++
            cardsNamed (suitBehind suit [sign]) []).Nodup := by
          rwa [cardsNamed, List.append_nil]
        rcases ih _ hlt hnamed hnew _ rest hbehind rfl with ⟨signs, hsigns, hrow⟩ | ⟨e, hfault⟩
        · rw [List.append_assoc, ← cardsNamed_cons] at hrow
          exact .inl ⟨_, .cons hword hsigns, hrow⟩
        · exact .inr ⟨e, hfault.behind hword hends⟩
      · -- only a rank names a card, so the sign is one, and its card was read before
        cases sign with
        | suit next => exact absurd hnil hnew
        | gap => exact absurd hnil hnew
        | rank rank =>
          have hmem : Card.ofSuitRank suit.index rank ∈ old := by
            by_contra hfresh
            exact hnew (List.nodup_append.2 ⟨hnodup, List.nodup_singleton _, fun c hc d hd heq =>
              hfresh (List.mem_singleton.1 hd ▸ heq ▸ hc)⟩)
          obtain ⟨label, hlabel⟩ := (hold _ hmem).exists_label
          exact .inr ⟨_, .repeated (List.nil_append _).symm .nil hnil hword hends
            (List.mem_append_left _ hmem) hlabel⟩

/-- **A row of new cards is read as these cards.** -/
theorem readFrom_of_spells (h : Spells signs r) (hold : ∀ c ∈ old, c.IsOfDeck)
    (hnew : (old ++ cardsNamed suit signs).Nodup) :
    readFrom text suit (ofCards old) r = .ok (ofCards (old ++ cardsNamed suit signs)) := by
  rw [← List.append_nil r, readFrom_append h endsAt_nil hold hnew, readFrom]

/-- **A text with a fault is refused for it.** -/
theorem readFrom_of_isFault (h : IsFault text suit old r e) (hold : ∀ c ∈ old, c.IsOfDeck) :
    readFrom text suit (ofCards old) r = .error e := by
  cases h with
  | character hr hfront hends hnew hc =>
    rw [hr, readFrom_append hfront hends hold hnew]
    exact readFrom_of_not_beginsSign hc
  | @repeated signs front word rest label rank hr hfront hnew hword hends hcard hlabel =>
    have hnamed : ∀ c ∈ old ++ cardsNamed suit signs, c.IsOfDeck :=
      List.forall_mem_append.2 ⟨hold, fun _ hc => hfront.isOfDeck hc⟩
    rw [hr, readFrom_append hfront (endsAt_of_mem_forms hword) hold hnew,
      readFrom_rankForm hword hends, addNew_of_mem hnamed hcard hlabel]
    rfl

/-! ## Four holdings -/

/-- Whether a text is meant as four holdings: it has a dot and no suit. -/
def IsInHoldings (text : List Char) : Prop :=
  '.' ∈ text ∧ ∀ c ∈ text, ∀ suit : Suit, [c] ∉ (Sign.suit suit).forms

/-- **What a text of cards stands for:** four holdings with dots between them for each of them
behind the letter of its suit, and any other text for itself. -/
inductive StandsFor (text : List Char) : List Char → Prop
  | itself (h : ¬ IsInHoldings text) : StandsFor text text
  | holdings {spades hearts diamonds clubs : List Char} (h : IsInHoldings text)
      (htext : Text.strip text =
        spades ++ '.' :: hearts ++ '.' :: diamonds ++ '.' :: clubs)
      (hdot : ∀ holding ∈ [spades, hearts, diamonds, clubs], '.' ∉ holding) :
      StandsFor text ('S' :: spades ++ 'H' :: hearts ++ 'D' :: diamonds ++ 'C' :: clubs)

theorem isDotted_iff : isDotted text = true ↔ IsInHoldings text := by
  rw [isDotted, IsInHoldings, Bool.and_eq_true, List.contains_iff_mem, Bool.not_eq_true',
    List.any_eq_false]
  refine and_congr_right fun _ => forall₂_congr fun c _ => ?_
  rw [Bool.not_eq_true, Option.isSome_eq_false_iff, Option.isNone_iff_eq_none,
    Option.eq_none_iff_forall_ne_some]
  refine forall_congr' fun suit => not_congr ?_
  rw [mem_forms_suit_iff]
  constructor
  · exact fun h => ⟨c, rfl, h⟩
  · rintro ⟨_, ⟨⟩, h⟩
    exact h

/-- A text is read as what it stands for. -/
theorem read_of_standsFor (h : StandsFor text plain) :
    read text = readFrom plain .spades ∅ plain := by
  cases h with
  | itself h => rw [read, if_neg fun hdotted => h (isDotted_iff.1 hdotted)]
  | @holdings spades hearts diamonds clubs h htext hdot =>
    have hfields : Text.fields '.' (Text.strip text) = [spades, hearts, diamonds, clubs] := by
      rw [htext, ← Text.fields_intercalate (List.cons_ne_nil _ _) hdot]
      simp
    have hplain : withSuits [spades, hearts, diamonds, clubs] =
        'S' :: spades ++ 'H' :: hearts ++ 'D' :: diamonds ++ 'C' :: clubs := by
      simp [withSuits, Suit.all, Suit.letter]
    rw [read, if_pos (isDotted_iff.2 h), hfields, ← hplain]
    exact if_pos rfl

/-- A text that stands for nothing is refused, for the number of its holdings. -/
theorem read_of_not_standsFor (h : ¬ ∃ plain, StandsFor text plain) :
    read text = .error (.wrongHoldingCount (String.ofList text)) := by
  have hdotted : isDotted text = true := by
    rw [isDotted_iff]
    by_contra hnot
    exact h ⟨text, .itself hnot⟩
  rw [read, if_pos hdotted]
  refine if_neg fun hlength => h ?_
  obtain ⟨spades, hearts, diamonds, clubs, hfields⟩ := List.length_eq_four.1 hlength
  have htext : Text.strip text = spades ++ '.' :: hearts ++ '.' :: diamonds ++ '.' :: clubs := by
    rw [← Text.intercalate_fields '.' (Text.strip text), hfields]
    simp
  have hdot : ∀ holding ∈ [spades, hearts, diamonds, clubs], '.' ∉ holding := fun _ hmem =>
    Text.mark_not_mem_of_mem_fields (hfields ▸ hmem)
  exact ⟨_, .holdings (isDotted_iff.1 hdotted) htext hdot⟩

/-! ## The language -/

/-- A text that stands for a row of different cards is read as these cards. -/
theorem read_of_spells (hplain : StandsFor text plain) (hsigns : Spells signs plain)
    (hnodup : (cardsNamed .spades signs).Nodup) :
    read text = .ok (ofCards (cardsNamed .spades signs)) := by
  have hold : ∀ c ∈ ([] : List Card), c.IsOfDeck := fun _ h => absurd h List.not_mem_nil
  rw [read_of_standsFor hplain]
  exact readFrom_of_spells hsigns hold hnodup

/-- A text that stands for one with a fault is refused for it. -/
theorem read_of_isFault (hplain : StandsFor text plain) (h : IsFault plain .spades [] plain e) :
    read text = .error e := by
  rw [read_of_standsFor hplain]
  exact readFrom_of_isFault h fun _ h => absurd h List.not_mem_nil

/-- **What a text may be.** It stands for nothing, or for a text with a fault, or for a row of
different cards. -/
theorem standsFor_cases (text : List Char) :
    (¬ ∃ plain, StandsFor text plain) ∨
    (∃ plain e, StandsFor text plain ∧ IsFault plain .spades [] plain e) ∨
    ∃ plain signs, StandsFor text plain ∧ Spells signs plain ∧
      (cardsNamed .spades signs).Nodup := by
  by_cases hplain : ∃ plain, StandsFor text plain
  · obtain ⟨plain, hplain⟩ := hplain
    have hold : ∀ c ∈ ([] : List Card), c.IsOfDeck := fun _ h => absurd h List.not_mem_nil
    rcases spells_or_isFault plain hold List.nodup_nil .spades plain with
      ⟨signs, hsigns, hnodup⟩ | ⟨e, hfault⟩
    · exact .inr (.inr ⟨plain, signs, hplain, hsigns, hnodup⟩)
    · exact .inr (.inl ⟨plain, e, hplain, hfault⟩)
  · exact .inl hplain

theorem exists_spells_of_read (h : read text = .ok s) :
    ∃ plain signs, StandsFor text plain ∧ Spells signs plain ∧ (cardsNamed .spades signs).Nodup ∧
      s = ofCards (cardsNamed .spades signs) := by
  rcases standsFor_cases text with hnone | ⟨plain, e, hplain, hfault⟩ |
    ⟨plain, signs, hplain, hsigns, hnodup⟩
  · cases h.symm.trans (read_of_not_standsFor hnone)
  · cases h.symm.trans (read_of_isFault hplain hfault)
  · cases h.symm.trans (read_of_spells hplain hsigns hnodup)
    exact ⟨plain, signs, hplain, hsigns, hnodup, rfl⟩

theorem has_deck_of_read (h : read text = .ok s) {i : Nat} (hi : s.has i = true) :
    deck.has i = true := by
  obtain ⟨_, _, -, hsigns, -, rfl⟩ := exists_spells_of_read h
  obtain ⟨c, hc, rfl⟩ := has_ofCards.1 hi
  exact (hsigns.isOfDeck hc).has_deck

/-- **Exactly the rows of signs that name no card twice are read,** and what is read are the cards
that they name, as many as there are ranks in the row. Any other text is refused: it is not four
holdings where it should be, or the text that it stands for has a fault. -/
theorem read_iff_spells (text : List Char) :
    (∀ s, read text = .ok s ↔ ∃ plain signs, StandsFor text plain ∧ Spells signs plain ∧
      (cardsNamed .spades signs).Nodup ∧ s.size = signs.countP Sign.isRank ∧
        ∀ i, s.has i = true ↔ ∃ c ∈ cardsNamed .spades signs, c.place = i) ∧
    ∀ e, read text = .error e ↔
      (¬ ∃ plain, StandsFor text plain) ∧ e = .wrongHoldingCount (String.ofList text) ∨
        ∃ plain, StandsFor text plain ∧ IsFault plain .spades [] plain e := by
  refine ⟨fun s => ⟨fun hread => ?_, ?_⟩, fun e => ⟨fun hread => ?_, ?_⟩⟩
  · obtain ⟨plain, signs, hplain, hsigns, hnodup, rfl⟩ := exists_spells_of_read hread
    refine ⟨plain, signs, hplain, hsigns, hnodup, ?_, fun _ => has_ofCards⟩
    rw [size_ofCards (fun _ hc => hsigns.isOfDeck hc) hnodup, length_cardsNamed]
  · rintro ⟨plain, signs, hplain, hsigns, hnodup, -, hhas⟩
    have hcards : s = ofCards (cardsNamed .spades signs) := by
      apply ext
      intro i
      rw [Bool.eq_iff_iff, hhas, has_ofCards]
    rw [hcards]
    exact read_of_spells hplain hsigns hnodup
  · rcases standsFor_cases text with hnone | ⟨plain, e', hplain, hfault⟩ |
      ⟨plain, signs, hplain, hsigns, hnodup⟩
    · cases hread.symm.trans (read_of_not_standsFor hnone)
      exact .inl ⟨hnone, rfl⟩
    · cases hread.symm.trans (read_of_isFault hplain hfault)
      exact .inr ⟨plain, hplain, hfault⟩
    · cases hread.symm.trans (read_of_spells hplain hsigns hnodup)
  · rintro (⟨hnone, rfl⟩ | ⟨plain, hplain, hfault⟩)
    · exact read_of_not_standsFor hnone
    · exact read_of_isFault hplain hfault

end CardSet

end ContractBridge
