/-
Printed holdings and what is read from them.

The ranks of a suit print as marks, highest first, and behind the letter or the symbol of the suit
they are read as its cards again (`readFrom_marks`): none of the marks is a suit or a gap, and the
cards of a falling list differ. Suits that stand one behind another add up their cards, so the
holdings of all suits, lettered or dotted, are read as the set that was printed.

All this is about sets of deck cards. Other places of a set do not print, or not as what they are.
-/
import ContractBridge.Hand
import ContractBridge.Proofs.CardSet.Lengths
import ContractBridge.Proofs.CardSet.Listing
import ContractBridge.Proofs.Sequence
import ContractBridge.Proofs.Text.Splitting

set_option autoImplicit false

namespace ContractBridge

/-! ## Marks -/

namespace Card

/-- The mark of a rank of the deck. -/
def mark (c : Card) : Char := rankMarks.getD c.rank '?'

/-- Whether a character is the mark of a rank of the deck. -/
def IsMark (mark : Char) : Prop := mark ∈ rankMarks.drop 2

/-- A card of the deck: its suit, and its rank from 2 to 14. -/
def IsOfSuit (suit : Suit) (c : Card) : Prop :=
  ∃ rank : Nat, 2 ≤ rank ∧ rank ≤ 14 ∧ c = ofSuitRank suit.index rank

theorem isMark_facts : ∀ mark ∈ rankMarks.drop 2, Suit.ofChar? mark = none ∧
    CardSet.isGap mark = false ∧ Text.isBlank mark = false ∧ mark ≠ '1' ∧ mark ≠ ':' ∧
    mark ≠ '"' := by
  -- a test of the marks one by one; the statement could also be decided over all characters
  have hall : (rankMarks.drop 2).all (fun mark => decide (Suit.ofChar? mark = none ∧
      CardSet.isGap mark = false ∧ Text.isBlank mark = false ∧ mark ≠ '1' ∧ mark ≠ ':' ∧
      mark ≠ '"')) = true := by decide
  exact fun mark hmark => of_decide_eq_true (List.all_eq_true.1 hall mark hmark)

variable {c : Card} {suit : Suit} {rank : Nat}

theorem rank_ofSuitRank (hlo : 2 ≤ rank) (hhi : rank ≤ 14) :
    (ofSuitRank suit.index rank).rank = rank := by
  show ((rank + laneWidth * suit.index : Int) % laneWidth).toNat = rank
  simp only [laneWidth]
  omega

theorem place_ofSuitRank : (ofSuitRank suit.index rank).place = rank + laneWidth * suit.index := by
  show (rank + laneWidth * suit.index : Int).toNat = _
  omega

/-- What the marks of the ranks are, and that they are read as these ranks. -/
theorem rankMark?_eq_some : ∀ rank < 15, 2 ≤ rank →
    rankMark? rank = some (rankMarks.getD rank '?') ∧ IsMark (rankMarks.getD rank '?') ∧
      rankOfMark? (rankMarks.getD rank '?') = some rank := by
  unfold IsMark
  decide

theorem IsOfSuit.rankMark? (h : c.IsOfSuit suit) : Card.rankMark? c.rank = some c.mark := by
  obtain ⟨rank, hlo, hhi, rfl⟩ := h
  rw [mark, rank_ofSuitRank hlo hhi]
  exact (rankMark?_eq_some rank (Nat.lt_succ_of_le hhi) hlo).1

theorem IsOfSuit.isMark (h : c.IsOfSuit suit) : IsMark c.mark := by
  obtain ⟨rank, hlo, hhi, rfl⟩ := h
  rw [mark, rank_ofSuitRank hlo hhi]
  exact (rankMark?_eq_some rank (Nat.lt_succ_of_le hhi) hlo).2.1

theorem IsOfSuit.rankOfMark? (h : c.IsOfSuit suit) : Card.rankOfMark? c.mark = some c.rank := by
  obtain ⟨rank, hlo, hhi, rfl⟩ := h
  rw [mark, rank_ofSuitRank hlo hhi]
  exact (rankMark?_eq_some rank (Nat.lt_succ_of_le hhi) hlo).2.2

theorem IsOfSuit.ofSuitRank_rank (h : c.IsOfSuit suit) : ofSuitRank suit.index c.rank = c := by
  obtain ⟨rank, hlo, hhi, rfl⟩ := h
  rw [rank_ofSuitRank hlo hhi]

end Card

namespace CardSet

variable {s t : CardSet} {suit : Suit} {text rest : List Char} {i : Nat}

/-! ## The cards of a suit, and their marks -/

theorem has_inSuit_iff : (s.inSuit suit).has i = true ↔ s.has i = true ∧
    laneWidth * suit.index ≤ i ∧ i < laneWidth * suit.index + laneWidth := by
  rw [inSuit, has_lane, Bool.and_eq_true, decide_eq_true_iff]

theorem IsFinite.inSuit (hs : s.IsFinite) (suit : Suit) : (s.inSuit suit).IsFinite := hs.lane _

/-- The cards of a suit of deck cards are deck cards. -/
theorem inSuit_subset (hs : s.subset deck = true) (suit : Suit) :
    (s.inSuit suit).subset deck = true :=
  subset_iff.2 fun i hi => subset_iff.1 hs i (has_inSuit_iff.1 hi).1

/-- Two suits have no card in common. -/
theorem has_inSuit_of_ne {other : Suit} (hne : suit ≠ other) (hi : (s.inSuit suit).has i = true) :
    (s.inSuit other).has i = false := by
  rw [← Bool.not_eq_true]
  intro hother
  have h := (has_inSuit_iff.1 hi).2
  have h' := (has_inSuit_iff.1 hother).2
  have hindex : suit.index = other.index := by
    simp only [laneWidth] at h h'
    omega
  exact hne (Suit.index_inj hindex)

/-- The marks of the cards held in a suit, highest first. -/
def marks (s : CardSet) (suit : Suit) : List Char := (s.inSuit suit).toListDown.map Card.mark

/-! ## Reading marks -/

theorem readFrom_suit {c : Char} {other : Suit} (hc : Suit.ofChar? c = some other) :
    readFrom text suit t (c :: rest) = readFrom text other t rest := by
  have hne : c ≠ '1' := by
    rintro rfl
    cases hc
  rw [readFrom.eq_3 _ _ _ _ _ fun _ h _ => hne h, hc]

theorem readFrom_gap {c : Char} (hc : isGap c = true) :
    readFrom text suit t (c :: rest) = readFrom text suit t rest := by
  simp only [isGap, Bool.or_eq_true, decide_eq_true_eq] at hc
  rcases hc with (rfl | rfl) | rfl <;> rfl

theorem readFrom_rank {c : Char} {rank : Nat} (hc : Card.rankOfMark? c = some rank) :
    readFrom text suit t (c :: rest) =
      (do readFrom text suit (← addNew text suit rank t) rest) := by
  unfold Card.rankOfMark? at hc
  split at hc <;> cases hc <;> rfl

/-- The mark of a new card adds the card. -/
theorem readFrom_mark {c : Card} (hc : c.IsOfSuit suit) (hnew : t.contains c = false) :
    readFrom text suit t (c.mark :: rest) = readFrom text suit (t.insert c) rest := by
  have hadd : addNew text suit c.rank t = .ok (t.insert c) := by
    rw [addNew, hc.ofSuitRank_rank]
    exact if_neg (ne_true_of_eq_false hnew)
  rw [readFrom_rank hc.rankOfMark?, hadd]
  rfl

theorem contains_insert_of_place_ne {c d : Card} (hne : d.place ≠ c.place)
    (hnew : t.contains c = false) : (t.insert d).contains c = false := by
  rw [contains, has_insert, Bool.or_eq_false_iff]
  exact ⟨hnew, decide_eq_false hne⟩

/-- The marks of new cards of a suit, in falling order, add the cards. -/
theorem readFrom_map_mark {l : List Card} (hsuit : ∀ c ∈ l, c.IsOfSuit suit)
    (hfalling : l.Pairwise fun c d => d.offset < c.offset)
    (hnew : ∀ c ∈ l, t.contains c = false) :
    readFrom text suit t (l.map Card.mark ++ rest) =
      readFrom text suit (l.foldl insert t) rest := by
  induction l generalizing t with
  | nil => rfl
  | cons c l ih =>
    obtain ⟨hc, hl⟩ := List.forall_mem_cons.1 hsuit
    obtain ⟨hbelow, hfalling⟩ := List.pairwise_cons.1 hfalling
    obtain ⟨hcnew, hlnew⟩ := List.forall_mem_cons.1 hnew
    rw [List.map_cons, List.cons_append, readFrom_mark hc hcnew, List.foldl_cons]
    refine ih hl hfalling fun d hd => contains_insert_of_place_ne ?_ (hlnew d hd)
    -- a card below another one has a place of its own
    obtain ⟨rank, _, _, rfl⟩ := hc
    obtain ⟨rank', _, _, rfl⟩ := hl d hd
    have hlt : (rank' + laneWidth * suit.index : Int) < rank + laneWidth * suit.index :=
      hbelow _ hd
    rw [Card.place_ofSuitRank, Card.place_ofSuitRank]
    omega

theorem has_foldl_insert {l : List Card} : (l.foldl insert t).has i = true ↔
    t.has i = true ∨ ∃ c ∈ l, c.place = i := by
  induction l generalizing t with
  | nil => simp only [List.foldl_nil, List.not_mem_nil, false_and, exists_false, or_false]
  | cons c l ih =>
    rw [List.foldl_cons, ih, has_insert, Bool.or_eq_true, decide_eq_true_iff, or_assoc]
    simp only [List.mem_cons, exists_eq_or_imp]

/-- Adding the cards of a list adds the set that it lists. -/
theorem ListsDown.foldl_insert {l : List Card} (h : ListsDown s l) : l.foldl insert t = t ∪ s := by
  apply ext
  intro i
  rw [Bool.eq_iff_iff, has_foldl_insert, has_union, Bool.or_eq_true]
  refine or_congr_right ⟨?_, fun hi => ⟨⟨i⟩, (h.mem_iff _).2 ⟨i, hi, rfl⟩, rfl⟩⟩
  rintro ⟨c, hc, rfl⟩
  obtain ⟨j, hj, rfl⟩ := (h.mem_iff c).1 hc
  exact hj

/-! ## The dotted form -/

/-- The marks of the four suits with dots between them. -/
def dottedMarks (s : CardSet) : List Char := List.intercalate ['.'] (Suit.all.map s.marks)

theorem dot_mem_dottedMarks (s : CardSet) : '.' ∈ s.dottedMarks := by
  rw [dottedMarks, Suit.all, List.map_cons, List.map_cons, List.intercalate_cons_cons]
  exact List.mem_append_left _ (List.mem_append_right _ List.mem_cons_self)

section deckCards

variable (hs : ∀ i, s.has i = true → deck.has i = true)
include hs

/-! ## The marks of deck cards -/

/-- The listed cards of a suit are deck cards of the suit. -/
theorem isOfSuit_of_mem {c : Card} (hc : c ∈ (s.inSuit suit).toListDown) : c.IsOfSuit suit := by
  have hfinite : s.IsFinite := isFinite_deck.of_has_imp hs
  obtain ⟨i, hi, rfl⟩ := ((listsDown_toListDown (hfinite.inSuit suit)).mem_iff c).1 hc
  obtain ⟨hi, hlo, hhi⟩ := has_inSuit_iff.1 hi
  have hdeck := hs i hi
  rw [has_deck, decide_eq_true_iff] at hdeck
  simp only [laneWidth] at hlo hhi hdeck
  refine ⟨i - 16 * suit.index, by omega, by omega, ?_⟩
  show (⟨i⟩ : Card) = ⟨_⟩
  congr 1
  simp only [laneWidth]
  omega

theorem holding?_eq_some (suit : Suit) : s.holding? suit = some (s.marks suit) :=
  mapM_eq_pure_map fun _ hc => (isOfSuit_of_mem hs hc).rankMark?

theorem isMark_of_mem_marks {m : Char} (hm : m ∈ s.marks suit) : Card.IsMark m := by
  obtain ⟨c, hc, rfl⟩ := List.mem_map.1 hm
  exact (isOfSuit_of_mem hs hc).isMark

/-- **The marks of a suit are read as its cards,** where none of them was read before. -/
theorem readFrom_marks (hnew : ∀ i, (s.inSuit suit).has i = true → t.has i = false) :
    readFrom text suit t (s.marks suit ++ rest) = readFrom text suit (t ∪ s.inSuit suit) rest := by
  have hfinite : s.IsFinite := isFinite_deck.of_has_imp hs
  have hlists := listsDown_toListDown (hfinite.inSuit suit)
  rw [marks, readFrom_map_mark (fun c hc => isOfSuit_of_mem hs hc) hlists.falling,
    hlists.foldl_insert]
  intro c hc
  obtain ⟨i, hi, rfl⟩ := (hlists.mem_iff c).1 hc
  exact hnew i hi

/-! ## All suits -/

/-- Suits one behind another, each with what names it in front of its marks, are read as their
cards. -/
theorem readFrom_flatMap {head : Suit → Char}
    (hhead : ∀ suit, Suit.ofChar? (head suit) = some suit) {suits : List Suit}
    (hnodup : suits.Nodup)
    (hnew : ∀ suit ∈ suits, ∀ i, (s.inSuit suit).has i = true → t.has i = false) :
    readFrom text suit t (suits.flatMap fun suit => head suit :: s.marks suit) =
      .ok (suits.foldl (fun t suit => t ∪ s.inSuit suit) t) := by
  induction suits generalizing t suit with
  | nil => rw [List.flatMap_nil, readFrom, List.foldl_nil]
  | cons first suits ih =>
    obtain ⟨hfirst, hnodup⟩ := List.nodup_cons.1 hnodup
    obtain ⟨hnewfirst, hnew⟩ := List.forall_mem_cons.1 hnew
    rw [List.flatMap_cons, List.cons_append, readFrom_suit (hhead first),
      readFrom_marks hs hnewfirst, List.foldl_cons]
    refine ih hnodup fun other hother i hi => ?_
    have hne : other ≠ first := fun h => hfirst (h ▸ hother)
    rw [has_union, hnew other hother i hi, has_inSuit_of_ne hne hi, Bool.or_false]

/-- The four suits of a set of deck cards are the set. -/
theorem foldl_inSuit : Suit.all.foldl (fun t suit => t ∪ s.inSuit suit) ∅ = s := by
  apply ext
  intro i
  simp only [Suit.all, List.foldl_cons, List.foldl_nil]
  rw [Bool.eq_iff_iff]
  simp only [has_union, Bool.or_eq_true, has_inSuit_iff, has_empty, Suit.index, laneWidth]
  constructor
  · rintro ((((h | h) | h) | h) | h)
    · cases h
    all_goals exact h.1
  · intro hi
    have hdeck := hs i hi
    rw [has_deck, decide_eq_true_iff] at hdeck
    simp only [hi, true_and]
    omega

/-- **All suits, each behind what names it, are read as the set.** -/
theorem readFrom_headed {head : Suit → Char}
    (hhead : ∀ suit, Suit.ofChar? (head suit) = some suit) :
    readFrom text suit ∅ (Suit.all.flatMap fun suit => head suit :: s.marks suit) = .ok s := by
  rw [readFrom_flatMap hs hhead (by decide) fun _ _ _ _ => has_empty _, foldl_inSuit hs]

/-! ## Reading the dotted form -/

theorem mem_dottedMarks {m : Char} (hm : m ∈ s.dottedMarks) : m = '.' ∨ Card.IsMark m := by
  rcases Text.mem_of_mem_intercalate hm with hdot | ⟨part, hpart, hm⟩
  · exact .inl (List.mem_singleton.1 hdot)
  · obtain ⟨suit, -, rfl⟩ := List.mem_map.1 hpart
    exact .inr (isMark_of_mem_marks hs hm)

theorem isBlank_of_mem_dottedMarks {m : Char} (hm : m ∈ s.dottedMarks) :
    Text.isBlank m = false := by
  rcases mem_dottedMarks hs hm with rfl | hmark
  · decide
  · exact (Card.isMark_facts m hmark).2.2.1

theorem isDotted_dottedMarks : isDotted s.dottedMarks = true := by
  rw [isDotted, Bool.and_eq_true, List.contains_iff_mem, Bool.not_eq_true', List.any_eq_false]
  refine ⟨dot_mem_dottedMarks s, fun m hm => ?_⟩
  rcases mem_dottedMarks hs hm with rfl | hmark
  · decide
  · rw [(Card.isMark_facts m hmark).1]
    decide

theorem fields_dottedMarks : Text.fields '.' s.dottedMarks = Suit.all.map s.marks := by
  have hne : Suit.all.map s.marks ≠ [] := List.cons_ne_nil _ _
  refine Text.fields_intercalate hne fun part hpart hdot => ?_
  obtain ⟨suit, -, rfl⟩ := List.mem_map.1 hpart
  exact absurd (isMark_of_mem_marks hs hdot) (by unfold Card.IsMark; decide)

theorem strip_dottedMarks : Text.strip s.dottedMarks = s.dottedMarks :=
  Text.strip_of_not_blank fun _ hm => isBlank_of_mem_dottedMarks hs hm

/-- **The dotted form of a set of deck cards is read as the set.** -/
theorem read_dottedMarks : read s.dottedMarks = .ok s := by
  rw [read, if_pos (isDotted_dottedMarks hs), strip_dottedMarks hs, fields_dottedMarks hs]
  exact readFrom_headed hs Suit.ofChar?_letter

theorem parse_dottedMarks : parse s.dottedMarks = .ok s := by
  simp only [parse, strip_dottedMarks hs, read_dottedMarks hs]

end deckCards

end CardSet

namespace Hand

variable {h : Hand}

theorem dotted_eq_ok (hs : ∀ i, h.cards.has i = true → CardSet.deck.has i = true) :
    h.dotted = .ok h.cards.dottedMarks := by
  have hholding : ∀ suit ∈ Suit.all, h.holding suit = pure (h.cards.marks suit) := by
    intro suit _
    rw [holding, CardSet.holding?_eq_some hs]
    rfl
  have hholdings : h.holdings = .ok (Suit.all.map h.cards.marks) := mapM_eq_pure_map hholding
  rw [dotted, hholdings]
  rfl

/-- **A hand of thirteen deck cards is read from its dotted form.** -/
theorem read_dottedMarks (hs : ∀ i, h.cards.has i = true → CardSet.deck.has i = true)
    (hsize : h.cards.size = handSize) : read (String.ofList h.cards.dottedMarks) = .ok h := by
  rw [read, String.toList_ofList, CardSet.parse_dottedMarks hs]
  exact if_pos hsize

end Hand

end ContractBridge
