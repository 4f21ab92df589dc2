/-
Taking apart what was joined.

A text is taken apart into lines, words or fields, and the parts come back if none of them holds
what stands between them: fields without the mark, words without a blank, lines without a line
end. Each kind has a lemma for one part in front of a separator and, where lists of parts are
joined, one for the whole list.
-/
import Mathlib.Data.List.TakeWhile
import ContractBridge.Text.Layout

set_option autoImplicit false

namespace ContractBridge.Text

variable {s part rest : List Char} {mark c d : Char}

/-! ## Blanks at the ends -/

/-- Nothing is stripped from a text that neither begins nor ends with a blank. -/
theorem strip_cons_append (hc : isBlank c = false) (hne : part ≠ [])
    (h : ∀ d ∈ part, isBlank d = false) : strip (c :: s ++ part) = c :: s ++ part := by
  have hfront : stripFront (c :: s ++ part) = c :: s ++ part := by
    rw [stripFront, List.cons_append, List.dropWhile_cons_of_neg (ne_true_of_eq_false hc)]
  -- at the back only the last character counts, and it is one of `part`
  obtain ⟨init, d, rfl⟩ : ∃ init d, part = init ++ [d] :=
    ⟨part.dropLast, part.getLast hne, (List.dropLast_concat_getLast hne).symm⟩
  have hd : isBlank d = false := h d (List.mem_append_right _ List.mem_cons_self)
  rw [strip, hfront, stripBack, ← List.append_assoc, List.reverse_concat,
    List.dropWhile_cons_of_neg (ne_true_of_eq_false hd), ← List.reverse_concat,
    List.reverse_reverse]

/-- Nothing is stripped from a text without blanks. -/
theorem strip_of_not_blank (h : ∀ c ∈ s, isBlank c = false) : strip s = s := by
  have hfront : stripFront s = s := List.dropWhile_eq_self_iff.2 fun hpos => by
    rw [h _ (List.getElem_mem hpos)]
    exact Bool.false_ne_true
  have hback : s.reverse.dropWhile isBlank = s.reverse :=
    List.dropWhile_eq_self_iff.2 fun hpos => by
      rw [h _ (List.mem_reverse.1 (List.getElem_mem hpos))]
      exact Bool.false_ne_true
  rw [strip, hfront, stripBack, hback, List.reverse_reverse]

/-- What a joined text holds is in a part or in what joins them. -/
theorem mem_of_mem_intercalate {sep : List Char} {parts : List (List Char)}
    (h : c ∈ List.intercalate sep parts) : c ∈ sep ∨ ∃ part ∈ parts, c ∈ part := by
  induction parts with
  | nil => exact absurd h List.not_mem_nil
  | cons part parts ih =>
    cases parts with
    | nil =>
      rw [List.intercalate_singleton] at h
      exact .inr ⟨part, List.mem_cons_self, h⟩
    | cons next parts =>
      rw [List.intercalate_cons_cons, List.mem_append, List.mem_append] at h
      rcases h with (h | h) | h
      · exact .inr ⟨part, List.mem_cons_self, h⟩
      · exact .inl h
      · obtain hsep | ⟨other, hother, hc⟩ := ih h
        · exact .inl hsep
        · exact .inr ⟨other, List.mem_cons_of_mem part hother, hc⟩

/-! ## Fields -/

theorem fields_append (h : mark ∉ part) :
    fields mark (part ++ mark :: rest) = part :: fields mark rest := by
  induction part with
  | nil => rw [List.nil_append, fields, if_pos rfl]
  | cons c part ih =>
    rw [List.mem_cons, not_or] at h
    rw [List.cons_append, fields, if_neg (Ne.symm h.1), ih h.2]

theorem fields_of_not_mem (h : mark ∉ part) : fields mark part = [part] := by
  induction part with
  | nil => rfl
  | cons c part ih =>
    rw [List.mem_cons, not_or] at h
    rw [fields, if_neg (Ne.symm h.1), ih h.2]

theorem mark_not_mem_of_mem_fields (h : part ∈ fields mark s) : mark ∉ part := by
  fun_induction fields mark s generalizing part with
  | case1 => rw [List.mem_singleton.1 h]; exact List.not_mem_nil
  | case2 r ih =>
    rcases List.mem_cons.1 h with rfl | h
    · exact List.not_mem_nil
    · exact ih h
  | case3 c r hne hnil => exact absurd hnil (fields_ne_nil mark r)
  | case4 c r hne field others hfields ih =>
    rw [hfields] at ih
    rcases List.mem_cons.1 h with rfl | h
    · rw [List.mem_cons, not_or]
      exact ⟨Ne.symm hne, ih List.mem_cons_self⟩
    · exact ih (List.mem_cons_of_mem _ h)

/-- Fields joined by the mark come back. -/
theorem fields_intercalate {parts : List (List Char)} (hne : parts ≠ [])
    (h : ∀ part ∈ parts, mark ∉ part) :
    fields mark (List.intercalate [mark] parts) = parts := by
  induction parts with
  | nil => exact absurd rfl hne
  | cons part parts ih =>
    obtain ⟨hpart, hparts⟩ := List.forall_mem_cons.1 h
    cases parts with
    | nil => rw [List.intercalate_singleton, fields_of_not_mem hpart]
    | cons next parts =>
      rw [List.intercalate_cons_cons, List.append_assoc, List.singleton_append,
        fields_append hpart, ih (List.cons_ne_nil _ _) hparts]

/-- A text is cut at the first mark. -/
theorem cut?_eq_some_iff {front behind : List Char} :
    cut? mark s = some (front, behind) ↔ s = front ++ mark :: behind ∧ mark ∉ front := by
  induction s generalizing front with
  | nil => simp [cut?]
  | cons c r ih =>
    rw [cut?]
    by_cases hmark : c = mark
    · rw [if_pos hmark, hmark]
      cases front with
      | nil => simp
      | cons d front => simp +contextual
    · rw [if_neg hmark, Option.map_eq_some_iff]
      constructor
      · rintro ⟨⟨front', _⟩, hcut, heq⟩
        cases heq
        obtain ⟨rfl, hnot⟩ := ih.1 hcut
        exact ⟨rfl, List.not_mem_cons_of_ne_of_not_mem (Ne.symm hmark) hnot⟩
      · rintro ⟨heq, hnot⟩
        cases front with
        | nil => exact absurd (List.cons.inj heq).1 hmark
        | cons d front =>
          obtain ⟨rfl, hrest⟩ := List.cons.inj heq
          exact ⟨_, ih.2 ⟨hrest, List.not_mem_of_not_mem_cons hnot⟩, rfl⟩

/-! ## Words -/

theorem words_cons_blank (h : isBlank c = true) : words (c :: rest) = words rest := by
  rw [words.eq_def]
  exact if_pos h

/-- A character in front of a word belongs to it. -/
theorem words_cons_cons {word : List Char} {others : List (List Char)} (hc : isBlank c = false)
    (hd : isBlank d = false) (h : words (d :: rest) = word :: others) :
    words (c :: d :: rest) = (c :: word) :: others := by
  rw [words.eq_def]
  dsimp only
  rw [if_neg (ne_true_of_eq_false hc), h]
  exact if_neg (ne_true_of_eq_false hd)

/-- A character with a blank behind it is a word or the end of one. -/
theorem words_cons_cons_blank (hc : isBlank c = false) (hd : isBlank d = true) :
    words (c :: d :: rest) = [c] :: words rest := by
  rw [words.eq_def]
  dsimp only
  rw [if_neg (ne_true_of_eq_false hc), words_cons_blank hd]
  cases words rest with
  | nil => rfl
  | cons _ _ => exact if_pos hd

theorem words_append (hne : part ≠ []) (h : ∀ c ∈ part, isBlank c = false) :
    words (part ++ ' ' :: rest) = part :: words rest := by
  induction part with
  | nil => exact absurd rfl hne
  | cons c part ih =>
    obtain ⟨hc, hpart⟩ := List.forall_mem_cons.1 h
    cases part with
    | nil => exact words_cons_cons_blank hc (by decide)
    | cons d part =>
      exact words_cons_cons hc (hpart d List.mem_cons_self) (ih (List.cons_ne_nil _ _) hpart)

theorem words_of_not_blank (hne : part ≠ []) (h : ∀ c ∈ part, isBlank c = false) :
    words part = [part] := by
  induction part with
  | nil => exact absurd rfl hne
  | cons c part ih =>
    obtain ⟨hc, hpart⟩ := List.forall_mem_cons.1 h
    cases part with
    | nil =>
      rw [words.eq_def]
      exact if_neg (ne_true_of_eq_false hc)
    | cons d part =>
      exact words_cons_cons hc (hpart d List.mem_cons_self) (ih (List.cons_ne_nil _ _) hpart)

/-- Words joined by spaces come back. -/
theorem words_intercalate {parts : List (List Char)}
    (h : ∀ part ∈ parts, part ≠ [] ∧ ∀ c ∈ part, isBlank c = false) :
    words (List.intercalate [' '] parts) = parts := by
  induction parts with
  | nil => rfl
  | cons part parts ih =>
    obtain ⟨⟨hne, hpart⟩, hparts⟩ := List.forall_mem_cons.1 h
    cases parts with
    | nil => rw [List.intercalate_singleton, words_of_not_blank hne hpart]
    | cons next parts =>
      rw [List.intercalate_cons_cons, List.append_assoc, List.singleton_append,
        words_append hne hpart, ih hparts]

/-! ## Lines -/

/-- Whether a text has no line end in it. -/
def IsLine (s : List Char) : Prop := ∀ c ∈ s, isLineEnd c = false

instance (s : List Char) : Decidable (IsLine s) :=
  List.decidableBAll (fun c => isLineEnd c = false) s

theorem isLine_of_not_blank (h : ∀ c ∈ s, isBlank c = false) : IsLine s := by
  intro c hc
  rw [← Bool.not_eq_true]
  intro hend
  exact absurd (isBlank_of_isLineEnd hend) (ne_true_of_eq_false (h c hc))

/-- Lines, each with a line feed behind it. -/
def withEnds (ls : List (List Char)) : List Char := ls.flatMap (· ++ ['\n'])

theorem lines_cons (hc : isLineEnd c = false) {line : List Char} {others : List (List Char)}
    (h : lines rest = line :: others) : lines (c :: rest) = (c :: line) :: others := by
  have hcr : c ≠ '\r' := by
    rintro rfl
    exact absurd hc (by decide)
  rw [lines.eq_3 _ _ (fun _ hc _ => hcr hc), if_neg (ne_true_of_eq_false hc), h]

theorem lines_append (h : IsLine part) :
    lines (part ++ '\n' :: rest) = part :: lines rest := by
  induction part with
  | nil => rfl
  | cons c part ih =>
    obtain ⟨hc, hpart⟩ := List.forall_mem_cons.1 h
    exact lines_cons hc (ih hpart)

/-- Lines with a line feed behind each come back. -/
theorem lines_withEnds {parts : List (List Char)} (h : ∀ part ∈ parts, IsLine part) :
    lines (withEnds parts) = parts := by
  induction parts with
  | nil => rfl
  | cons part parts ih =>
    obtain ⟨hpart, hparts⟩ := List.forall_mem_cons.1 h
    have happend : withEnds (part :: parts) = part ++ '\n' :: withEnds parts := by
      rw [withEnds, List.flatMap_cons, List.append_assoc, List.singleton_append, withEnds]
    rw [happend, lines_append hpart, ih hparts]

@[simp] theorem withEnds_append (ls ms : List (List Char)) :
    withEnds (ls ++ ms) = withEnds ls ++ withEnds ms := List.flatMap_append

/-- Joined lines with a line feed behind the last one have one behind each. -/
theorem joinLines_append {ls : List (List Char)} (h : ls ≠ []) :
    joinLines ls ++ ['\n'] = withEnds ls := by
  induction ls with
  | nil => exact absurd rfl h
  | cons line ls ih =>
    cases ls with
    | nil => rw [joinLines, List.intercalate_singleton, withEnds, List.flatMap_singleton]
    | cons next ls =>
      rw [joinLines, List.intercalate_cons_cons, List.append_assoc, ← joinLines,
        ih (List.cons_ne_nil _ _)]
      rfl

theorem eq_nil_of_lines (h : lines s = []) : s = [] := by
  unfold lines at h
  split at h
  · rfl
  · cases h
  · split at h
    · cases h
    · split at h <;> cases h

/-- **A line feed between two texts keeps their lines apart.** Where the first text has ended its
last line already, an empty line may come between them. -/
theorem lines_append_lineFeed (s rest : List Char) :
    ∃ gap, (gap = [] ∨ gap = [[]]) ∧ lines (s ++ '\n' :: rest) = lines s ++ gap ++ lines rest := by
  fun_induction lines s with
  | case1 => exact ⟨[[]], .inr rfl, rfl⟩
  | case2 r ih =>
    obtain ⟨gap, hgap, ih⟩ := ih
    exact ⟨gap, hgap, congrArg ([] :: ·) ih⟩
  | case3 c r hpair hend ih =>
    -- a carriage return at the end makes one line end with the line feed
    by_cases hreturn : c = '\r' ∧ r = []
    · obtain ⟨rfl, rfl⟩ := hreturn
      exact ⟨[], .inl rfl, rfl⟩
    · obtain ⟨gap, hgap, ih⟩ := ih
      have hpair' : ∀ r', c = '\r' → r ++ '\n' :: rest = '\n' :: r' → False := by
        intro r' hc hr
        cases r with
        | nil => exact hreturn ⟨hc, rfl⟩
        | cons d r => exact hpair r hc (by rw [(List.cons.inj hr).1])
      refine ⟨gap, hgap, ?_⟩
      rw [List.cons_append, lines.eq_3 _ _ hpair', if_pos hend, ih]
      rfl
  | case4 c r hpair hend hr ih =>
    obtain rfl := eq_nil_of_lines hr
    exact ⟨[], .inl rfl, lines_cons (by simpa using hend) rfl⟩
  | case5 c r hpair hend l ls hr ih =>
    obtain ⟨gap, hgap, ih⟩ := ih
    rw [hr] at ih
    exact ⟨gap, hgap, lines_cons (by simpa using hend) ih⟩

end ContractBridge.Text
