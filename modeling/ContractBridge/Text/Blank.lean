/-
Blanks and line ends.

A blank is one of 29 characters: the spaces of every width, the tab and the line controls, and
the four separator controls U+001C to U+001F. Ten of them end a line, and a carriage return
with the line feed behind it ends one line and not two.
-/

set_option autoImplicit false

namespace ContractBridge.Text

/-- Whether a character is blank. -/
def isBlank (c : Char) : Bool :=
  let code := c.toNat
  (0x09 ≤ code && code ≤ 0x0D) || (0x1C ≤ code && code ≤ 0x20) || code == 0x85 || code == 0xA0 ||
    code == 0x1680 || (0x2000 ≤ code && code ≤ 0x200A) || code == 0x2028 || code == 0x2029 ||
    code == 0x202F || code == 0x205F || code == 0x3000

/-- Whether a character ends a line. -/
def isLineEnd (c : Char) : Bool :=
  let code := c.toNat
  (0x0A ≤ code && code ≤ 0x0D) || (0x1C ≤ code && code ≤ 0x1E) || code == 0x85 ||
    code == 0x2028 || code == 0x2029

/-- A line end is blank. -/
theorem isBlank_of_isLineEnd {c : Char} (h : isLineEnd c = true) : isBlank c = true := by
  simp only [isLineEnd, isBlank, Bool.or_eq_true, Bool.and_eq_true, decide_eq_true_eq,
    beq_iff_eq] at h ⊢
  omega

/-- The text without the blanks at its front. -/
def stripFront (s : List Char) : List Char := s.dropWhile isBlank

/-- The text without the blanks at its end. -/
def stripBack (s : List Char) : List Char := (s.reverse.dropWhile isBlank).reverse

/-- **The text without the blanks around it.** -/
def strip (s : List Char) : List Char := stripBack (stripFront s)

/-- The words of a text: what stands between runs of blanks. -/
def words : List Char → List (List Char)
  | [] => []
  | c :: r =>
    if isBlank c then words r
    else
      match r, words r with
      | d :: _, w :: ws => if isBlank d then [c] :: w :: ws else (c :: w) :: ws
      | _, ws => [c] :: ws

/-- **The lines of a text,** without their ends; a line end at the very end starts no line. -/
def lines : List Char → List (List Char)
  | [] => []
  | '\r' :: '\n' :: r => [] :: lines r
  | c :: r =>
    if isLineEnd c then [] :: lines r
    else
      match lines r with
      | [] => [[c]]
      | l :: ls => (c :: l) :: ls

/-- The part of a text before the first `mark` and the part behind it, if there is one. -/
def cut? (mark : Char) : List Char → Option (List Char × List Char)
  | [] => none
  | c :: r => if c = mark then some ([], r) else (cut? mark r).map fun (a, b) => (c :: a, b)

/-- The fields of a text between the marks; without a mark the text is one field. -/
def fields (mark : Char) : List Char → List (List Char)
  | [] => [[]]
  | c :: r =>
    if c = mark then [] :: fields mark r
    else
      match fields mark r with
      | [] => [[c]]
      | f :: fs => (c :: f) :: fs

theorem fields_ne_nil (mark : Char) (s : List Char) : fields mark s ≠ [] := by
  cases s with
  | nil => simp [fields]
  | cons c r =>
    unfold fields
    split
    · simp
    · split <;> simp

/-- Joined by the mark, the fields are the text again. -/
theorem intercalate_fields (mark : Char) (s : List Char) :
    List.intercalate [mark] (fields mark s) = s := by
  induction s with
  | nil => rfl
  | cons c r ih =>
    unfold fields
    split
    · next h =>
      subst h
      cases hf : fields c r with
      | nil => exact absurd hf (fields_ne_nil c r)
      | cons f fs => rw [hf] at ih; simp [List.intercalate, List.intersperse] at ih ⊢; exact ih
    · split
      · next hf => exact absurd hf (fields_ne_nil mark r)
      · next f fs hf =>
        rw [hf] at ih
        cases fs with
        | nil => simp [List.intercalate, List.intersperse] at ih ⊢; exact ih
        | cons g gs => simp [List.intercalate, List.intersperse] at ih ⊢; exact ih

end ContractBridge.Text
