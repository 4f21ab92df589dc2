/-
Padding a line to a width.

A line shorter than the width is filled with spaces; a longer one stays as it is. Centring
splits the spaces evenly, and an odd one goes to the left exactly when the width is odd.
-/
import ContractBridge.Text.Blank

set_option autoImplicit false

namespace ContractBridge.Text

/-- A run of spaces. -/
def spaces (n : Nat) : List Char := List.replicate n ' '

/-- The line with spaces behind it. -/
def padBack (width : Nat) (s : List Char) : List Char := s ++ spaces (width - s.length)

/-- The line with spaces before it. -/
def padFront (width : Nat) (s : List Char) : List Char := spaces (width - s.length) ++ s

/-- The line in the middle of the width. -/
def centre (width : Nat) (s : List Char) : List Char :=
  let pad := width - s.length
  let left := pad / 2 + (if pad % 2 = 1 ∧ width % 2 = 1 then 1 else 0)
  spaces left ++ s ++ spaces (pad - left)

theorem length_padBack (width : Nat) (s : List Char) :
    (padBack width s).length = max width s.length := by
  simp [padBack, spaces]; omega

theorem length_padFront (width : Nat) (s : List Char) :
    (padFront width s).length = max width s.length := by
  simp [padFront, spaces]; omega

theorem length_centre (width : Nat) (s : List Char) :
    (centre width s).length = max width s.length := by
  simp only [centre, spaces, List.length_append, List.length_replicate]
  split <;> omega

/-- Lines joined by line feeds. -/
def joinLines (ls : List (List Char)) : List Char := List.intercalate ['\n'] ls

/-- An integer in decimal digits. -/
def decimal (n : Int) : List Char :=
  match n with
  | .ofNat m => Nat.toDigits 10 m
  | .negSucc m => '-' :: Nat.toDigits 10 (m + 1)

/-- An integer in hexadecimal digits, capitals. -/
def hexadecimal (n : Int) : List Char :=
  match n with
  | .ofNat m => (Nat.toDigits 16 m).map Char.toUpper
  | .negSucc m => '-' :: (Nat.toDigits 16 (m + 1)).map Char.toUpper

end ContractBridge.Text
