/-
Capital and small letters, for all scripts.

`capitals` and `smalls` take a text to its capital and its small form by the tables of
`CaseTable`. A letter may become several characters, so the length can grow. One letter looks
around itself: the capital sigma becomes the final small sigma where a word ends, that is,
where a letter with case stands before it and none behind it, characters that case rules skip
not counted.
-/
import ContractBridge.Text.CaseTable

set_option autoImplicit false

namespace ContractBridge.Text

/-- The partner of a letter in a table of runs, or the letter itself. -/
def partner (runs : List CaseRun) (c : Char) : Char :=
  match runs.find? (·.covers c.toNat) with
  | some r => Char.ofNat (c.toNat + r.distance).toNat
  | none => c

/-- The capital form of a character. -/
def capitalForm (c : Char) : List Char :=
  if c.toNat < 0x80 then [c.toUpper]
  else
    match capitalForms.lookup c.toNat with
    | some codes => codes.map Char.ofNat
    | none => [partner capitalRuns c]

/-- **The text in capitals.** -/
def capitals (s : List Char) : List Char := s.flatMap capitalForm

/-- The capital and the small dotted I, and the sigmas. -/
def dottedCapitalI : Char := 'İ'
@[inherit_doc dottedCapitalI] def capitalSigma : Char := 'Σ'
@[inherit_doc dottedCapitalI] def smallSigma : Char := 'σ'
@[inherit_doc dottedCapitalI] def finalSigma : Char := 'ς'

/-- The small form of a character that does not look around itself. -/
def smallForm (c : Char) : List Char :=
  if c.toNat < 0x80 then [c.toLower]
  else if c = dottedCapitalI then ['i', Char.ofNat 0x307]
  else [partner smallRuns c]

/-- Whether the next character that case rules do not skip has case. -/
def facesCased (s : List Char) : Bool :=
  match s.find? fun c => !inRanges caseIgnorableRanges c.toNat with
  | some c => inRanges casedRanges c.toNat
  | none => false

/-- The small form of a text, given what stood before it, last character first. -/
def smallsFrom : List Char → List Char → List Char
  | _, [] => []
  | before, c :: r =>
    (if c = capitalSigma then
      [if facesCased before && !facesCased r then finalSigma else smallSigma]
    else smallForm c) ++ smallsFrom (c :: before) r

/-- **The text in small letters.** -/
def smalls (s : List Char) : List Char := smallsFrom [] s

end ContractBridge.Text
