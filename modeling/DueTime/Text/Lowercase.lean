/-
DueTime.Text.Lowercase — Unicode's full lower-case mapping of a text.

Three rules make it up. A letter of `lowerRuns` becomes its one-character
form. U+0130 (capital I with a dot above) becomes `i` and U+0307, the dot
on its own. The capital sigma becomes the final form at the end of a word
and the plain form elsewhere; it ends a word when a letter with case comes
before it and none comes after it, marks and the like not counting.
-/
import DueTime.Text.Blank
import DueTime.Text.CaseTable

namespace DueTime.Text

/-! ## One character -/

/-- The lower-case form of a character that stands on its own; a capital
sigma has its plain form here. -/
def lowerChar (c : Char) : List Char :=
  if c.toNat < 0x80 then [c.toLower]
  else if c = '\u0130' then ['i', '\u0307']
  else if c = 'Σ' then ['σ']
  else match lowerRuns.find? (·.holds c.toNat) with
    | some run => [Char.ofNat (run.lower c.toNat)]
    | none => [c]

/-! ## The final sigma -/

/-- The letter has case. -/
def isCased (c : Char) : Bool :=
  inRanges casedRanges c.toNat

/-- The character is passed over in the search for a letter with case. -/
def isCaseIgnorable (c : Char) : Bool :=
  inRanges caseIgnorableRanges c.toNat

/-- The first character that is not passed over has case. -/
def casedNext (cs : List Char) : Bool :=
  match cs.dropWhile isCaseIgnorable with
  | c :: _ => isCased c
  | [] => false

/-- Writes the sigmas that end a word in their final form. `before` holds
the characters already passed, the nearest first. -/
def finalSigmas (before : List Char) : List Char → List Char
  | [] => []
  | c :: after =>
    (if c = 'Σ' && casedNext before && !casedNext after then 'ς' else c) ::
      finalSigmas (c :: before) after

/-! ## A text -/

/-- The text in lower case. -/
def lower (cs : List Char) : List Char :=
  (if cs.contains 'Σ' then finalSigmas [] cs else cs).flatMap lowerChar

end DueTime.Text
