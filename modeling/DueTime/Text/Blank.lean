/-
DueTime.Text.Blank — blank characters, and the words between them.

A character is blank when Unicode gives it the property `White_Space`;
no other notion of space is used anywhere in the library. `words` cuts a
text at its blanks, `unwords` joins words by single spaces, and
`trimmed` takes the blanks off both ends and leaves the rest as it was.
-/
namespace DueTime.Text

/-! ## The blank characters -/

/-- The code points with the property `White_Space`, as first and last
of each run. -/
def blankRanges : List (Nat × Nat) :=
  [(0x09, 0x0D), (0x20, 0x20), (0x85, 0x85), (0xA0, 0xA0), (0x1680, 0x1680),
   (0x2000, 0x200A), (0x2028, 0x2029), (0x202F, 0x202F), (0x205F, 0x205F),
   (0x3000, 0x3000)]

/-- A code point lies in one of the runs of a table. -/
def inRanges (table : List (Nat × Nat)) (code : Nat) : Bool :=
  table.any fun (first, last) => first ≤ code && code ≤ last

/-- The character is white space. -/
def isBlank (c : Char) : Bool :=
  inRanges blankRanges c.toNat

/-- A text with no character but blanks; the empty text is one. -/
def allBlank (text : String) : Bool :=
  text.toList.all isBlank

/-! ## Trimming -/

/-- The characters after the leading blanks. -/
def dropBlanks (cs : List Char) : List Char :=
  cs.dropWhile isBlank

/-- The text without the blanks at its two ends. -/
def trimmed (text : String) : String :=
  String.ofList (dropBlanks (dropBlanks text.toList).reverse).reverse

/-! ## Words -/

/-- The words of a text whose first word has begun: `word` holds the
characters read of it so far, the last one first. -/
def wordsFrom (word : List Char) : List Char → List (List Char)
  | [] => if word.isEmpty then [] else [word.reverse]
  | c :: cs =>
    if isBlank c then
      if word.isEmpty then wordsFrom [] cs else word.reverse :: wordsFrom [] cs
    else wordsFrom (c :: word) cs

/-- The longest runs of characters that are not blank, in order. -/
def words (cs : List Char) : List (List Char) :=
  wordsFrom [] cs

/-- The words joined by single spaces. -/
def unwords (ws : List (List Char)) : List Char :=
  [' '].intercalate ws

end DueTime.Text
