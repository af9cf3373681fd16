/-
DueTime.Json.Reader — reading JSON, strictly.

Only what the standard allows is read: no comments, no commas at the end,
no blanks but the space, the tab and the two line ends. On top of that a
number must not be beyond double precision, and arrays and objects must
not be nested more than `maxDepth` deep.

A reader takes its piece off the front of the characters and gives the
rest. The loops over characters, items and members are bounded by the
number of characters that are left. Each round reads one at least, so the
bound is met only where nothing is left to read, and then the text has
ended too early.
-/
import DueTime.Json.Basic
import DueTime.Json.Number

namespace DueTime.Json

/-- How deep arrays and objects may be nested. -/
def maxDepth : Nat := 127

/-- The characters after the blanks in front. -/
def skipBlanks (cs : List Char) : List Char :=
  cs.dropWhile fun c => c == ' ' || c == '\n' || c == '\t' || c == '\r'

/-! ## Words -/

/-- Reads the rest of a word. -/
def readWord {α : Type} (value : α) : List Char → List Char → Except Error (α × List Char)
  | [], cs => .ok (value, cs)
  | _ :: _, [] => .error (.before .endInValue [])
  | w :: word, c :: cs =>
    if w = c then readWord value word cs else .error (.atHead .expectedWord (c :: cs))

/-! ## Strings -/

/-- The value of a hexadecimal digit. -/
def hexValue? (c : Char) : Option Nat :=
  if c.isDigit then some (Text.digitValue c)
  else if 'a' ≤ c ∧ c ≤ 'f' then some (c.toNat - 'a'.toNat + 10)
  else if 'A' ≤ c ∧ c ≤ 'F' then some (c.toNat - 'A'.toNat + 10)
  else none

/-- Reads four hexadecimal digits. When fewer than four bytes are left
the text has ended too early, whatever they are. -/
def readHex (cs : List Char) : Except Error (Nat × List Char) :=
  if byteCount (cs.take 4) < 4 then .error ⟨.endInString, 0⟩
  else
    match (cs.take 4).mapM hexValue? with
    | some digits => .ok (digits.foldl (fun n digit => 16 * n + digit) 0, cs.drop 4)
    | none => .error ⟨.invalidEscape, byteCount cs - 4⟩

/-- The code is the first half of a pair of surrogates. -/
def isLeadingSurrogate (code : Nat) : Bool :=
  0xD800 ≤ code && code ≤ 0xDBFF

/-- The code is the second half of a pair of surrogates. -/
def isTrailingSurrogate (code : Nat) : Bool :=
  0xDC00 ≤ code && code ≤ 0xDFFF

/-- The code point that a pair of surrogates stands for. -/
def joinSurrogates (leading trailing : Nat) : Nat :=
  0x10000 + 0x400 * (leading - 0xD800) + (trailing - 0xDC00)

/-- Reads the second half of a pair of surrogates. -/
def readTrailing (leading : Nat) (cs : List Char) : Except Error (Char × List Char) :=
  match cs with
  | '\\' :: 'u' :: rest => do
    let (trailing, rest) ← readHex rest
    if isTrailingSurrogate trailing then
      .ok (Char.ofNat (joinSurrogates leading trailing), rest)
    else .error (.before .loneSurrogate rest)
  | [] | ['\\'] => .error (.before .endInString [])
  | '\\' :: rest => .error (.atHead .unfinishedSurrogatePair rest)
  | rest => .error (.atHead .unfinishedSurrogatePair rest)

/-- Reads a character that is given by its code. -/
def readCode (cs : List Char) : Except Error (Char × List Char) := do
  let (code, rest) ← readHex cs
  if isTrailingSurrogate code then .error (.before .loneSurrogate rest)
  else if isLeadingSurrogate code then readTrailing code rest
  else .ok (Char.ofNat code, rest)

/-- Reads what follows a backslash. -/
def readEscape (cs : List Char) : Except Error (Char × List Char) :=
  match cs with
  | '"' :: rest => .ok ('"', rest)
  | '\\' :: rest => .ok ('\\', rest)
  | '/' :: rest => .ok ('/', rest)
  | 'b' :: rest => .ok ('\x08', rest)
  | 'f' :: rest => .ok ('\x0c', rest)
  | 'n' :: rest => .ok ('\n', rest)
  | 'r' :: rest => .ok ('\r', rest)
  | 't' :: rest => .ok ('\t', rest)
  | 'u' :: rest => readCode rest
  | [] => .error (.before .endInString [])
  | rest => .error (.atHead .invalidEscape rest)

/-- Reads characters up to the closing quotation mark. `done` holds those
already read, the last one first. -/
def readCharacters (done : List Char) : Nat → List Char → Except Error (String × List Char)
  | bound + 1, c :: cs =>
    if c = '"' then .ok (String.ofList done.reverse, cs)
    else if c = '\\' then do
      let (c, rest) ← readEscape cs
      readCharacters (c :: done) bound rest
    else if c.toNat < 0x20 then .error (.atHead .controlCharacter (c :: cs))
    else readCharacters (c :: done) bound cs
  | _, _ => .error (.before .endInString [])

/-- Reads a string, behind its opening quotation mark. -/
def readString (cs : List Char) : Except Error (String × List Char) :=
  readCharacters [] cs.length cs

/-! ## Arrays and objects -/

/-- A reader of values. -/
abbrev ValueReader := List Char → Except Error (Json × List Char)

/-- Reads the items of an array up to its closing bracket; one must stand
in front. -/
def readItems (readValue : ValueReader) : Nat → List Char →
    Except Error (List Json × List Char)
  | 0, _ => .error (.before .endInArray [])
  | bound + 1, cs => do
    let (item, rest) ← readValue cs
    match skipBlanks rest with
    | ']' :: rest => .ok ([item], rest)
    | ',' :: rest =>
      match skipBlanks rest with
      | [] => .error (.before .endInValue [])
      | ']' :: rest => .error (.atHead .trailingComma (']' :: rest))
      | rest => do
        let (items, rest) ← readItems readValue bound rest
        .ok (item :: items, rest)
    | [] => .error (.before .endInArray [])
    | rest => .error (.atHead .expectedCommaOrBracket rest)

/-- Reads an array, behind its opening bracket. -/
def readArray (readValue : ValueReader) (cs : List Char) : Except Error (Json × List Char) :=
  match skipBlanks cs with
  | [] => .error (.before .endInArray [])
  | ']' :: rest => .ok (.array [], rest)
  | rest => do
    let (items, rest) ← readItems readValue rest.length rest
    .ok (.array items, rest)

/-- Reads the colon of a member and its value. -/
def readMemberValue (readValue : ValueReader) (cs : List Char) :
    Except Error (Json × List Char) :=
  match skipBlanks cs with
  | ':' :: rest => readValue rest
  | [] => .error (.before .endInObject [])
  | rest => .error (.atHead .expectedColon rest)

/-- Reads the members of an object up to its closing brace, behind the
opening quotation mark of the first name. -/
def readMembers (readValue : ValueReader) : Nat → List Char →
    Except Error (List (String × Json) × List Char)
  | 0, _ => .error (.before .endInString [])
  | bound + 1, cs => do
    let (name, rest) ← readString cs
    let (value, rest) ← readMemberValue readValue rest
    match skipBlanks rest with
    | '}' :: rest => .ok ([(name, value)], rest)
    | ',' :: rest =>
      match skipBlanks rest with
      | '"' :: rest => do
        let (members, rest) ← readMembers readValue bound rest
        .ok ((name, value) :: members, rest)
      | [] => .error (.before .endInValue [])
      | '}' :: rest => .error (.atHead .trailingComma ('}' :: rest))
      | rest => .error (.atHead .nameNotAString rest)
    | [] => .error (.before .endInObject [])
    | rest => .error (.atHead .expectedCommaOrBrace rest)

/-- Reads an object, behind its opening brace. -/
def readObject (readValue : ValueReader) (cs : List Char) : Except Error (Json × List Char) :=
  match skipBlanks cs with
  | [] => .error (.before .endInObject [])
  | '}' :: rest => .ok (.object [], rest)
  | '"' :: rest => do
    let (members, rest) ← readMembers readValue rest.length rest
    .ok (.object members, rest)
  | rest => .error (.atHead .nameNotAString rest)

/-! ## Values -/

/-- Reads a number and keeps how it is written. -/
def readLiteral (cs unsigned : List Char) : Except Error (Json × List Char) := do
  let rest ← readNumber unsigned
  .ok (.number (String.ofList (cs.take (cs.length - rest.length))), rest)

/-- Reads a value that nests arrays and objects at most `depth` deep. -/
def readValueWithin : Nat → ValueReader
  | depth, cs =>
    match skipBlanks cs with
    | [] => .error (.before .endInValue [])
    | 'n' :: rest => readWord .null "ull".toList rest
    | 't' :: rest => readWord (.bool true) "rue".toList rest
    | 'f' :: rest => readWord (.bool false) "alse".toList rest
    | '"' :: rest => do
      let (s, rest) ← readString rest
      .ok (.string s, rest)
    | '-' :: rest => readLiteral ('-' :: rest) rest
    | '[' :: rest =>
      match depth with
      | 0 => .error (.atHead .tooDeep ('[' :: rest))
      | depth + 1 => readArray (readValueWithin depth) rest
    | '{' :: rest =>
      match depth with
      | 0 => .error (.atHead .tooDeep ('{' :: rest))
      | depth + 1 => readObject (readValueWithin depth) rest
    | c :: rest =>
      if c.isDigit then readLiteral (c :: rest) (c :: rest)
      else .error (.atHead .expectedValue (c :: rest))

/-- Reads a value off the front of a text. -/
def readValue (text : String) : Except Error (Json × List Char) :=
  readValueWithin maxDepth text.toList

/-- Nothing but blanks may follow the value of a text. -/
def readEnd (rest : List Char) : Except Error Unit :=
  match skipBlanks rest with
  | [] => .ok ()
  | rest => .error (.atHead .trailingCharacters rest)

/-- Reads a text that holds one value. -/
def read (text : String) : Except Error Json := do
  let (value, rest) ← readValue text
  readEnd rest
  return value

end DueTime.Json
