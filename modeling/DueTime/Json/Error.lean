/-
DueTime.Json.Error — what can be wrong with a JSON text, and where.

An error knows how many bytes of the text were still unread when it was
found, which is all that is needed to place it. Lines are counted from 1.
The column is the number of bytes read of the line.
-/
namespace DueTime.Json

/-- What is wrong with a text. -/
inductive Cause
  | endInArray
  | endInObject
  | endInString
  | endInValue
  | expectedColon
  | expectedCommaOrBracket
  | expectedCommaOrBrace
  | expectedWord
  | expectedValue
  | invalidEscape
  | invalidNumber
  | numberOutOfRange
  | loneSurrogate
  | unfinishedSurrogatePair
  | controlCharacter
  | nameNotAString
  | trailingComma
  | trailingCharacters
  | tooDeep
  deriving Repr, DecidableEq, Inhabited

namespace Cause

/-- The text stops too early: with more after it, it might have been well
formed. -/
def isEnd : Cause → Bool
  | endInArray | endInObject | endInString | endInValue => true
  | _ => false

/-- The cause in words. -/
def message : Cause → String
  | endInArray => "EOF while parsing a list"
  | endInObject => "EOF while parsing an object"
  | endInString => "EOF while parsing a string"
  | endInValue => "EOF while parsing a value"
  | expectedColon => "expected `:`"
  | expectedCommaOrBracket => "expected `,` or `]`"
  | expectedCommaOrBrace => "expected `,` or `\x7d`"
  | expectedWord => "expected ident"
  | expectedValue => "expected value"
  | invalidEscape => "invalid escape"
  | invalidNumber => "invalid number"
  | numberOutOfRange => "number out of range"
  | loneSurrogate => "lone leading surrogate in hex escape"
  | unfinishedSurrogatePair => "unexpected end of hex escape"
  | controlCharacter => "control character (\\u0000-\\u001F) found while parsing a string"
  | nameNotAString => "key must be a string"
  | trailingComma => "trailing comma"
  | trailingCharacters => "trailing characters"
  | tooDeep => "recursion limit exceeded"

end Cause

/-- The bytes that a text takes in UTF-8. -/
def byteCount (cs : List Char) : Nat :=
  cs.foldl (fun count c => count + c.utf8Size) 0

/-- Something wrong with a text, and the bytes unread when it was found. -/
structure Error where
  cause : Cause
  unread : Nat
  deriving Repr, DecidableEq, Inhabited

namespace Error

/-- The error is found when all that is left is `rest`. -/
def before (cause : Cause) (rest : List Char) : Error :=
  ⟨cause, byteCount rest⟩

/-- The error is found in the first byte of `rest`, or at its end if there
is none. -/
def atHead (cause : Cause) (rest : List Char) : Error :=
  ⟨cause, byteCount rest - 1⟩

/-- The line and the column of the error in the text. -/
def position (e : Error) (text : String) : Nat × Nat :=
  let read := text.toUTF8.toList.take (text.utf8ByteSize - e.unread)
  (1 + read.count 10, (read.reverse.takeWhile (· != 10)).length)

/-- The error in words, with its place in the text. -/
def message (e : Error) (text : String) : String :=
  let (line, column) := e.position text
  e.cause.message ++ " at line " ++ toString line ++ " column " ++ toString column

end Error

end DueTime.Json
