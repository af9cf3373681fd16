/-
DueTime.Json.Basic — JSON values, and how they are written.

An object keeps its members in the order in which they stand, a name that
comes twice included. A number is kept as it is written, since nothing
here computes with numbers.

`render` writes a value on one line without blanks. In a string it escapes
the quotation mark, the backslash and the control characters below U+0020,
and leaves every other character as it is.
-/
namespace DueTime

/-- A JSON value. -/
inductive Json
  | null
  | bool (value : Bool)
  | number (literal : String)
  | string (value : String)
  | array (items : List Json)
  | object (members : List (String × Json))
  deriving Inhabited

namespace Json

/-! ## Writing strings -/

/-- The hexadecimal digit of a number below 16, in lower case. -/
def hexDigit (n : Nat) : Char :=
  Nat.digitChar n

/-- A character as it stands in a string. -/
def escape (c : Char) : List Char :=
  match c with
  | '"' => ['\\', '"']
  | '\\' => ['\\', '\\']
  | '\n' => ['\\', 'n']
  | '\r' => ['\\', 'r']
  | '\t' => ['\\', 't']
  | '\x08' => ['\\', 'b']
  | '\x0c' => ['\\', 'f']
  | c =>
    if c.toNat < 0x20 then
      ['\\', 'u', '0', '0', hexDigit (c.toNat / 16), hexDigit (c.toNat % 16)]
    else [c]

/-- A string between its quotation marks. -/
def quoted (s : String) : List Char :=
  '"' :: s.toList.flatMap escape ++ ['"']

/-! ## Writing values -/

mutual

/-- The characters of a value. -/
def renderChars : Json → List Char
  | null => "null".toList
  | bool true => "true".toList
  | bool false => "false".toList
  | number literal => literal.toList
  | string value => quoted value
  | array items => '[' :: renderItems items ++ [']']
  | object members => '{' :: renderMembers members ++ ['}']

/-- The items of an array, with commas between them. -/
def renderItems : List Json → List Char
  | [] => []
  | [item] => renderChars item
  | item :: items => renderChars item ++ ',' :: renderItems items

/-- The members of an object, with commas between them. -/
def renderMembers : List (String × Json) → List Char
  | [] => []
  | [(name, value)] => quoted name ++ ':' :: renderChars value
  | (name, value) :: members =>
    quoted name ++ ':' :: renderChars value ++ ',' :: renderMembers members

end

/-- The value as text. -/
def render (value : Json) : String :=
  String.ofList value.renderChars

end Json

end DueTime
