/-
DueTime.Command.Argument — single arguments of the program.

An option with a value takes it from the next argument, or carries it
behind an equals sign. An argument that begins with a dash is an option
unless a digit comes next, so that an offset into the past can be given.
-/
import DueTime.Text.Expect

namespace DueTime.Command

/-- An option that takes a value. -/
inductive ValueOption
  | reference
  | zone
  | payload
  deriving Repr, DecidableEq

/-- How the option is written. -/
def ValueOption.flag : ValueOption → String
  | reference => "--reference"
  | zone => "--tz"
  | payload => "--oracle"

/-- What an argument means, taken by itself. -/
inductive Argument
  | help
  | version
  | color (on : Bool)
  | json
  | valueFollows (option : ValueOption)
  | value (option : ValueOption) (text : String)
  | endOfOptions
  | unknown
  | word
  deriving Repr, DecidableEq

namespace Argument

/-- The value that an argument carries behind the equals sign. The flag
and its sign may be repeated in front of the value. -/
def carried? (option : ValueOption) (argument : List Char) : Option Argument :=
  let lead := option.flag.toList ++ ['=']
  (Text.expect lead argument).map fun rest =>
    .value option (String.ofList (Text.expectAll lead rest))

/-- An argument that is no flag by itself. -/
def ofOther (argument : List Char) : Argument :=
  match carried? .reference argument <|> carried? .zone argument <|>
      carried? .payload argument with
  | some carried => carried
  | none =>
    match argument with
    | ['-'] => .unknown
    | '-' :: c :: _ => if c.isDigit then .word else .unknown
    | _ => .word

/-- The meaning of an argument. -/
def ofText (argument : String) : Argument :=
  match argument with
  | "-h" | "--help" => .help
  | "-V" | "--version" => .version
  | "--color" => .color true
  | "--no-color" => .color false
  | "--json" => .json
  | "--reference" => .valueFollows .reference
  | "--tz" => .valueFollows .zone
  | "--oracle" => .valueFollows .payload
  | "--" => .endOfOptions
  | _ => ofOther argument.toList

end Argument

end DueTime.Command
