/-
DueTime.Command.Options — what the arguments say.

Arguments are read from left to right, and of several occurrences of an
option the last one counts. The first argument that is no option ends the
options: it and all that follow, joined by spaces, are the token. `--`
ends the options too. A reference is read as soon as it is met, so a
malformed one is refused even where a later one would have taken its
place. Help and the version are given as soon as they are asked for.
-/
import DueTime.Calendar.Timestamp
import DueTime.Command.Argument
import DueTime.Command.Refusal

namespace DueTime.Command

/-- What the arguments say. -/
structure Options where
  reference : Option Reading := none
  zone : Option String := none
  payload : Option String := none
  token : Option String := none
  color : Bool
  json : Bool := false
  deriving DecidableEq

/-- Why the reading of arguments stops before a setting is reached. -/
inductive Stop
  | help
  | version
  | refused (reason : Refusal)
  deriving Repr, DecidableEq

namespace Options

/-- Takes note of an option's value. A reference is read at once. -/
def setValue (o : Options) (option : ValueOption) (text : String) : Except Stop Options :=
  match option with
  | .reference =>
    match Timestamp.read? text with
    | some l => .ok { o with reference := some l }
    | none => .error (.refused (.malformedReference text))
  | .zone => .ok { o with zone := some text }
  | .payload => .ok { o with payload := some text }

/-- Takes the arguments behind `--` for the token, unless they are blank. -/
def setRest (o : Options) (rest : List String) : Options :=
  let text := " ".intercalate rest
  if Text.allBlank text then o else { o with token := some text }

/-- Reads the arguments, given what those before them said. -/
def scan (o : Options) : List String → Except Stop Options
  | [] => .ok o
  | argument :: rest =>
    match Argument.ofText argument with
    | .help => .error .help
    | .version => .error .version
    | .color on => scan { o with color := on } rest
    | .json => scan { o with json := true } rest
    | .value option text =>
      match o.setValue option text with
      | .ok o => scan o rest
      | .error stop => .error stop
    | .valueFollows option =>
      match rest with
      | [] => .error (.refused (.missingValue option.flag))
      | text :: rest =>
        match o.setValue option text with
        | .ok o => scan o rest
        | .error stop => .error stop
    | .endOfOptions => .ok (o.setRest rest)
    | .unknown => .error (.refused (.unknownOption argument))
    | .word => .ok { o with token := some (" ".intercalate (argument :: rest)) }

end Options

end DueTime.Command
