/-
DueTime.Command.MachineLine — what other programs get to read.

The answer is one JSON object. Its members stand in the order of their
names, and every value is a string.
-/
import DueTime.Json.Basic
import DueTime.Reminder.Draft

namespace DueTime.Command

/-- An object whose values are strings. -/
def stringObject (members : List (String × String)) : Json :=
  .object (members.map fun (name, value) => (name, .string value))

/-- The object for a token in its normal form. -/
def tokenObject (normalized : String) : Except ResolveError Resolution → Json
  | .ok r => stringObject [("due", r.due), ("rule", r.rule), ("token", normalized)]
  | .error reason => stringObject [("error", reason.message), ("token", normalized)]

/-- The object for a draft. -/
def draftObject : Except FailureCode Draft → Json
  | .ok d => stringObject [("activity", d.activity), ("due", d.due), ("rule", d.rule)]
  | .error code => stringObject [("error", code.text), ("message", code.message)]

end DueTime.Command
