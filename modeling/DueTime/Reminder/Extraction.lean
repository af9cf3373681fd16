/-
DueTime.Reminder.Extraction — what an extractor found in a message.

The extractor answers with an activity and a token for its time, or with a
failure code. Its answer comes as a JSON object in one of two shapes; the
shape with an activity is tried first. A member that belongs to a shape
must stand in the object exactly once, and members that do not belong to
it are passed over. The order of the members never matters.
-/
import DueTime.Json.Reader
import DueTime.Reminder.FailureCode

namespace DueTime

/-- What an extractor found. -/
inductive Extraction
  | extracted (activity timePattern : String)
  | failed (code : FailureCode)
  deriving Repr, DecidableEq, Inhabited

namespace Extraction

/-! ## From JSON values -/

/-- The value of the one member of that name. -/
def theMember? (name : String) (members : List (String × Json)) : Option Json :=
  match members.filter (·.1 == name) with
  | [member] => some member.2
  | _ => none

/-- The text of a string. -/
def stringOf? : Json → Option String
  | .string text => some text
  | _ => none

/-- A failure code stands as a string, or as the name of the only member
of an object, whose value is null. -/
def codeOf? : Json → Option FailureCode
  | .string text => FailureCode.ofText? text
  | .object [(text, .null)] => FailureCode.ofText? text
  | _ => none

/-- The shape with an activity. -/
def extractedOf? (members : List (String × Json)) : Option Extraction := do
  let activity ← theMember? "activity" members >>= stringOf?
  let timePattern ← theMember? "timePattern" members >>= stringOf?
  return extracted activity timePattern

/-- The shape with a failure code. -/
def failedOf? (members : List (String × Json)) : Option Extraction := do
  let code ← theMember? "error" members >>= codeOf?
  return failed code

/-- The answer that a JSON value stands for. -/
def ofJson? : Json → Option Extraction
  | .object members => extractedOf? members <|> failedOf? members
  | _ => none

/-! ## From text -/

/-- Why a text is no answer. -/
inductive PayloadError
  /-- The text is not JSON. -/
  | malformed (error : Json.Error)
  /-- The JSON value has neither shape. -/
  | unfit
  deriving Repr, DecidableEq, Inhabited

/-- The error in words; a place is given where there is one. -/
def PayloadError.message (text : String) : PayloadError → String
  | malformed error => error.message text
  | unfit => "data did not match any variant of untagged enum OracleResponse"

/-- The answer that a text stands for. The value is fitted to the shapes as
soon as it has been read; what follows it in the text is looked at last. -/
def ofText (text : String) : Except PayloadError Extraction := do
  let (value, rest) ← (Json.readValue text).mapError .malformed
  match ofJson? value with
  | none => .error .unfit
  | some answer => do
    (Json.readEnd rest).mapError .malformed
    return answer

end Extraction

end DueTime
