/-
DueTime.Command.Refusal — why the program does not even start to resolve.

A refusal goes to standard error and ends the program with exit code 2.
-/
import DueTime.Command.Help
import DueTime.Reminder.Extraction

namespace DueTime.Command

/-- What is wrong with the arguments, the input or the payload. -/
inductive Refusal
  | missingValue (option : String)
  | malformedReference (value : String)
  | unknownOption (argument : String)
  | unknownZone (name : String)
  | tokenAndPayload
  | unreadableInput
  | noInput
  | referenceOutOfRange (zone : String)
  | badPayload (text : String) (error : Extraction.PayloadError)
  deriving Repr, DecidableEq

namespace Refusal

/-- The complaint, without the word that begins it. -/
def complaint : Refusal → String
  | missingValue option => option ++ " expects a value"
  | malformedReference value =>
    "invalid --reference '" ++ value ++ "' (expected YYYY-MM-DDTHH:MM:SS)"
  | unknownOption argument => "unknown option '" ++ argument ++ "'"
  | unknownZone name =>
    "unknown timezone '" ++ name ++ "' (expected an IANA name such as Europe/Berlin)"
  | tokenAndPayload => "pass either a token or --oracle, not both"
  | unreadableInput => "failed to read stdin: stream did not contain valid UTF-8"
  | noInput => "no input provided\n\n" ++ helpText
  | referenceOutOfRange zone => "--reference is out of range for " ++ zone
  | badPayload text error => "invalid oracle payload: " ++ error.message text

/-- What is written to standard error. -/
def message (r : Refusal) : String :=
  "error: " ++ r.complaint ++ "\n"

end Refusal

end DueTime.Command
