/-
DueTime.Reminder.Draft — reminders, ready to be kept.

A draft joins what an extractor found with the clock. A failure of the
extractor is handed on as it is. Else the blank fields are looked at, both
together before either alone, and only then is the token resolved. Where
the resolution breaks off, so does the draft.
-/
import DueTime.Reminder.Extraction
import DueTime.Resolution.Basic

namespace DueTime

/-- What to be reminded of, and when. -/
structure Draft where
  activity : String
  resolution : Resolution

namespace Draft

/-- The time of the reminder. -/
def due (d : Draft) : String :=
  d.resolution.due

/-- The name of the kind of pattern that gave the time. -/
def rule (d : Draft) : String :=
  d.resolution.rule

end Draft

/-- The activity and the token of an answer that lacks neither. -/
def Extraction.request : Extraction → Except FailureCode (String × String)
  | failed code => .error code
  | extracted activity timePattern =>
    match Text.allBlank activity, Text.allBlank timePattern with
    | true, true => .error .noActivityAndTime
    | false, true => .error .noTime
    | true, false => .error .noActivity
    | false, false => .ok (activity, timePattern)

/-- Drafts a reminder, seen from a clock. -/
def ZonedTime.draft (now : ZonedTime) (answer : Extraction) : Result FailureCode Draft :=
  match answer.request with
  | .error code => .error code
  | .ok (activity, token) =>
    ((now.resolveToken token).mapError .ofResolveError).map (⟨Text.trimmed activity, ·⟩)

end DueTime
