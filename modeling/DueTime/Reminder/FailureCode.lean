/-
DueTime.Reminder.FailureCode — the reasons why there is no reminder.

The set is closed and shared with the extractor that reads people's
messages, so each reason has a code that goes over the wire.
-/
import DueTime.Resolution.Error

namespace DueTime

/-- Why no reminder could be drafted. -/
inductive FailureCode
  | noActivityAndTime
  | noTime
  | noActivity
  | invalidTimeFormat
  | pastTime
  | duplicateData
  deriving Repr, DecidableEq, Inhabited

namespace FailureCode

/-- All codes. -/
def all : List FailureCode :=
  [noActivityAndTime, noTime, noActivity, invalidTimeFormat, pastTime, duplicateData]

/-- The code as it goes over the wire. -/
def text : FailureCode → String
  | noActivityAndTime => "NO_ACTIVITY_AND_TIME"
  | noTime => "NO_TIME"
  | noActivity => "NO_ACTIVITY"
  | invalidTimeFormat => "INVALID_TIME_FORMAT"
  | pastTime => "PAST_TIME"
  | duplicateData => "DUPLICATE_DATA"

/-- The code that a text writes; it must be written exactly so. -/
def ofText? (text : String) : Option FailureCode :=
  all.find? (·.text == text)

/-- The code in words. -/
def message : FailureCode → String
  | noActivityAndTime => "neither an activity nor a time could be found"
  | noTime => "could not determine a time"
  | noActivity => "could not determine what to remind you of"
  | invalidTimeFormat => "invalid time format"
  | pastTime => "cannot set a reminder in the past"
  | duplicateData => "this reminder already exists"

/-- The code for a token that has no time. -/
def ofResolveError : ResolveError → FailureCode
  | .unrecognized _ => noTime
  | .invalidTime _ _ => invalidTimeFormat
  | .pastTime => pastTime

end FailureCode

end DueTime
