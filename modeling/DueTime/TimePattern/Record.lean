/-
DueTime.TimePattern.Record — patterns as diagnostics show them.

A pattern is shown as a record: the kind, and in braces the fields with
their names.
-/
import DueTime.TimePattern.Basic

namespace DueTime

/-- A record with the given fields, in their order. -/
def recordText (kind : String) (fields : List (String × String)) : String :=
  kind ++ " \x7b " ++ ", ".intercalate (fields.map fun (name, value) => name ++ ": " ++ value) ++
    " \x7d"

/-- The two fields of a time. -/
def WrittenTime.fields (time : WrittenTime) : List (String × String) :=
  [("hours", toString time.hours), ("minutes", toString time.minutes)]

/-- The name of the sign. -/
def Sign.record : Sign → String
  | plus => "Plus"
  | minus => "Minus"

/-- The pattern as a record. -/
def TimePattern.record : TimePattern → String
  | relativeOffset sign time => recordText "RelativeOffset" (("sign", sign.record) :: time.fields)
  | tomorrow time => recordText "Tomorrow" time.fields
  | dayAfterTomorrow time => recordText "DayAfterTomorrow" time.fields
  | today time => recordText "Today" time.fields
  | inDays days time => recordText "InDays" (("days", toString days) :: time.fields)
  | onWeekday weekday time =>
    recordText "WeekdayName" (("weekday", weekday.abbreviation) :: time.fields)
  | inOneWeek time => recordText "InOneWeek" time.fields
  | inOneWeekOnWeekday weekday time =>
    recordText "InOneWeekOnWeekday" (("weekday", weekday.abbreviation) :: time.fields)
  | inWeeksOnWeekday weeks weekday time =>
    recordText "InNWeeksOnWeekday"
      (("weeks", toString weeks) :: ("weekday", weekday.abbreviation) :: time.fields)
  | plainTime time => recordText "PlainTime" time.fields
  | plainHour hours => recordText "PlainHour" [("hours", toString hours)]

end DueTime
