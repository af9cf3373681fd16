/-
DueTime.TimePattern.Basic — what a reminder token asks for.

A `TimePattern` is the meaning of a token before any clock is looked at:
an offset from now, a time on a day, or a time on a weekday. The numbers
are kept as they were written. Whether `25:00` is a time of day is asked
only when the pattern is resolved.
-/
import DueTime.Calendar.Weekday

namespace DueTime

/-- The direction of an offset from now. -/
inductive Sign
  | plus
  | minus
  deriving Repr, DecidableEq, Inhabited

/-- The character that writes the sign. -/
def Sign.symbol : Sign → Char
  | .plus => '+'
  | .minus => '-'

/-- Hours and minutes as a token writes them, with no bound on either. -/
structure WrittenTime where
  hours : Nat
  minutes : Nat
  deriving Repr, DecidableEq, Inhabited

/-- What a token asks for. -/
inductive TimePattern
  /-- A length of time from now, forwards or backwards. -/
  | relativeOffset (sign : Sign) (length : WrittenTime)
  /-- A time on the next day. -/
  | tomorrow (time : WrittenTime)
  /-- A time two days from now. -/
  | dayAfterTomorrow (time : WrittenTime)
  /-- The next moment, today or tomorrow, that reads the time. -/
  | today (time : WrittenTime)
  /-- A time on the day that many days from now; zero is today. -/
  | inDays (days : Nat) (time : WrittenTime)
  /-- A time on the next day of that name. -/
  | onWeekday (weekday : Weekday) (time : WrittenTime)
  /-- A time seven days from now. -/
  | inOneWeek (time : WrittenTime)
  /-- A time on the next day of that name, asked for as a week away. -/
  | inOneWeekOnWeekday (weekday : Weekday) (time : WrittenTime)
  /-- A time that many weeks after the next day of that name. -/
  | inWeeksOnWeekday (weeks : Nat) (weekday : Weekday) (time : WrittenTime)
  /-- A bare time of day, hours and minutes. -/
  | plainTime (time : WrittenTime)
  /-- A bare hour. -/
  | plainHour (hours : Nat)
  deriving Repr, DecidableEq, Inhabited

namespace TimePattern

/-- The name of the kind, as drafts and answers give it. -/
def name : TimePattern → String
  | relativeOffset .. => "relative-offset"
  | tomorrow .. => "tomorrow"
  | dayAfterTomorrow .. => "day-after-tomorrow"
  | today .. => "today"
  | inDays .. => "in-n-days"
  | onWeekday .. => "weekday"
  | inOneWeek .. => "in-one-week"
  | inOneWeekOnWeekday .. => "in-one-week-on-weekday"
  | inWeeksOnWeekday .. => "in-n-weeks-on-weekday"
  | plainTime .. => "plain-time"
  | plainHour .. => "plain-hour"

/-- The hours and minutes of the pattern: a time of day, or the length of
an offset. A bare hour has no minutes. -/
def time : TimePattern → WrittenTime
  | relativeOffset _ time | tomorrow time | dayAfterTomorrow time | today time
  | inDays _ time | onWeekday _ time | inOneWeek time | inOneWeekOnWeekday _ time
  | inWeeksOnWeekday _ _ time | plainTime time => time
  | plainHour hours => ⟨hours, 0⟩

/-- The weekday that the pattern names, if it names one. -/
def weekday? : TimePattern → Option Weekday
  | onWeekday weekday _ | inOneWeekOnWeekday weekday _ | inWeeksOnWeekday _ weekday _ =>
    some weekday
  | _ => none

end TimePattern

end DueTime
