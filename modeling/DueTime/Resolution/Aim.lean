/-
DueTime.Resolution.Aim — where a pattern points, seen from a clock.

Eleven kinds of patterns point in five ways. An offset backwards points
into the past, where no reminder can be. An offset forwards is time that
elapses: the clock on the wall may move by more or less. All other
patterns name a local day and a time of day, and the reminder shows just
that time unless a gap of the zone swallows it. The day is some number of
days ahead, or the day of the next moment that reads the time, or the next
day of a name, with or without some weeks added.
-/
import DueTime.Result
import DueTime.TimePattern.Basic
import DueTime.ZonedTime

namespace DueTime

/-- A way of pointing at an instant, given hours and minutes. -/
inductive Aim
  /-- The hours and minutes are a length of time back from now. -/
  | past
  /-- The hours and minutes are a length of time on from now. -/
  | elapsed
  /-- The time on the day that many days ahead. -/
  | daysAhead (days : Nat)
  /-- The time today, or tomorrow when today's is not after now. -/
  | nextTime
  /-- The time on the next day of that name, that many weeks later still. -/
  | weekdayAhead (weekday : Weekday) (weeks : Nat)
  deriving Repr, DecidableEq, Inhabited

/-- Where the pattern points. A weekday asked for as a week away is the
next day of that name. -/
def TimePattern.aim : TimePattern → Aim
  | relativeOffset .minus _ => .past
  | relativeOffset .plus _ => .elapsed
  | tomorrow _ => .daysAhead 1
  | dayAfterTomorrow _ => .daysAhead 2
  | inDays days _ => .daysAhead days
  | inOneWeek _ => .daysAhead 7
  | today _ | plainTime _ | plainHour _ => .nextTime
  | onWeekday weekday _ | inOneWeekOnWeekday weekday _ => .weekdayAhead weekday 0
  | inWeeksOnWeekday weeks weekday _ => .weekdayAhead weekday weeks

/-- The aim is at a day, which is found by counting from the clock's. -/
def Aim.countsDays : Aim → Bool
  | past | elapsed => false
  | daysAhead _ | nextTime | weekdayAhead _ _ => true

namespace ZonedTime

/-- The instant that many minutes from now, in the same zone. -/
def afterMinutes? (now : ZonedTime) (minutes : Nat) : Option ZonedTime :=
  (now.instant.addMinutes? minutes).map (⟨now.zone, ·⟩)

/-- The time on a day, in the zone of the clock. -/
def onDate? (now : ZonedTime) (d : Date) (time : HourMinute) : Option ZonedTime :=
  ofReading? now.zone (d.reading time)

/-- The time on the day that many days after the clock's. -/
def daysAhead? (now : ZonedTime) (days : Nat) (time : HourMinute) : Option ZonedTime := do
  let today ← now.date?
  let d ← today.addDays? days
  now.onDate? d time

/-- The time today when that is still to come, else the time tomorrow. -/
def nextTime? (now : ZonedTime) (time : HourMinute) : Option ZonedTime := do
  let today ← now.daysAhead? 0 time
  if now.instant < today.instant then some today else now.daysAhead? 1 time

/-- The time on the next day of a name, which is never today, and then so
many weeks later. -/
def weekdayAhead? (now : ZonedTime) (weekday : Weekday) (weeks : Nat) (time : HourMinute) :
    Option ZonedTime := do
  let today ← now.date?
  let next ← today.next? weekday
  let d ← next.addDays? (7 * weeks)
  now.onDate? d time

/-- The time on the next day of a name, when the hour and the minute make
a time. It is of no use to ask a clock that shows no day of the calendar:
its day is needed first of all. -/
def nextWeekday? (now : ZonedTime) (weekday : Weekday) (hour minute : Nat) :
    Result Unit ZonedTime :=
  if now.date?.isNone then .crash
  else
    match HourMinute.of? hour minute >>= now.weekdayAhead? weekday 0 with
    | some found => .ok found
    | none => .error ()

/-- The instant that an aim leads to. The past leads nowhere. -/
def follow? (now : ZonedTime) : Aim → HourMinute → Option ZonedTime
  | .past, _ => none
  | .elapsed, length => now.afterMinutes? length.minutes
  | .daysAhead days, time => now.daysAhead? days time
  | .nextTime, time => now.nextTime? time
  | .weekdayAhead weekday weeks, time => now.weekdayAhead? weekday weeks time

end ZonedTime

end DueTime
