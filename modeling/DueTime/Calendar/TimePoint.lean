/-
DueTime.Calendar.TimePoint — points on a time line, and leap seconds.

A point is a number of seconds since 1970-01-01T00:00:00 and a number of
nanoseconds. From 10^9 nanoseconds on, the point lies in the leap second
that follows the second of that number: it comes after all the rest of
the second and before the next one, so points are ordered by seconds and
then by nanoseconds.

Two kinds of points are kept apart. A `Reading` is what a wall clock
shows in some zone. An `Instant` is a moment, the reading of a clock that
shows UTC, and must lie on a day of the calendar.
-/
import DueTime.Calendar.Date
import DueTime.Calendar.HourMinute

namespace DueTime

/-- The seconds of a day. -/
def secondsPerDay : Int := 86400

/-- The nanoseconds of a second. -/
def nanosPerSecond : Nat := 1000000000

theorem zero_nanos_lt : 0 < 2 * nanosPerSecond := by
  decide

theorem leap_nanos_lt : nanosPerSecond < 2 * nanosPerSecond := by
  decide

/-- A point on a time line. -/
structure TimePoint where
  seconds : Int
  nanos : Nat
  nanos_lt : nanos < 2 * nanosPerSecond
  deriving DecidableEq

namespace TimePoint

/-- The point lies in a leap second. -/
def inLeapSecond (t : TimePoint) : Bool :=
  nanosPerSecond ≤ t.nanos

/-- The point lies on a day of the calendar. -/
def InCalendar (t : TimePoint) : Prop :=
  firstDay * secondsPerDay ≤ t.seconds ∧ t.seconds < (lastDay + 1) * secondsPerDay

instance (t : TimePoint) : Decidable t.InCalendar :=
  inferInstanceAs (Decidable (_ ∧ _))

/-- The calendar has so many days more before the point, and after it. -/
def HasMargin (t : TimePoint) (days : Int) : Prop :=
  (firstDay + days) * secondsPerDay ≤ t.seconds ∧
    t.seconds < (lastDay + 1 - days) * secondsPerDay

instance (t : TimePoint) (days : Int) : Decidable (t.HasMargin days) :=
  inferInstanceAs (Decidable (_ ∧ _))

/-- The order of points in time. -/
instance : LT TimePoint :=
  ⟨fun a b => a.seconds < b.seconds ∨ a.seconds = b.seconds ∧ a.nanos < b.nanos⟩

instance : LE TimePoint :=
  ⟨fun a b => a.seconds < b.seconds ∨ a.seconds = b.seconds ∧ a.nanos ≤ b.nanos⟩

instance (a b : TimePoint) : Decidable (a < b) :=
  inferInstanceAs (Decidable (_ ∨ _))

instance (a b : TimePoint) : Decidable (a ≤ b) :=
  inferInstanceAs (Decidable (_ ∨ _))

/-- The same point under another count of seconds, as another clock shows
it. A leap second stays one. -/
def relabel (t : TimePoint) (seconds : Int) : TimePoint :=
  { t with seconds := t.seconds + seconds }

/-- The point so many seconds later, or earlier when the number is
negative. Going on from a leap second leaves it: the leap second counts
as the end of its second on the way forwards and as the start of the next
one on the way back. Going nowhere stays in it. -/
def shift (t : TimePoint) (seconds : Int) : TimePoint :=
  if t.nanos < nanosPerSecond ∨ seconds = 0 then t.relabel seconds
  else
    { seconds := t.seconds + seconds + (if seconds < 0 then 1 else 0)
      nanos := t.nanos - nanosPerSecond
      nanos_lt := by have := t.nanos_lt; omega }

end TimePoint

/-! ## Readings -/

/-- What a wall clock shows: a date and a time. -/
structure Reading extends TimePoint
  deriving DecidableEq

namespace Reading

/-- The number of the day shown. -/
def dayNumber (l : Reading) : Int :=
  l.seconds / secondsPerDay

/-- The day shown, when it is one of the calendar. -/
def date? (l : Reading) : Option Date :=
  Date.ofNumber? l.dayNumber

/-- The seconds since midnight, leap seconds aside. -/
def secondOfDay (l : Reading) : Nat :=
  (l.seconds % secondsPerDay).toNat

end Reading

/-- The reading on a day at a time, at the very start of the minute. -/
def Date.reading (d : Date) (t : HourMinute) : Reading :=
  { seconds := d.number * secondsPerDay + 60 * t.minutes
    nanos := 0
    nanos_lt := zero_nanos_lt }

/-! ## Instants -/

/-- A moment on a day of the calendar, told in UTC. -/
structure Instant extends TimePoint where
  inCalendar : toTimePoint.InCalendar
  deriving DecidableEq

namespace Instant

instance : LT Instant := ⟨fun a b => a.toTimePoint < b.toTimePoint⟩

instance : LE Instant := ⟨fun a b => a.toTimePoint ≤ b.toTimePoint⟩

instance (a b : Instant) : Decidable (a < b) :=
  inferInstanceAs (Decidable (a.toTimePoint < b.toTimePoint))

instance (a b : Instant) : Decidable (a ≤ b) :=
  inferInstanceAs (Decidable (a.toTimePoint ≤ b.toTimePoint))

/-- The instant at a point of UTC's time line. -/
def ofTimePoint? (t : TimePoint) : Option Instant :=
  if h : t.InCalendar then some ⟨t, h⟩ else none

/-- The instant so many minutes later. -/
def addMinutes? (i : Instant) (minutes : Nat) : Option Instant :=
  ofTimePoint? (i.shift (60 * minutes))

end Instant

end DueTime
