/-
DueTime.Calendar.Iso — dates, times and offsets in ISO 8601.

A year has four digits when they suffice for it, and otherwise a sign and
as many digits as it needs, four at least. A leap second is written as
the second 60 of its minute. An offset is written in hours and minutes;
one that has seconds is rounded to the nearest minute, half a minute away
from zero. That rounding touches the written offset alone: the date and
the time before it are exact.
-/
import DueTime.Calendar.TimePoint
import DueTime.Text.Digits

namespace DueTime.Iso

open Text (paddedDigits)

/-- A year. -/
def year (y : Int) : List Char :=
  if 0 ≤ y ∧ y ≤ 9999 then paddedDigits 4 y.toNat
  else (if y < 0 then '-' else '+') :: paddedDigits 4 y.natAbs

/-- A date: year, month and day of the month. -/
def date (c : CivilDate) : List Char :=
  year c.year ++ '-' :: paddedDigits 2 c.month ++ '-' :: paddedDigits 2 c.day

/-- The second of the minute that a clock shows. It is 60 in the leap
second at the end of a minute. -/
def secondShown (l : Reading) : Nat :=
  l.secondOfDay % 60 + (if l.inLeapSecond then 1 else 0)

/-- The nanoseconds since the second that a clock shows began. -/
def nanosShown (l : Reading) : Nat :=
  if l.inLeapSecond then l.nanos - nanosPerSecond else l.nanos

/-- The time of day: hours, minutes and seconds. -/
def time (l : Reading) : List Char :=
  paddedDigits 2 (l.secondOfDay / 3600) ++ ':' ::
    paddedDigits 2 (l.secondOfDay / 60 % 60) ++ ':' :: paddedDigits 2 (secondShown l)

/-- A fraction of a second in 3, 6 or 9 digits, the fewest that are
exact. A whole second has none. -/
def fraction (nanos : Nat) : List Char :=
  if nanos = 0 then []
  else if nanos % 1000000 = 0 then '.' :: paddedDigits 3 (nanos / 1000000)
  else if nanos % 1000 = 0 then '.' :: paddedDigits 6 (nanos / 1000)
  else '.' :: paddedDigits 9 nanos

/-- An offset, to the minute. -/
def offset (seconds : Int) : List Char :=
  let minutes := (seconds.natAbs + 30) / 60
  (if seconds < 0 then '-' else '+') ::
    paddedDigits 2 (minutes / 60) ++ ':' :: paddedDigits 2 (minutes % 60)

/-- What a clock shows, to the second. A fraction is dropped. -/
def reading (l : Reading) : List Char :=
  date (CivilDate.ofDayNumber l.dayNumber) ++ 'T' :: time l

end DueTime.Iso
