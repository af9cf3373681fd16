/-
DueTime.ZonedTime — an instant as it is seen in a zone.

The clock that tokens are resolved against is one, and so is every
reminder. It has three written forms: `due` is to the second and is what
a reminder carries, `exact` keeps the fraction of the second, and `utc` is
the exact form of the same instant in UTC.
-/
import DueTime.Calendar.Iso
import DueTime.Zone.Localize

namespace DueTime

/-- An instant and the zone it is told in. -/
structure ZonedTime where
  zone : Zone
  instant : Instant

namespace ZonedTime

/-- The first instant at which a clock in the zone shows a reading, or
its stand-in when the reading falls into a gap. -/
def ofReading? (zone : Zone) (l : Reading) : Option ZonedTime :=
  (zone.localize? l).map (⟨zone, ·⟩)

/-- What a clock in the zone shows. -/
def reading (t : ZonedTime) : Reading :=
  t.zone.reading t.instant

/-- The seconds by which that clock is ahead of UTC. -/
def offset (t : ZonedTime) : Int :=
  t.zone.offsetAt t.instant.seconds

/-- The day that it shows. At the two ends of the calendar that may be a day
which the calendar does not have; then there is nothing to count days
from. -/
def date? (t : ZonedTime) : Option Date :=
  t.reading.date?

/-! ## Written forms -/

/-- To the second, with the offset. -/
def due (t : ZonedTime) : String :=
  String.ofList (Iso.reading t.reading ++ Iso.offset t.offset)

/-- With the fraction of the second, and the offset. -/
def exact (t : ZonedTime) : String :=
  String.ofList
    (Iso.reading t.reading ++ Iso.fraction (Iso.nanosShown t.reading) ++ Iso.offset t.offset)

/-- The exact form in UTC. -/
def utc (t : ZonedTime) : String :=
  exact ⟨Zone.utc, t.instant⟩

end ZonedTime

end DueTime
