/-
DueTime.Zone.Localize — from the reading of a wall clock to an instant.

An offset is in force over a span of UTC, and so over a span of the
readings that it gives rise to. Where a clock is put back, two spans
overlap and a reading is had twice; where it is put forward, there is a
gap of readings that are never had. `localize?` takes the first of the
instants that give a reading, and moves a reading out of a gap by the
length of the gap: it stays under the offset that was in force before.

That offset is found by looking six hours back. A reading further than
that into a gap has no instant.
-/
import DueTime.Zone.Basic

namespace DueTime

namespace Zone

/-- The offset of the first span that holds a local second. `from?` is
where the span of `current` begins, if it begins anywhere. -/
def spanOffset? (from? : Option Int) (current : Int) :
    List Transition → Int → Option Int
  | [], second => if from?.all (· + current ≤ second) then some current else none
  | t :: ts, second =>
    if from?.all (· + current ≤ second) ∧ second < t.start + current then some current
    else spanOffset? (some t.start) t.offset ts second

/-- The offset under which a local second is had for the first time. -/
def offsetOfLocal? (z : Zone) (second : Int) : Option Int :=
  spanOffset? none z.initial z.transitions second

/-- The instant that gives a reading for the first time. -/
def firstInstant? (z : Zone) (l : Reading) : Option Instant := do
  let offset ← z.offsetOfLocal? l.seconds
  Instant.ofTimePoint? (l.relabel (-offset))

/-- How far back the offset before a gap is looked for, in seconds. -/
def lookBack : Int := 6 * 3600

/-- The instant of a reading under the offset that was in force six hours
earlier. -/
def instantPastGap? (z : Zone) (l : Reading) : Option Instant := do
  let before : Reading := ⟨l.shift (-lookBack)⟩
  if before.InCalendar then
    let i ← z.firstInstant? before
    let offset := before.seconds - i.seconds
    Instant.ofTimePoint? (l.shift (-offset))
  else none

/-- The instant of a reading: the first that gives it, or, in a gap, the
one that is as far past the gap's start as the reading is. -/
def localize? (z : Zone) (l : Reading) : Option Instant :=
  z.firstInstant? l <|> z.instantPastGap? l

end Zone

end DueTime
