/-
DueTime.Resolution.Basic — from patterns and tokens to instants.

`resolve` gives a pattern its instant, seen from a clock. The hours and
minutes are looked at first, whatever the pattern; then a backward offset
is refused; and what is left fails only where the calendar or the zone has
no such instant. A clock in the first or the last hours of the calendar may
show a day that the calendar does not have. Days cannot be counted from
there, and a resolution that is about to breaks off. `resolveToken` asks the
grammar for the pattern first.
-/
import DueTime.Resolution.Aim
import DueTime.Resolution.Error
import DueTime.Token.Classify

namespace DueTime

/-- An instant, and the pattern that pointed at it. -/
structure Resolution where
  time : ZonedTime
  pattern : TimePattern

namespace Resolution

/-- The instant as a reminder carries it. -/
def due (r : Resolution) : String :=
  r.time.due

/-- The name of the kind of pattern. -/
def rule (r : Resolution) : String :=
  r.pattern.name

end Resolution

namespace ZonedTime

/-- The instant that a pattern points at. -/
def resolve (now : ZonedTime) (pattern : TimePattern) : Result ResolveError Resolution :=
  let ⟨hours, minutes⟩ := pattern.time
  match HourMinute.of? hours minutes with
  | none => .error (.invalidTime hours minutes)
  | some time =>
    if pattern.aim = .past then .error .pastTime
    else if pattern.aim.countsDays && now.date?.isNone then .crash
    else
      match now.follow? pattern.aim time with
      | some found => .ok ⟨found, pattern⟩
      | none => .error (.invalidTime hours minutes)

/-- The instant of a pattern that may not have been found. -/
def resolveFound (now : ZonedTime) (token : String) :
    Option TimePattern → Result ResolveError Resolution
  | some pattern => now.resolve pattern
  | none => .error (.unrecognized (Text.trimmed token))

/-- The instant that a token asks for. -/
def resolveToken (now : ZonedTime) (token : String) : Result ResolveError Resolution :=
  now.resolveFound token (Token.classify token)

end ZonedTime

end DueTime
