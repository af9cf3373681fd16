/-
DueTime.Command.Elapsed — lengths of time for people to read.

A length is told in the largest of seconds, milliseconds, microseconds and
nanoseconds of which it has at least one, with the fraction that is left
and no zeros at its end.
-/
import DueTime.Text.Digits

namespace DueTime.Command

/-- A number of units of `perUnit` nanoseconds each, and a fraction of at
most that many digits. -/
def inUnits (nanos perUnit digits : Nat) (unit : String) : String :=
  let fraction :=
    ((Text.paddedDigits digits (nanos % perUnit)).reverse.dropWhile (· == '0')).reverse
  toString (nanos / perUnit) ++
    (if nanos % perUnit = 0 then "" else "." ++ String.ofList fraction) ++ unit

/-- A number of nanoseconds as a length of time. -/
def elapsedText (nanos : Nat) : String :=
  if 1000000000 ≤ nanos then inUnits nanos 1000000000 9 "s"
  else if 1000000 ≤ nanos then inUnits nanos 1000000 6 "ms"
  else if 1000 ≤ nanos then inUnits nanos 1000 3 "µs"
  else toString nanos ++ "ns"

end DueTime.Command
