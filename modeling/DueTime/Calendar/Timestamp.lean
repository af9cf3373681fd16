/-
DueTime.Calendar.Timestamp — readings written as timestamps.

A timestamp is a date and a time of day, `2024-06-10T13:30:00`. The marks
between the numbers are fixed and nothing may follow the last number, but
blanks may stand in front of each. The year has a sign and any number of
digits, or no sign and four digits at most. The other numbers have one or
two digits. The second 60 is a leap second, in whatever minute it stands.
-/
import DueTime.Calendar.TimePoint
import DueTime.Text.Blank
import DueTime.Text.Digits
import DueTime.Text.Expect

namespace DueTime.Timestamp

open Text (decimalValue dropBlanks expect)

/-! ## Numbers -/

/-- Takes a number off the front, of one digit at least; digits beyond the
given count stay. -/
def takeNumber (most : Nat) (cs : List Char) : Option (Nat × List Char) :=
  let digits := (cs.take most).takeWhile Char.isDigit
  if digits.isEmpty then none else some (decimalValue digits, cs.drop digits.length)

/-- Takes a number of at most two digits off the front, behind blanks. -/
def takeField (cs : List Char) : Option (Nat × List Char) :=
  takeNumber 2 (dropBlanks cs)

/-- Takes a year off the front, behind blanks. -/
def takeYear (cs : List Char) : Option (Int × List Char) :=
  match dropBlanks cs with
  | '-' :: rest => (takeNumber rest.length rest).map fun (n, rest) => (-(n : Int), rest)
  | '+' :: rest => (takeNumber rest.length rest).map fun (n, rest) => ((n : Int), rest)
  | rest => (takeNumber 4 rest).map fun (n, rest) => ((n : Int), rest)

/-! ## Readings -/

/-- The reading on a day at a time, to the second. -/
def readingAt? (d : Date) (time : HourMinute) (second : Nat) : Option Reading :=
  let minute := d.reading time
  if second < 60 then
    some { seconds := minute.seconds + second, nanos := 0, nanos_lt := zero_nanos_lt }
  else if second = 60 then
    some { seconds := minute.seconds + 59, nanos := nanosPerSecond, nanos_lt := leap_nanos_lt }
  else none

/-- The reading that a timestamp gives. -/
def read? (text : String) : Option Reading := do
  let (year, rest) ← takeYear text.toList
  let (month, rest) ← expect ['-'] rest >>= takeField
  let (day, rest) ← expect ['-'] rest >>= takeField
  let (hour, rest) ← expect ['T'] rest >>= takeField
  let (minute, rest) ← expect [':'] rest >>= takeField
  let (second, rest) ← expect [':'] rest >>= takeField
  if rest.isEmpty then
    let d ← Date.ofCivil? ⟨year, month, day⟩
    let time ← HourMinute.of? hour minute
    readingAt? d time second
  else none

end DueTime.Timestamp
