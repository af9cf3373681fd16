/-
DueTime.Token.Reader — the pieces that the rules of the grammar are made
of.

Each reader takes a piece off the front of the characters and gives what
is left, or gives nothing. `number` takes the whole run of digits that
stands in front and refuses it when it is too long, so a rule never reads
half a number. `time` and `weekdayTime` read to the end of the token.
-/
import DueTime.Text.Digits
import DueTime.Text.Expect
import DueTime.TimePattern.Basic

namespace DueTime.Token

open Text (decimalValue expect)

/-- Takes a number of one to `most` digits off the front; no digit may
follow it. -/
def number (most : Nat) (cs : List Char) : Option (Nat × List Char) :=
  let digits := cs.takeWhile Char.isDigit
  if digits.isEmpty || most < digits.length then none
  else some (decimalValue digits, cs.dropWhile Char.isDigit)

/-- Hours, a colon and minutes, each of one or two digits, and no more. -/
def fullTime (cs : List Char) : Option WrittenTime := do
  let (hours, rest) ← number 2 cs
  let rest ← expect [':'] rest
  let (minutes, rest) ← number 2 rest
  if rest.isEmpty then some ⟨hours, minutes⟩ else none

/-- An hour of one or two digits, and no more. -/
def bareHour (cs : List Char) : Option Nat := do
  let (hours, rest) ← number 2 cs
  if rest.isEmpty then some hours else none

/-- A time with or without its minutes, which are zero when left out. -/
def time (cs : List Char) : Option WrittenTime :=
  match bareHour cs with
  | some hours => some ⟨hours, 0⟩
  | none => fullTime cs

/-- The names and short names of the weekdays. -/
def weekdayNames : List (String × Weekday) :=
  [("monday", .monday), ("mon", .monday),
   ("tuesday", .tuesday), ("tues", .tuesday), ("tue", .tuesday),
   ("wednesday", .wednesday), ("wed", .wednesday),
   ("thursday", .thursday), ("thurs", .thursday), ("thur", .thursday), ("thu", .thursday),
   ("friday", .friday), ("fri", .friday),
   ("saturday", .saturday), ("sat", .saturday),
   ("sunday", .sunday), ("sun", .sunday)]

/-- The day that a name stands for. -/
def weekdayNamed? (name : List Char) : Option Weekday :=
  (weekdayNames.find? (·.1.toList == name)).map (·.2)

/-- The name of a weekday, one space and a time. -/
def weekdayTime (cs : List Char) : Option (Weekday × WrittenTime) := do
  let weekday ← weekdayNamed? (cs.takeWhile (· != ' '))
  let rest ← expect [' '] (cs.dropWhile (· != ' '))
  let time ← time rest
  return (weekday, time)

end DueTime.Token
