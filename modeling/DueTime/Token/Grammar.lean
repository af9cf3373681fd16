/-
DueTime.Token.Grammar — the eleven rules that give tokens a meaning.

A rule reads a whole normalized token or refuses it. No token is read by
two rules, so the order of the table shows only in a trace. The features
that a rule needs are those that each token it reads has.
-/
import DueTime.Token.Feature
import DueTime.Token.Reader

namespace DueTime.Token

open Text (expect)

/-- A rule of the grammar. -/
structure Rule where
  /-- The form of the tokens, for people to read. -/
  name : String
  /-- What a token must have before the rule is tried. -/
  needs : List Feature
  /-- The meaning of a normalized token, when the token has the form. -/
  read : List Char → Option TimePattern

namespace Rule

/-! ## Reading each form -/

/-- A sign, hours, a colon and minutes. -/
def readOffset : List Char → Option TimePattern
  | '+' :: rest => (fullTime rest).map (.relativeOffset .plus)
  | '-' :: rest => (fullTime rest).map (.relativeOffset .minus)
  | _ => none

/-- A fixed text and a time. -/
def readAfter (text : String) (pattern : WrittenTime → TimePattern) (cs : List Char) :
    Option TimePattern := do
  let rest ← expect text.toList cs
  (time rest).map pattern

/-- The three ways to say the day after tomorrow, and a time. -/
def readDayAfterTomorrow (cs : List Char) : Option TimePattern :=
  ["day-after-tomorrow ", "day after tomorrow ", "overmorrow "].findSome?
    (readAfter · .dayAfterTomorrow cs)

/-- A count of days of at most four digits, and a time. `day` and `days`
are both read, whatever the count. -/
def readInDays (cs : List Char) : Option TimePattern := do
  let rest ← expect "in-".toList cs
  let (days, rest) ← number 4 rest
  ["-days ", "-day "].findSome? (readAfter · (.inDays days) rest)

/-- A weekday and a time. -/
def readWeekday (cs : List Char) : Option TimePattern :=
  (weekdayTime cs).map fun (weekday, time) => .onWeekday weekday time

/-- One week, a weekday and a time. -/
def readInOneWeekOnWeekday (cs : List Char) : Option TimePattern := do
  let rest ← expect "in-one-week ".toList cs
  (weekdayTime rest).map fun (weekday, time) => .inOneWeekOnWeekday weekday time

/-- A count of weeks of at most three digits, a weekday and a time. -/
def readInWeeksOnWeekday (cs : List Char) : Option TimePattern := do
  let rest ← expect "in-".toList cs
  let (weeks, rest) ← number 3 rest
  let rest ← expect "-weeks ".toList rest
  (weekdayTime rest).map fun (weekday, time) => .inWeeksOnWeekday weeks weekday time

/-! ## The table -/

/-- The rules, in the order in which they are tried. -/
def table : List Rule :=
  [⟨"<sign><hh>:<mm>", [.signed, .hasColon, .hasDigits], readOffset⟩,
   ⟨"tomorrow <time>", [.hasWord, .hasDigits], readAfter "tomorrow " .tomorrow⟩,
   ⟨"day after tomorrow <time>", [.hasWord, .hasDigits], readDayAfterTomorrow⟩,
   ⟨"today <time>", [.hasWord, .hasDigits], readAfter "today " .today⟩,
   ⟨"in <n> days <time>", [.hasWord, .hasDigits], readInDays⟩,
   ⟨"<weekday> <time>", [.weekdayish, .hasDigits], readWeekday⟩,
   ⟨"in one week <time>", [.hasWord, .hasDigits], readAfter "in-one-week " .inOneWeek⟩,
   ⟨"in one week <weekday> <time>", [.weekdayish, .hasDigits], readInOneWeekOnWeekday⟩,
   ⟨"in <n> weeks <weekday> <time>", [.weekdayish, .hasDigits], readInWeeksOnWeekday⟩,
   ⟨"<hh>:<mm>", [.hasColon, .hasDigits], fun cs => (fullTime cs).map .plainTime⟩,
   ⟨"<hh>", [.hasDigits], fun cs => (bareHour cs).map .plainHour⟩]

end Rule

end DueTime.Token
