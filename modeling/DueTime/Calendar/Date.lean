/-
DueTime.Calendar.Date — the days of the calendar.

The calendar is the proleptic Gregorian one, with a year 0 before the
year 1. A day is known by its number, counted from 1970-01-01; years,
months and days of the month are a way to write the number. `dayNumber`
and `CivilDate.ofDayNumber` go between the two, for every integer. A
`Date` is a day that lies in the calendar's range, from the first day of
the year -262143 to the last day of the year 262142.

Both conversions count years from March. Then the leap day is the last
day of its year, and the months from March to February begin after
`(153 * k + 2) / 5` days for `k` from 0 to 11.
-/
import DueTime.Calendar.Weekday

namespace DueTime

/-! ## Years, months and days of the month -/

/-- A day written as year, month and day of the month. -/
structure CivilDate where
  year : Int
  month : Nat
  day : Nat
  deriving Repr, DecidableEq, Inhabited

/-- A year with a 29th of February. -/
def isLeapYear (year : Int) : Bool :=
  year % 4 == 0 && (year % 100 != 0 || year % 400 == 0)

/-- The number of days in a month; there is no such month outside 1 to 12. -/
def daysInMonth (year : Int) (month : Nat) : Nat :=
  match month with
  | 2 => if isLeapYear year then 29 else 28
  | 4 | 6 | 9 | 11 => 30
  | 1 | 3 | 5 | 7 | 8 | 10 | 12 => 31
  | _ => 0

namespace CivilDate

/-- The month and the day are ones that the year has. -/
def isValid (c : CivilDate) : Bool :=
  1 ≤ c.day && c.day ≤ daysInMonth c.year c.month

/-- The days from 0000-03-01 to 1970-01-01. -/
def daysToEpoch : Int := 719468

/-- The days from 0000-03-01 to the first of March of a year. -/
def daysBeforeYear (year : Int) : Int :=
  365 * year + year / 4 - year / 100 + year / 400

/-- The days from the first of March to the first of the month that
comes `month` months later. -/
def daysBeforeMonth (month : Nat) : Nat :=
  (153 * month + 2) / 5

/-- The number of the day, counted from 1970-01-01. -/
def dayNumber (c : CivilDate) : Int :=
  let year := if c.month ≤ 2 then c.year - 1 else c.year
  let month := (c.month + 9) % 12
  daysBeforeYear year + daysBeforeMonth month + (c.day - 1 : Int) - daysToEpoch

/-- The year, from March to February, that a day falls in, and how many
days of it came before. The days are counted from 0000-03-01 and cut into
cycles of 400 years, centuries, groups of four years, and years; the last
century of a cycle and the last year of a group may be a day longer. -/
def yearAndDay (days : Int) : Int × Nat :=
  let cycle := days / 146097
  let inCycle := (days % 146097).toNat
  let century := min 3 (inCycle / 36524)
  let inCentury := inCycle - 36524 * century
  let group := inCentury / 1461
  let inGroup := inCentury - 1461 * group
  let year := min 3 (inGroup / 365)
  (400 * cycle + (100 * century + 4 * group + year : Nat), inGroup - 365 * year)

/-- The day with a given number. -/
def ofDayNumber (number : Int) : CivilDate :=
  let (year, dayOfYear) := yearAndDay (number + daysToEpoch)
  let month := (5 * dayOfYear + 2) / 153
  let day := dayOfYear - daysBeforeMonth month + 1
  if month < 10 then ⟨year, month + 3, day⟩ else ⟨year + 1, month - 9, day⟩

/-! ### The number of a day reads back -/

/-- The days of a year and those before it are all the days. -/
theorem daysBeforeYear_yearAndDay (days : Int) :
    daysBeforeYear (yearAndDay days).1 + (yearAndDay days).2 = days := by
  have hsum := Int.mul_ediv_add_emod days 146097
  have hlow := Int.emod_nonneg days (b := 146097) (by decide)
  have hhigh := Int.emod_lt_of_pos days (b := 146097) (by decide)
  simp only [yearAndDay]
  generalize days / 146097 = cycle at *
  obtain ⟨r, hr⟩ := Int.eq_ofNat_of_zero_le hlow
  rw [hr] at hsum hhigh ⊢
  simp only [Int.toNat_natCast]
  obtain ⟨c, hc⟩ : ∃ c, c = min 3 (r / 36524) := ⟨_, rfl⟩
  obtain ⟨a, ha⟩ : ∃ a, a = r - 36524 * c := ⟨_, rfl⟩
  obtain ⟨g, hg⟩ : ∃ g, g = a / 1461 := ⟨_, rfl⟩
  obtain ⟨b, hb⟩ : ∃ b, b = a - 1461 * g := ⟨_, rfl⟩
  obtain ⟨y, hy⟩ : ∃ y, y = min 3 (b / 365) := ⟨_, rfl⟩
  rw [← hc, ← ha, ← hg, ← hb, ← hy]
  have hcentury : c ≤ 3 ∧ r = 36524 * c + a ∧ a ≤ 36524 := by omega
  have hgroup : g ≤ 24 ∧ a = 1461 * g + b ∧ b ≤ 1460 := by omega
  have hyear : y ≤ 3 ∧ 365 * y ≤ b := by omega
  clear hr hc ha hg hb hy
  have h4 : (400 * cycle + (100 * c + 4 * g + y : Nat)) / 4 = 100 * cycle + 25 * c + g := by
    omega
  have h100 : (400 * cycle + (100 * c + 4 * g + y : Nat)) / 100 = 4 * cycle + c := by omega
  have h400 : (400 * cycle + (100 * c + 4 * g + y : Nat)) / 400 = cycle := by omega
  unfold daysBeforeYear
  rw [h4, h100, h400]
  omega

/-- No year has more than 366 days. -/
theorem yearAndDay_day_le (days : Int) : (yearAndDay days).2 ≤ 365 := by
  simp only [yearAndDay]
  omega

/-- Writing a day as year, month and day of the month loses nothing. -/
theorem dayNumber_ofDayNumber (number : Int) : (ofDayNumber number).dayNumber = number := by
  have hsum := daysBeforeYear_yearAndDay (number + daysToEpoch)
  have hday := yearAndDay_day_le (number + daysToEpoch)
  unfold ofDayNumber
  generalize yearAndDay (number + daysToEpoch) = p at *
  obtain ⟨year, day⟩ := p
  simp only at hsum hday ⊢
  split
  · simp only [dayNumber, daysBeforeMonth]
    rw [if_neg (by omega)]
    have hmonth : ((5 * day + 2) / 153 + 3 + 9) % 12 = (5 * day + 2) / 153 := by omega
    rw [hmonth]
    omega
  · simp only [dayNumber, daysBeforeMonth]
    have hmonth : ((5 * day + 2) / 153 - 9 + 9) % 12 = (5 * day + 2) / 153 := by omega
    rw [if_pos (by omega), hmonth, Int.add_sub_cancel]
    omega

end CivilDate

/-- The day of the week of a day; 1970-01-01 was a Thursday. -/
def Weekday.ofDayNumber (number : Int) : Weekday :=
  Weekday.ofIndex ⟨((number + 3) % 7).toNat, by omega⟩

/-! ## The calendar's days -/

/-- The number of the calendar's first day, -262143-01-01. -/
def firstDay : Int := -96465292

/-- The number of the calendar's last day, 262142-12-31. -/
def lastDay : Int := 95026236

theorem dayNumber_first : CivilDate.dayNumber ⟨-262143, 1, 1⟩ = firstDay := by
  decide

theorem dayNumber_last : CivilDate.dayNumber ⟨262142, 12, 31⟩ = lastDay := by
  decide

/-- A day of the calendar. -/
structure Date where
  number : Int
  first_le : firstDay ≤ number
  le_last : number ≤ lastDay
  deriving DecidableEq

namespace Date

/-- The day with a given number, when the calendar has it. -/
def ofNumber? (number : Int) : Option Date :=
  if h : firstDay ≤ number ∧ number ≤ lastDay then some ⟨number, h.1, h.2⟩ else none

/-- The day with a given year, month and day of the month. -/
def ofCivil? (c : CivilDate) : Option Date :=
  if c.isValid then ofNumber? c.dayNumber else none

/-- The day that many days later. -/
def addDays? (d : Date) (days : Nat) : Option Date :=
  ofNumber? (d.number + days)

/-- The day of the week. -/
def weekday (d : Date) : Weekday :=
  Weekday.ofDayNumber d.number

/-- The first day of a name that comes after the day. -/
def next? (d : Date) (w : Weekday) : Option Date :=
  d.addDays? (d.weekday.daysUntil w)

end Date

end DueTime
