/-
DueTime.Proofs.Calendar.Iso — what is written down can be read back.

A date and time with its offset is read as it is written: the year with or
without a sign, the other numbers in two digits, and at the end the offset,
whose sign stands apart because the hours may be zero. `Stamp.read?` is such
a reader; it takes the year and the two-digit numbers as timestamps are
read. `Stamp.read?_written` says that it gets back all that was written, and
`Stamp.seconds` turns that into a second of UTC. A leap second is the only
thing that the second 60 can mean, so one at the end of a minute is not lost
either. One inside a minute is shown as the next second
(`Stamp.ofReading_seconds_of_inside`).
-/
import DueTime.Calendar.Iso
import DueTime.Calendar.Timestamp
import DueTime.Proofs.Text.Blank
import DueTime.Proofs.Token.Reader
import Mathlib.Tactic.IntervalCases

namespace DueTime

/-! ## Digits -/

namespace Text

section
variable {width n : Nat}

theorem paddedDigits_eq_append :
    paddedDigits width n =
      List.replicate (width - (Nat.toDigits 10 n).length) '0' ++ Nat.toDigits 10 n :=
  rfl

@[simp]
theorem decimalValue_paddedDigits : decimalValue (paddedDigits width n) = n := by
  rw [paddedDigits_eq_append, decimalValue, Nat.ofDigitChars_append,
    Nat.ofDigitChars_replicate_zero, Nat.mul_zero, Nat.ofDigitChars_ten_toDigits]

theorem paddedDigits_ne_nil : paddedDigits width n ≠ [] := by
  rw [paddedDigits_eq_append]
  exact List.append_ne_nil_of_right_ne_nil _ Nat.toDigits_ne_nil

theorem isDigit_of_mem_paddedDigits {c : Char} (h : c ∈ paddedDigits width n) : c.isDigit := by
  rw [paddedDigits_eq_append, List.mem_append, List.mem_replicate] at h
  rcases h with ⟨-, rfl⟩ | h
  · rfl
  · exact Nat.isDigit_of_mem_toDigits (Nat.succ_pos 9) (Nat.le_refl 10) h

/-- Digits that suffice are as many as asked for. -/
theorem length_paddedDigits (hwidth : 0 < width) (h : n < 10 ^ width) :
    (paddedDigits width n).length = width := by
  have hle := (Nat.length_toDigits_le_iff (by decide) hwidth).mpr h
  rw [paddedDigits, List.length_leftpad]
  exact Nat.max_eq_left hle

theorem not_isBlank_of_isDigit {c : Char} (h : c.isDigit) : ¬ isBlank c := by
  rw [Char.isDigit_iff_toNat, show '9'.toNat = 57 from rfl, show '0'.toNat = 48 from rfl] at h
  simp only [isBlank, inRanges, blankRanges]
  simp
  omega

end

/-- What begins with a number begins with a digit. -/
theorem isDigit_head_paddedDigits_append {width n : Nat} {rest : List Char} :
    ∀ c ∈ (paddedDigits width n ++ rest).head?, c.isDigit := by
  intro c hc
  rw [List.head?_append, List.head?_eq_some_head paddedDigits_ne_nil, Option.some_or] at hc
  obtain rfl := Option.some.inj hc
  exact isDigit_of_mem_paddedDigits (List.head_mem _)

end Text

open Text (decimalValue dropBlanks expect expect_eq_some_iff paddedDigits)

/-! ## Numbers off the front -/

namespace Timestamp

variable {most width n : Nat} {ds rest : List Char}

/-- A run of digits is taken off whole when the count allows it and either
allows no more or no digit follows. -/
theorem takeNumber_append (hne : ds ≠ []) (hdigit : ∀ c ∈ ds, c.isDigit)
    (hlen : ds.length ≤ most) (hstop : ds.length = most ∨ ∀ c ∈ rest.head?, ¬ c.isDigit) :
    takeNumber most (ds ++ rest) = some (decimalValue ds, rest) := by
  have hrest : (rest.take (most - ds.length)).takeWhile Char.isDigit = [] := by
    rcases hstop with hfull | hstop
    · rw [hfull, Nat.sub_self, List.take_zero, List.takeWhile_nil]
    · cases rest with
      | nil => rw [List.take_nil, List.takeWhile_nil]
      | cons c cs =>
        cases most - ds.length with
        | zero => rfl
        | succ k =>
          rw [List.take_succ_cons]
          exact List.takeWhile_cons_of_neg (hstop c rfl)
  have htaken : ((ds ++ rest).take most).takeWhile Char.isDigit = ds := by
    rw [List.take_append, List.take_of_length_le hlen, List.takeWhile_append_of_pos hdigit, hrest,
      List.append_nil]
  simp only [takeNumber, htaken, List.drop_left]
  rw [if_neg (by simpa using hne)]

/-- A number is taken off whole when no digit follows. -/
theorem takeNumber_paddedDigits (hstop : ∀ c ∈ rest.head?, ¬ c.isDigit) :
    takeNumber (paddedDigits width n ++ rest).length (paddedDigits width n ++ rest) =
      some (n, rest) := by
  rw [takeNumber_append Text.paddedDigits_ne_nil (fun _ => Text.isDigit_of_mem_paddedDigits)
    (by simp) (Or.inr hstop), Text.decimalValue_paddedDigits]

/-- So is one that has as many digits as are allowed. -/
theorem takeNumber_paddedDigits_of_lt (hwidth : 0 < width) (h : n < 10 ^ width) :
    takeNumber width (paddedDigits width n ++ rest) = some (n, rest) := by
  have hlen := Text.length_paddedDigits hwidth h
  rw [takeNumber_append Text.paddedDigits_ne_nil (fun _ => Text.isDigit_of_mem_paddedDigits)
    (Nat.le_of_eq hlen) (Or.inl hlen), Text.decimalValue_paddedDigits]

theorem dropBlanks_paddedDigits_append :
    dropBlanks (paddedDigits width n ++ rest) = paddedDigits width n ++ rest := by
  refine Text.dropBlanks_of_head ?_
  intro c hc
  exact Text.not_isBlank_of_isDigit (Text.isDigit_head_paddedDigits_append c hc)

theorem takeField_paddedDigits (h : n < 100) :
    takeField (paddedDigits 2 n ++ rest) = some (n, rest) := by
  rw [takeField, dropBlanks_paddedDigits_append]
  exact takeNumber_paddedDigits_of_lt Nat.two_pos h

theorem takeYear_minus (cs : List Char) :
    takeYear ('-' :: cs) = (takeNumber cs.length cs).map fun (n, rest) => (-(n : Int), rest) :=
  rfl

theorem takeYear_plus (cs : List Char) :
    takeYear ('+' :: cs) = (takeNumber cs.length cs).map fun (n, rest) => ((n : Int), rest) :=
  rfl

theorem takeYear_of_isDigit {cs : List Char} (h : ∀ c ∈ cs.head?, c.isDigit) :
    takeYear cs = (takeNumber 4 cs).map fun (n, rest) => ((n : Int), rest) := by
  have hblank : dropBlanks cs = cs :=
    Text.dropBlanks_of_head fun c hc => Text.not_isBlank_of_isDigit (h c hc)
  rw [takeYear, hblank]
  split
  · cases h '-' rfl
  · cases h '+' rfl
  · rfl

/-- A year is read back, whether it was written with a sign or without. -/
theorem takeYear_year (y : Int) (hstop : ∀ c ∈ rest.head?, ¬ c.isDigit) :
    takeYear (Iso.year y ++ rest) = some (y, rest) := by
  by_cases hfour : 0 ≤ y ∧ y ≤ 9999
  · obtain ⟨n, rfl⟩ := Int.eq_ofNat_of_zero_le hfour.1
    have hlt : n < 10 ^ 4 := by omega
    rw [Iso.year, if_pos hfour, Int.toNat_natCast,
      takeYear_of_isDigit Text.isDigit_head_paddedDigits_append,
      takeNumber_paddedDigits_of_lt (Nat.succ_pos 3) hlt, Option.map_some]
  · by_cases hneg : y < 0
    · have habs : -(y.natAbs : Int) = y := by omega
      rw [Iso.year, if_neg hfour, if_pos hneg, List.cons_append, takeYear_minus,
        takeNumber_paddedDigits hstop, Option.map_some]
      simp only [habs]
    · have habs : (y.natAbs : Int) = y := by omega
      rw [Iso.year, if_neg hfour, if_neg hneg, List.cons_append, takeYear_plus,
        takeNumber_paddedDigits hstop, Option.map_some]
      simp only [habs]

end Timestamp

/-! ## Dates -/

namespace CivilDate

/-- A year of 366 days, from March on, ends in the February of a leap year. -/
theorem isLeapYear_of_yearAndDay {days : Int} (h : (yearAndDay days).2 = 365) :
    isLeapYear ((yearAndDay days).1 + 1) := by
  have hlow := Int.emod_nonneg days (b := 146097) (by decide)
  have hhigh := Int.emod_lt_of_pos days (b := 146097) (by decide)
  simp only [yearAndDay] at h ⊢
  generalize days / 146097 = cycle at *
  obtain ⟨r, hr⟩ := Int.eq_ofNat_of_zero_le hlow
  rw [hr] at hhigh h ⊢
  simp only [Int.toNat_natCast] at h ⊢
  obtain ⟨c, hc⟩ : ∃ c, c = min 3 (r / 36524) := ⟨_, rfl⟩
  obtain ⟨a, ha⟩ : ∃ a, a = r - 36524 * c := ⟨_, rfl⟩
  obtain ⟨g, hg⟩ : ∃ g, g = a / 1461 := ⟨_, rfl⟩
  obtain ⟨b, hb⟩ : ∃ b, b = a - 1461 * g := ⟨_, rfl⟩
  obtain ⟨y, hy⟩ : ∃ y, y = min 3 (b / 365) := ⟨_, rfl⟩
  rw [← hc, ← ha, ← hg, ← hb, ← hy] at h ⊢
  have hcentury : c ≤ 3 ∧ r = 36524 * c + a ∧ (c < 3 → a < 36524) ∧ a ≤ 36524 := by omega
  -- The last day is the one more that a group or the last century has.
  have hlast : y = 3 ∧ b = 1460 := by omega
  have hgroup : g ≤ 24 ∧ (g = 24 → c = 3) := by omega
  clear hr hc ha hg hb hy
  have h4 : (400 * cycle + ((100 * c + 4 * g + y : Nat) : Int) + 1) % 4 = 0 := by omega
  have h100 : (400 * cycle + ((100 * c + 4 * g + y : Nat) : Int) + 1) % 100 = 0 →
      (400 * cycle + ((100 * c + 4 * g + y : Nat) : Int) + 1) % 400 = 0 := by omega
  simp only [isLeapYear, Bool.and_eq_true, Bool.or_eq_true, beq_iff_eq, bne_iff_ne]
  by_cases hzero : (400 * cycle + ((100 * c + 4 * g + y : Nat) : Int) + 1) % 100 = 0
  · exact ⟨h4, Or.inr (h100 hzero)⟩
  · exact ⟨h4, Or.inl hzero⟩

/-- The day with a number is one that its month has. -/
theorem isValid_ofDayNumber (number : Int) : (ofDayNumber number).isValid := by
  have hday := yearAndDay_day_le (number + daysToEpoch)
  have hleap := @isLeapYear_of_yearAndDay (number + daysToEpoch)
  unfold ofDayNumber daysBeforeMonth
  generalize yearAndDay (number + daysToEpoch) = p at *
  obtain ⟨year, day⟩ := p
  simp only at hday hleap ⊢
  obtain ⟨month, hmonth⟩ : ∃ month, month = (5 * day + 2) / 153 := ⟨_, rfl⟩
  rw [← hmonth]
  have hle : month ≤ 11 := by omega
  have hlow : 153 * month ≤ 5 * day + 2 := by omega
  have hhigh : 5 * day + 2 < 153 * month + 153 := by omega
  clear hmonth
  by_cases hfeb : month = 11
  · subst hfeb
    simp only [isValid, daysInMonth, Nat.reduceLT, if_false, Bool.and_eq_true, decide_eq_true_eq]
    by_cases hlast : day = 365
    · rw [if_pos (hleap hlast)]
      omega
    · split <;> omega
  · have hten : month ≤ 10 := by omega
    clear hle hfeb hleap
    interval_cases month <;> simp [isValid, daysInMonth] <;> omega

/-- A month and a day of the month are written in two digits. -/
theorem lt_of_isValid {c : CivilDate} (h : c.isValid) : c.month < 100 ∧ c.day < 100 := by
  simp only [isValid, Bool.and_eq_true, decide_eq_true_eq] at h
  obtain ⟨hone, hday⟩ := h
  unfold daysInMonth at hday
  split at hday
  · have : (if isLeapYear c.year then 29 else 28) ≤ 29 := by split <;> omega
    omega
  all_goals omega

end CivilDate

/-! ## Dates and times with an offset -/

theorem Reading.secondOfDay_lt (l : Reading) : l.secondOfDay < 86400 := by
  have hlt := Int.emod_lt_of_pos l.seconds (b := secondsPerDay) (by decide)
  unfold secondOfDay
  unfold secondsPerDay at hlt ⊢
  omega

/-- What a written date and time with its offset says. -/
structure Stamp where
  date : CivilDate
  hour : Nat
  minute : Nat
  second : Nat
  /-- The offset in seconds, ahead of UTC. -/
  offset : Int
  deriving Repr, DecidableEq

namespace Stamp

open Timestamp (takeField takeNumber takeYear)

/-- Takes hours, a colon and minutes off the front; gives them in seconds. -/
def takeLength (cs : List Char) : Option (Nat × List Char) := do
  let (hours, rest) ← takeNumber cs.length cs
  let (minutes, rest) ← expect [':'] rest >>= takeNumber 2
  return (3600 * hours + 60 * minutes, rest)

/-- Takes an offset off the front. -/
def takeOffset : List Char → Option (Int × List Char)
  | '-' :: rest => (takeLength rest).map fun (n, rest) => (-(n : Int), rest)
  | '+' :: rest => (takeLength rest).map fun (n, rest) => ((n : Int), rest)
  | _ => none

/-- Reads a date, a time to the second and an offset, and no more. -/
def read? (text : String) : Option Stamp := do
  let (year, rest) ← takeYear text.toList
  let (month, rest) ← expect ['-'] rest >>= takeField
  let (day, rest) ← expect ['-'] rest >>= takeField
  let (hour, rest) ← expect ['T'] rest >>= takeField
  let (minute, rest) ← expect [':'] rest >>= takeField
  let (second, rest) ← expect [':'] rest >>= takeField
  let (offset, rest) ← takeOffset rest
  if rest.isEmpty then some ⟨⟨year, month, day⟩, hour, minute, second, offset⟩ else none

/-- What is written of a reading and an offset. -/
def ofReading (l : Reading) (offset : Int) : Stamp :=
  { date := CivilDate.ofDayNumber l.dayNumber
    hour := l.secondOfDay / 3600
    minute := l.secondOfDay / 60 % 60
    second := Iso.secondShown l
    offset }

/-- The numbers are a date and a time of day, which may be a leap second. -/
def IsValid (s : Stamp) : Prop :=
  s.date.isValid ∧ s.hour < 24 ∧ s.minute < 60 ∧ s.second ≤ 60

/-- The second of UTC that the stamp gives: the local date and time less
the offset. The second 60 is part of the second before it. -/
def seconds (s : Stamp) : Int :=
  s.date.dayNumber * secondsPerDay + (3600 * s.hour + 60 * s.minute + min s.second 59 : Nat) -
    s.offset

/-- The same with the second 60 counted as it stands, as the next second. -/
def secondsCounted (s : Stamp) : Int :=
  s.date.dayNumber * secondsPerDay + (3600 * s.hour + 60 * s.minute + s.second : Nat) - s.offset

/-- The stamp is one of a leap second. -/
def inLeapSecond (s : Stamp) : Bool :=
  s.second == 60

/-! ### What is written is read back -/

section
variable {rest : List Char}

theorem expect_takeField {c : Char} {n : Nat} (h : n < 100) :
    (expect [c] (c :: (paddedDigits 2 n ++ rest))).bind takeField = some (n, rest) := by
  have hmark : expect [c] (c :: (paddedDigits 2 n ++ rest)) = some (paddedDigits 2 n ++ rest) :=
    expect_eq_some_iff.mpr rfl
  rw [hmark]
  exact Timestamp.takeField_paddedDigits h

theorem takeLength_minutes (minutes : Nat) :
    takeLength (paddedDigits 2 (minutes / 60) ++ ':' :: (paddedDigits 2 (minutes % 60) ++ rest)) =
      some (60 * minutes, rest) := by
  have hcolon : ∀ c ∈ (':' :: (paddedDigits 2 (minutes % 60) ++ rest)).head?, ¬ c.isDigit := by
    simp
  have hlt : minutes % 60 < 10 ^ 2 := by omega
  have hmark : expect [':'] (':' :: (paddedDigits 2 (minutes % 60) ++ rest)) =
      some (paddedDigits 2 (minutes % 60) ++ rest) :=
    expect_eq_some_iff.mpr rfl
  have hsum : 3600 * (minutes / 60) + 60 * (minutes % 60) = 60 * minutes := by omega
  simp only [takeLength, Timestamp.takeNumber_paddedDigits hcolon, hmark,
    Timestamp.takeNumber_paddedDigits_of_lt Nat.two_pos hlt, Option.bind_eq_bind,
    Option.bind_some, hsum]
  rfl

/-- An offset in whole minutes is read back. -/
theorem takeOffset_offset {seconds : Int} (h : seconds % 60 = 0) :
    takeOffset (Iso.offset seconds ++ rest) = some (seconds, rest) := by
  -- Nothing is rounded away.
  obtain ⟨minutes, hminutes⟩ : ∃ minutes, minutes = (seconds.natAbs + 30) / 60 := ⟨_, rfl⟩
  have hwhole : 60 * minutes = seconds.natAbs := by omega
  by_cases hneg : seconds < 0
  · have habs : -((60 * minutes : Nat) : Int) = seconds := by omega
    simp only [Iso.offset, ← hminutes, if_pos hneg, List.cons_append, List.append_assoc,
      takeOffset, takeLength_minutes, Option.map_some, habs]
  · have habs : ((60 * minutes : Nat) : Int) = seconds := by omega
    simp only [Iso.offset, ← hminutes, if_neg hneg, List.cons_append, List.append_assoc,
      takeOffset, takeLength_minutes, Option.map_some, habs]

end

theorem isValid_ofReading (l : Reading) (offset : Int) : (ofReading l offset).IsValid := by
  have hday := l.secondOfDay_lt
  refine ⟨CivilDate.isValid_ofDayNumber l.dayNumber, ?_, ?_, ?_⟩
  · show l.secondOfDay / 3600 < 24
    omega
  · show l.secondOfDay / 60 % 60 < 60
    omega
  · show Iso.secondShown l ≤ 60
    unfold Iso.secondShown
    split <;> omega

/-- A date and time is read back with its offset, when that is in whole
minutes. -/
theorem read?_written (l : Reading) {offset : Int} (h : offset % 60 = 0) :
    read? (String.ofList (Iso.reading l ++ Iso.offset offset)) = some (ofReading l offset) := by
  obtain ⟨hdate, hhour, hminute, hsecond⟩ := isValid_ofReading l offset
  obtain ⟨hmonth, hday⟩ : (CivilDate.ofDayNumber l.dayNumber).month < 100 ∧
      (CivilDate.ofDayNumber l.dayNumber).day < 100 :=
    CivilDate.lt_of_isValid hdate
  have hhour : l.secondOfDay / 3600 < 100 := Nat.lt_trans hhour (by decide)
  have hminute : l.secondOfDay / 60 % 60 < 100 := Nat.lt_trans hminute (by decide)
  have hsecond : Iso.secondShown l < 100 := Nat.lt_of_le_of_lt hsecond (by decide)
  have hoffset : takeOffset (Iso.offset offset) = some (offset, []) := by
    have hread : takeOffset (Iso.offset offset ++ []) = some (offset, []) := takeOffset_offset h
    rwa [List.append_nil] at hread
  have hdash (cs : List Char) : ∀ c ∈ ('-' :: cs).head?, ¬ c.isDigit := by
    simp
  simp only [read?, String.toList_ofList, Iso.reading, Iso.date, Iso.time, List.append_assoc,
    List.cons_append, Timestamp.takeYear_year _ (hdash _), Option.bind_eq_bind, Option.bind_some,
    expect_takeField hmonth, expect_takeField hday, expect_takeField hhour,
    expect_takeField hminute, expect_takeField hsecond, hoffset]
  rfl

/-- The fraction of the second is not written. -/
theorem written_congr {l m : Reading} (hseconds : l.seconds = m.seconds)
    (hleap : l.inLeapSecond = m.inLeapSecond) : Iso.reading l = Iso.reading m := by
  simp only [Iso.reading, Iso.time, Iso.secondShown, Reading.dayNumber, Reading.secondOfDay,
    hseconds, hleap]

/-! ### The second of UTC -/

section
variable (l : Reading)

/-- The second shown is the one of the minute, or the next in a leap second. -/
theorem secondShown_eq :
    (Iso.secondShown l : Int) = l.seconds % 60 + if l.inLeapSecond then 1 else 0 := by
  unfold Iso.secondShown Reading.secondOfDay secondsPerDay
  split <;> omega

/-- The stamp gives the minute of the reading less the offset, and the second
shown. -/
theorem ofReading_seconds_eq (offset : Int) :
    (ofReading l offset).seconds =
      l.seconds - l.seconds % 60 + (min (Iso.secondShown l) 59 : Nat) - offset := by
  have hday := l.secondOfDay_lt
  have hsplit : l.dayNumber * 86400 + l.secondOfDay = l.seconds := by
    unfold Reading.dayNumber Reading.secondOfDay secondsPerDay
    omega
  simp only [seconds, ofReading, CivilDate.dayNumber_ofDayNumber, secondsPerDay]
  omega

end

section
variable {l : Reading} (hleap : l.inLeapSecond → l.seconds % 60 = 59)
include hleap

/-- A leap second at the end of a minute is shown as the second 60, and
nothing else is. -/
theorem ofReading_inLeapSecond (offset : Int) :
    (ofReading l offset).inLeapSecond = l.inLeapSecond := by
  have hshown := secondShown_eq l
  rw [Bool.eq_iff_iff]
  simp only [inLeapSecond, ofReading, beq_iff_eq]
  split at hshown
  · rename_i h
    have hend := hleap h
    exact iff_of_true (by omega) h
  · rename_i h
    exact iff_of_false (by omega) h

/-- The stamp gives the second of the reading less the offset. -/
theorem ofReading_seconds (offset : Int) :
    (ofReading l offset).seconds = l.seconds - offset := by
  have hshown := secondShown_eq l
  rw [ofReading_seconds_eq]
  split at hshown
  · have hend := hleap ‹_›
    omega
  · omega

end

/-- A leap second inside a minute is shown as the next second, and the stamp
gives that one. -/
theorem ofReading_seconds_of_inside {l : Reading} (hleap : l.inLeapSecond)
    (hinside : l.seconds % 60 ≠ 59) (offset : Int) :
    (ofReading l offset).seconds = l.seconds + 1 - offset := by
  have hshown := secondShown_eq l
  rw [if_pos hleap] at hshown
  rw [ofReading_seconds_eq]
  omega

end Stamp

end DueTime
