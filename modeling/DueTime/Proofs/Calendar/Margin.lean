/-
DueTime.Proofs.Calendar.Margin — points that are far from the ends of the
calendar.

A point keeps a margin when the calendar goes on for so many days before
and after it (`TimePoint.HasMargin`). What happens within the margin cannot
leave the calendar, and a day of the years from -262000 to 262000 has a
margin of 50000 days.
-/
import DueTime.Proofs.Calendar.TimePoint

namespace DueTime

/-! ## Margins -/

namespace TimePoint

variable {t u : TimePoint} {days : Int}

theorem HasMargin.inCalendar (h : t.HasMargin days) (hlow : t.seconds - days * 86400 ≤ u.seconds)
    (hhigh : u.seconds ≤ t.seconds + days * 86400) : u.InCalendar := by
  simp only [HasMargin, InCalendar, firstDay, lastDay, secondsPerDay] at *
  omega

theorem HasMargin.of_near (more : Int) (h : t.HasMargin (days + more))
    (hlow : t.seconds - more * 86400 ≤ u.seconds) (hhigh : u.seconds ≤ t.seconds + more * 86400) :
    u.HasMargin days := by
  simp only [HasMargin, firstDay, lastDay, secondsPerDay] at *
  omega

end TimePoint

/-! ## Years -/

namespace CivilDate

theorem daysBeforeYear_mono {y y' : Int} (h : y ≤ y') : daysBeforeYear y ≤ daysBeforeYear y' := by
  unfold daysBeforeYear
  omega

/-- A day comes no earlier than the first of March before its year, and no
later than the end of February after it. -/
theorem daysBeforeYear_year (number : Int) :
    daysBeforeYear ((ofDayNumber number).year - 1) ≤ number + daysToEpoch ∧
      number + daysToEpoch ≤ daysBeforeYear (ofDayNumber number).year + 365 := by
  have hsum := daysBeforeYear_yearAndDay (number + daysToEpoch)
  have hday := yearAndDay_day_le (number + daysToEpoch)
  unfold ofDayNumber
  generalize yearAndDay (number + daysToEpoch) = p at *
  obtain ⟨year, day⟩ := p
  simp only at hsum hday ⊢
  have hbefore := daysBeforeYear_mono (show year - 1 ≤ year by omega)
  have hafter := daysBeforeYear_mono (show year ≤ year + 1 by omega)
  split
  · simp only
    omega
  · simp only [Int.add_sub_cancel]
    omega

/-- The days of the years from -262000 to 262000 are 50000 days away from
the ends of the calendar. -/
theorem number_bounds_of_year {number : Int} (hlow : -262000 ≤ (ofDayNumber number).year)
    (hhigh : (ofDayNumber number).year ≤ 262000) :
    firstDay + 50000 ≤ number ∧ number ≤ lastDay - 50000 := by
  obtain ⟨hbefore, hafter⟩ := daysBeforeYear_year number
  have hfirst := daysBeforeYear_mono (show -262001 ≤ (ofDayNumber number).year - 1 by omega)
  have hlast := daysBeforeYear_mono hhigh
  have hfirst' : daysBeforeYear (-262001) = -95693901 := by decide
  have hlast' : daysBeforeYear 262000 = 95693535 := by decide
  simp only [daysToEpoch, firstDay, lastDay] at *
  omega

end CivilDate

/-- The reading is on a day of those years. -/
def Reading.InYears (l : Reading) (first last : Int) : Prop :=
  first ≤ (CivilDate.ofDayNumber l.dayNumber).year ∧
    (CivilDate.ofDayNumber l.dayNumber).year ≤ last

instance (l : Reading) (first last : Int) : Decidable (l.InYears first last) :=
  inferInstanceAs (Decidable (_ ∧ _))

/-- The readings of the years from -262000 to 262000 keep a margin as
wide. -/
theorem Reading.InYears.hasMargin {l : Reading} (hl : l.InYears (-262000) 262000) :
    l.HasMargin 50000 := by
  have hnumber := CivilDate.number_bounds_of_year hl.1 hl.2
  simp only [Reading.dayNumber, TimePoint.HasMargin, firstDay, lastDay, secondsPerDay] at *
  omega

end DueTime
