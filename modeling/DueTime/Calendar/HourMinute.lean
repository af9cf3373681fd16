/-
DueTime.Calendar.HourMinute — times of day, to the minute.
-/
namespace DueTime

/-- An hour of the day and a minute of the hour. -/
structure HourMinute where
  hour : Nat
  minute : Nat
  hour_lt : hour < 24
  minute_lt : minute < 60
  deriving DecidableEq

namespace HourMinute

/-- The time with the given hour and minute, when there is one. -/
def of? (hour minute : Nat) : Option HourMinute :=
  if h : hour < 24 ∧ minute < 60 then some ⟨hour, minute, h.1, h.2⟩ else none

/-- The minutes since midnight; of an offset, its length in minutes. -/
def minutes (t : HourMinute) : Nat :=
  60 * t.hour + t.minute

theorem minutes_lt (t : HourMinute) : t.minutes < 1440 := by
  have := t.hour_lt
  have := t.minute_lt
  unfold minutes
  omega

end HourMinute

end DueTime
