/-
DueTime.Calendar.Weekday — the days of the week, counted from Monday.

`index` numbers them 0 to 6 and `ofIndex` reads the number back.
`daysUntil` is the distance to the next day of a given name, at least 1
and at most 7: a weekday never means the day one stands on.
-/
namespace DueTime

/-- A day of the week. -/
inductive Weekday
  | monday
  | tuesday
  | wednesday
  | thursday
  | friday
  | saturday
  | sunday
  deriving Repr, DecidableEq, Inhabited

namespace Weekday

/-- The place in the week: Monday is 0 and Sunday is 6. -/
def index : Weekday → Fin 7
  | monday => 0
  | tuesday => 1
  | wednesday => 2
  | thursday => 3
  | friday => 4
  | saturday => 5
  | sunday => 6

/-- The day at a place in the week. -/
def ofIndex : Fin 7 → Weekday
  | 0 => monday
  | 1 => tuesday
  | 2 => wednesday
  | 3 => thursday
  | 4 => friday
  | 5 => saturday
  | 6 => sunday

theorem ofIndex_index (w : Weekday) : ofIndex w.index = w := by
  cases w <;> rfl

theorem index_ofIndex (i : Fin 7) : (ofIndex i).index = i := by
  revert i
  decide

/-- The name cut to three letters. -/
def abbreviation : Weekday → String
  | monday => "Mon"
  | tuesday => "Tue"
  | wednesday => "Wed"
  | thursday => "Thu"
  | friday => "Fri"
  | saturday => "Sat"
  | sunday => "Sun"

/-- The days from a day named `current` to the next one named `target`,
which is never the same day. -/
def daysUntil (current target : Weekday) : Nat :=
  (target.index.val + 6 - current.index.val) % 7 + 1

theorem one_le_daysUntil (current target : Weekday) : 1 ≤ daysUntil current target := by
  simp [daysUntil]

theorem daysUntil_le_seven (current target : Weekday) : daysUntil current target ≤ 7 := by
  unfold daysUntil
  omega

end Weekday

end DueTime
