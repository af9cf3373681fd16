/-
DueTime.Zone.Change — how the changes of a zone's offset are written down.

A change happens once, at a given second, or in each of a run of years,
on the first day of some name on or after a given day of the year. The
day may then fall in the month after. All times are UTC.
-/
import DueTime.Zone.Basic

namespace DueTime

/-- A time of day of UTC, to the second. -/
structure UtcTime where
  hour : Nat
  minute : Nat
  second : Nat
  deriving Repr, DecidableEq, Inhabited

/-- The seconds since midnight. -/
def UtcTime.seconds (t : UtcTime) : Int :=
  3600 * t.hour + 60 * t.minute + t.second

/-- One or more changes of a zone's offset. -/
inductive Change
  /-- A change on one day. -/
  | once (day : CivilDate) (time : UtcTime) (offset : Int)
  /-- A change in each year from `first` to `last`, on the first such
  weekday that is not before the given day. -/
  | yearly (first last : Nat) (weekday : Weekday) (month day : Nat) (time : UtcTime) (offset : Int)
  deriving Repr, DecidableEq

namespace Change

/-- The first day of a name that does not come before a day. -/
def firstOnOrAfter (weekday : Weekday) (number : Int) : Int :=
  number + (weekday.index.val - (Weekday.ofDayNumber number).index.val : Int) % 7

/-- The transitions that the changes amount to. -/
def transitions : Change → List Transition
  | once day time offset => [⟨day.dayNumber * secondsPerDay + time.seconds, offset⟩]
  | yearly first last weekday month day time offset =>
    (List.range (last + 1 - first)).map fun k =>
      let earliest := CivilDate.dayNumber ⟨(first + k : Nat), month, day⟩
      ⟨firstOnOrAfter weekday earliest * secondsPerDay + time.seconds, offset⟩

end Change

namespace Zone

/-- The zone whose offset is first `initial` and then changes as listed. -/
def ofChanges (name : String) (initial : Int) (changes : List Change) : Zone :=
  .ofTransitions name initial (changes.flatMap Change.transitions)

theorem ordinary_ofChanges {name : String} {initial : Int} {changes : List Change}
    (hinitial : initial.natAbs < 86400)
    (h : ∀ c ∈ changes, ∀ t ∈ c.transitions, t.offset.natAbs < 86400 ∧
      yearStart 0 ≤ t.start ∧ t.start < yearStart 10000) :
    (ofChanges name initial changes).Ordinary := by
  refine ordinary_ofTransitions name hinitial fun t ht => ?_
  obtain ⟨c, hc, ht⟩ := List.mem_flatMap.mp ht
  obtain ⟨hoffset, hlow, hhigh⟩ := h c hc t ht
  exact ⟨hoffset, hlow, hhigh⟩

end Zone

end DueTime
