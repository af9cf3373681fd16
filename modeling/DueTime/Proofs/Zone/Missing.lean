/-
DueTime.Proofs.Zone.Missing — readings that `localize?` has no instant for.

A reading is missing in a zone when no clock there ever shows it, and none
ever shows the reading of six hours earlier, by which a gap is left. Far
from the ends of the calendar these are exactly the readings that have no
instant (`localize?_eq_none_iff`), in every zone whose offsets stay below a
day. In a regular zone they are those that stand six hours or more into a
gap (`Regular.misses_iff`). So no hour of daylight saving time is missing;
but a zone that crosses the date line leaves out a day, and all but the
first six hours of that day are. The table has three such days
(`skippedDays`), and no other reading is missing in any of its zones
(`misses_iff_of_named?`).
-/
import DueTime.Proofs.Calendar.Margin
import DueTime.Proofs.Zone.Known

namespace DueTime

namespace Zone

/-! ## Readings without an instant -/

/-- No clock in the zone shows the reading, nor the reading of six hours
earlier. -/
structure Misses (z : Zone) (l : Reading) : Prop where
  never : ∀ u, z.localSecond u ≠ l.seconds
  neverBefore : ∀ u, z.localSecond u ≠ (l.shift (-lookBack)).seconds

/-- No offset of the zone reaches a day. -/
def WithinDay (z : Zone) : Prop :=
  ∀ u, (z.offsetAt u).natAbs < 86400

namespace WithinDay

variable {z : Zone} {l : Reading}

/-- Far from the ends of the calendar, what a clock shows has an instant. -/
theorem firstInstant?_eq_none_iff (hz : z.WithinDay) (hl : l.HasMargin 2) :
    z.firstInstant? l = none ↔ ∀ u, z.localSecond u ≠ l.seconds := by
  rw [Zone.firstInstant?_eq_none_iff]
  constructor
  · intro hnone u hu
    obtain ⟨first, hfirst⟩ := exists_isLeast_localSecond hu
    have hoffset := hz first
    have hshown : z.localSecond first = l.seconds := hfirst.1
    rw [localSecond] at hshown
    obtain ⟨i, hi, -⟩ := exists_firstShows_of_isLeast hfirst
      (hl.inCalendar (by rw [TimePoint.relabel_seconds]; omega)
        (by rw [TimePoint.relabel_seconds]; omega))
    exact hnone i hi
  · intro hnone i hi
    exact hnone _ (reading_eq_iff.mp hi.reading_eq).1

theorem instantPastGap?_eq_none_iff (hz : z.WithinDay) (hl : l.HasMargin 4) :
    z.instantPastGap? l = none ↔ ∀ u, z.localSecond u ≠ (l.shift (-lookBack)).seconds := by
  have hback := TimePoint.shift_seconds_bounds l.toTimePoint (-lookBack)
  have hlook : lookBack = 21600 := rfl
  have hmargin : (l.shift (-lookBack)).HasMargin 2 :=
    TimePoint.HasMargin.of_near 2 hl (by omega) (by omega)
  have hcal : (l.shift (-lookBack)).InCalendar := hmargin.inCalendar (by omega) (by omega)
  rw [← hz.firstInstant?_eq_none_iff (l := ⟨l.shift (-lookBack)⟩) hmargin, instantPastGap?]
  simp only [if_pos hcal]
  cases hfound : z.firstInstant? ⟨l.shift (-lookBack)⟩ with
  | none => exact iff_of_true rfl rfl
  | some i =>
    refine iff_of_false ?_ (Option.some_ne_none i)
    -- The offset that was in force then is less than a day.
    have hshown : z.localSecond i.seconds = (l.shift (-lookBack)).seconds :=
      (reading_eq_iff.mp (firstInstant?_eq_some_iff.mp hfound).reading_eq).1
    have hoffset := hz i.seconds
    rw [localSecond] at hshown
    have hshift := TimePoint.shift_seconds_bounds l.toTimePoint
      (-((l.shift (-lookBack)).seconds - i.seconds))
    have hin : (l.shift (-((l.shift (-lookBack)).seconds - i.seconds))).InCalendar :=
      hl.inCalendar (by omega) (by omega)
    show Instant.ofTimePoint? _ ≠ none
    rw [Instant.ofTimePoint?, dif_pos hin]
    exact Option.some_ne_none _

/-- Far from the ends of the calendar, a reading has no instant exactly if
it is missing. -/
theorem localize?_eq_none_iff (hz : z.WithinDay) (hl : l.HasMargin 4) :
    z.localize? l = none ↔ z.Misses l := by
  have hmargin : l.HasMargin 2 := TimePoint.HasMargin.of_near 2 hl (by omega) (by omega)
  rw [localize?, Option.orElse_eq_none, hz.firstInstant?_eq_none_iff hmargin,
    hz.instantPastGap?_eq_none_iff hl]
  exact ⟨fun h => ⟨h.1, h.2⟩, fun h => ⟨h.never, h.neverBefore⟩⟩

end WithinDay

/-! ## Regular zones -/

namespace Regular

variable {z : Zone} {c : Turn} {l : Reading}

theorem withinDay (hz : z.Regular) : z.WithinDay := fun u => by
  have := hz.offsetAt_lt u
  omega

/-- Before a turn clocks show what they show under the offset that it
ends. -/
theorem localSecond_before (hz : z.Regular) (hc : c ∈ z.turns) {s : Int}
    (hlow : c.start + c.before - 48 * 3600 ≤ s) (hhigh : s < c.start + c.before) :
    z.localSecond (s - c.before) = s := by
  have hnear := hz.offsetAt_near hc (u := s - c.before) (by omega) (by omega)
  rw [if_pos (by omega)] at hnear
  rw [localSecond, hnear]
  omega

/-- A reading is missing when it stands six hours or more into a gap; a
leap second stands there at its end. -/
theorem misses_iff (hz : z.Regular) :
    z.Misses l ↔ ∃ c ∈ z.turns, c.Skips l.seconds ∧
      c.start + c.before + 6 * 3600 ≤ l.seconds + if l.inLeapSecond then 1 else 0 := by
  have hback := TimePoint.shift_seconds l.toTimePoint (-lookBack)
  have hlook : lookBack = 21600 := rfl
  simp only [show -lookBack < 0 by decide, and_true] at hback
  constructor
  · rintro ⟨hnever, hnever'⟩
    obtain ⟨c, hc, hskips⟩ := exists_skips_of_not_shown hnever
    refine ⟨c, hc, hskips, Int.not_lt.mp fun hshallow => ?_⟩
    have hlow := hskips.1
    exact hnever' _ (hz.localSecond_before hc (by split at hback <;> omega) (by omega))
  · rintro ⟨c, hc, hskips, hdeep⟩
    have hhigh := hskips.2
    refine ⟨hz.not_shown_of_skips hc hskips, hz.not_shown_of_skips hc ⟨by omega, ?_⟩⟩
    split at hback <;> omega

end Regular

/-! ## The zones of the table -/

/-- In the zones of the table all that is missing is the rest of the
skipped days, from their seventh hour on. -/
theorem misses_iff_of_named? {name : String} {z : Zone} (h : named? name = some z) {l : Reading} :
    z.Misses l ↔ (name, CivilDate.ofDayNumber l.dayNumber) ∈ skippedDays ∧
      6 * 3600 ≤ l.secondOfDay + if l.inLeapSecond then 1 else 0 := by
  have hcast : (if l.inLeapSecond then 1 else 0 : Int) =
      (if l.inLeapSecond then 1 else 0 : Nat) := by split <;> rfl
  have hle : (if l.inLeapSecond then 1 else 0 : Nat) ≤ 1 := by split <;> decide
  rw [(regular_of_named? h).misses_iff, Reading.secondOfDay, hcast]
  generalize (if l.inLeapSecond then 1 else 0 : Nat) = leap at *
  constructor
  · rintro ⟨c, hc, ⟨hlow, hhigh⟩, hdeep⟩
    obtain ⟨day, hentry, hstart, hlength⟩ := skipsDay_of_named? h hc (by omega)
    have hday : l.seconds / secondsPerDay = day.dayNumber := by
      simp only [secondsPerDay] at hstart hlength ⊢
      omega
    rw [Reading.dayNumber, hday, ofDayNumber_skippedDays (name, day) hentry]
    refine ⟨hentry, ?_⟩
    simp only [secondsPerDay] at hstart hday ⊢
    omega
  · rintro ⟨hentry, hdeep⟩
    obtain ⟨c, hc, hstart, hlength⟩ := exists_skipsDay_of_named? h hentry
    rw [CivilDate.dayNumber_ofDayNumber, Reading.dayNumber] at hstart
    simp only [secondsPerDay] at hstart hlength hdeep
    exact ⟨c, hc, ⟨by omega, by omega⟩, by omega⟩

end Zone

end DueTime
