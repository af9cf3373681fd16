/-
DueTime.Proofs.Resolution.WallClock — calendar patterns pin the wall clock.

In a regular zone a pattern that means a day resolves, whenever an instant
of that day reads its time, to the first such instant. The offset of the
result is the one in force on that day, whatever it is now.
-/
import DueTime.Proofs.Resolution.TargetDay
import DueTime.Proofs.Zone.Localize

namespace DueTime.ZonedTime

/-- The instant of a pattern that means a day is the first that reads its
time on that day, if any does. -/
theorem resolve_first_reading {now : ZonedTime} (hz : now.zone.Regular) {p : TimePattern}
    {time : HourMinute} (htime : p.time = ⟨time.hour, time.minute⟩) {today : Date}
    (htoday : now.date? = some today) {k : Nat} (hk : p.MeansDay now today time k) {d : Date}
    (hd : d.number = today.number + k) {i : Instant}
    (hi : now.zone.reading i = d.reading time) :
    ∃ first, now.resolve p = .ok ⟨⟨now.zone, first⟩, p⟩ ∧
      now.zone.reading first = d.reading time ∧ first.nanos = 0 ∧
      ∀ j, now.zone.reading j = d.reading time → first ≤ j := by
  obtain ⟨first, hfirst⟩ := hz.ordinary.exists_firstShows hi
  refine ⟨first, ?_, hfirst.reading_eq, (Zone.reading_eq_iff.mp hfirst.reading_eq).2,
    fun j hj => hfirst.le hj⟩
  rw [resolve_eq_ok_iff htime htoday hk]
  exact ⟨d, hd, first, Zone.localize?_of_firstShows hfirst, rfl⟩

/-- Noon on Saturday, 2024-10-26, in Berlin. -/
def saturdayInBerlin : ZonedTime :=
  ⟨Zone.berlin, ⟨1729936800, 0, zero_nanos_lt⟩, by decide⟩

/-- The next day the clocks in Berlin are put back, and half past two is
read twice. Sunday at half past two is the first of the two. -/
theorem resolve_first_reading_berlin :
    ∃ first, saturdayInBerlin.resolve (.onWeekday .sunday ⟨2, 30⟩) =
        .ok ⟨⟨Zone.berlin, first⟩, .onWeekday .sunday ⟨2, 30⟩⟩ ∧
      first ≤ ⟨⟨1729989000, 0, zero_nanos_lt⟩, by decide⟩ := by
  have hz : saturdayInBerlin.zone.Regular := Zone.regular_of_mem_known _ (by
    simp [saturdayInBerlin, Zone.known])
  let time : HourMinute := ⟨2, 30, by decide, by decide⟩
  have htoday : saturdayInBerlin.date? = some ⟨20022, by decide, by decide⟩ := by decide +kernel
  let sunday : Date := ⟨20023, by decide, by decide⟩
  have hsecond : saturdayInBerlin.zone.reading ⟨⟨1729992600, 0, zero_nanos_lt⟩, by decide⟩ =
      sunday.reading time := by decide +kernel
  obtain ⟨first, hresolve, -, -, hle⟩ := resolve_first_reading hz
    (p := .onWeekday .sunday ⟨2, 30⟩) rfl htoday (Weekday.isLeast_daysUntil 20022 .sunday)
    (by decide) hsecond
  exact ⟨first, hresolve, hle _ (by decide +kernel)⟩

end DueTime.ZonedTime
