/-
DueTime.Proofs.Resolution.Canonical — calendar patterns lead to instants that
can be told by their readings.

A reading can be shown twice, or never, so that reading the clock at an
instant and looking the reading up again may lead elsewhere. It does not at
the instants that calendar patterns lead to: in a regular zone each of them is
the first that shows what it shows, also behind a gap, and that is the instant
which the lookup takes (`ZonedTime.resolve_canonical`).
-/
import DueTime.Proofs.Resolution.Refusal
import DueTime.Proofs.Resolution.WallClock
import DueTime.Proofs.Zone.Moved

namespace DueTime.ZonedTime

/-- In a regular zone the result of a calendar pattern shows a date and a time
of the calendar, and a clock that is set to them in the same zone is at the
result: of all instants that show the same, the result is the first. -/
theorem resolve_canonical {now : ZonedTime} (hz : now.zone.Regular) {p : TimePattern}
    (hp : ∀ sign length, p ≠ .relativeOffset sign length) {r : Resolution}
    (h : now.resolve p = .ok r) :
    r.time.reading.InCalendar ∧ ofReading? now.zone r.time.reading = some r.time ∧
      ∀ i, now.zone.reading i = r.time.reading → r.time.instant ≤ i := by
  have helapsed : p.aim ≠ .elapsed := by
    rw [ne_eq, TimePattern.aim_eq_elapsed_iff]
    rintro ⟨length, rfl⟩
    exact hp _ _ rfl
  obtain ⟨d, time, i, hi, hr⟩ := exists_reading_of_resolve h helapsed
  have hnanos := d.reading_nanos_lt time
  have hfirst : now.zone.FirstShows (now.zone.reading i) i :=
    hz.firstShows_reading_of_localize? hnanos hi
  have hcal : (now.zone.reading i).InCalendar :=
    hz.ordinary.reading_inCalendar_of_localize? hi (d.reading_inCalendar time)
  rw [hr]
  refine ⟨hcal, ?_, fun j hj => hfirst.le hj⟩
  rw [ofReading?, Option.map_eq_some_iff]
  exact ⟨i, Zone.localize?_of_firstShows hfirst, rfl⟩

/-- On the Friday that Apia left out, five in the morning stands for the same
hour of the Saturday. In Berlin half past two is shown twice on a Sunday. Both
results are found again by their readings. -/
theorem resolve_canonical_apia :
    thursdayInApia.zone.Regular ∧ saturdayInBerlin.zone.Regular ∧
    (∃ r, thursdayInApia.resolve (.tomorrow ⟨5, 0⟩) = .ok r ∧
      r.time.reading.dayNumber = fridayOfApia.number + 1 ∧
      ofReading? thursdayInApia.zone r.time.reading = some r.time) ∧
    ∃ r, saturdayInBerlin.resolve (.onWeekday .sunday ⟨2, 30⟩) = .ok r ∧
      ofReading? saturdayInBerlin.zone r.time.reading = some r.time := by
  have hapia : thursdayInApia.zone.Regular := Zone.regular_of_named? named?_apia
  have hberlin : saturdayInBerlin.zone.Regular := Zone.regular_of_mem_known _ (by
    simp [saturdayInBerlin, Zone.known])
  obtain ⟨r, hr⟩ := exists_resolve_of_isOk
    (show (thursdayInApia.resolve (.tomorrow ⟨5, 0⟩)).isOk by decide +kernel)
  obtain ⟨r', hr'⟩ := exists_resolve_of_isOk
    (show (saturdayInBerlin.resolve (.onWeekday .sunday ⟨2, 30⟩)).isOk by decide +kernel)
  have hmoved : (thursdayInApia.resolve (.tomorrow ⟨5, 0⟩)).toOption.map
      (·.time.reading.dayNumber) = some (fridayOfApia.number + 1) := by decide +kernel
  rw [hr] at hmoved
  refine ⟨hapia, hberlin, ⟨r, hr, Option.some.inj hmoved, ?_⟩, r', hr', ?_⟩
  · exact (resolve_canonical hapia (by rintro _ _ ⟨⟩) hr).2.1
  · exact (resolve_canonical hberlin (by rintro _ _ ⟨⟩) hr').2.1

end DueTime.ZonedTime
