/-
DueTime.Proofs.Command.Clock — the clock of a run shows a day.

Days are counted from the day that a clock shows, and within some hours of
the ends of the calendar a clock may show one that the calendar does not
have. No run gets there. Its time is that of the machine, which is at least
a day away, or a reference, which is a date of the calendar as it stands; and
its zone is an ordinary one. So every clock of a run shows a day
(`exists_date?_of_clock`).
-/
import DueTime.Proofs.Calendar.Margin
import DueTime.Proofs.Command.Faults
import DueTime.Proofs.Command.Scan
import DueTime.Proofs.Resolution.TargetDay
import DueTime.Proofs.Zone.Localize

namespace DueTime

/-! ## References -/

theorem Timestamp.inCalendar_of_readingAt? {d : Date} {time : HourMinute} {second : Nat}
    {l : Reading} (h : readingAt? d time second = some l) : l.InCalendar := by
  have hfirst := d.first_le
  have hlast := d.le_last
  have hminutes := time.minutes_lt
  have hstart : (d.reading time).seconds = d.number * secondsPerDay + 60 * time.minutes := rfl
  simp only [secondsPerDay] at hstart
  unfold readingAt? at h
  simp only [TimePoint.InCalendar, secondsPerDay]
  split at h
  · cases h
    simp only [hstart]
    omega
  · split at h
    · cases h
      simp only [hstart]
      omega
    · cases h

/-- A timestamp gives a reading of the calendar. -/
theorem Timestamp.inCalendar_of_read? {text : String} {l : Reading} (h : read? text = some l) :
    l.InCalendar := by
  simp only [read?, Option.bind_eq_bind, Option.bind_eq_some_iff] at h
  obtain ⟨_, -, _, -, _, -, _, -, _, -, _, -, h⟩ := h
  split at h
  · simp only [Option.bind_eq_some_iff] at h
    obtain ⟨_, -, _, -, h⟩ := h
    exact inCalendar_of_readingAt? h
  · cases h

namespace Command

variable {arguments : List String} {around : Surroundings} {s : Settings} {now : ZonedTime}

theorem Options.inCalendar_of_scan {o o' : Options}
    (ho : ∀ l, o.reference = some l → l.InCalendar) (h : o.scan arguments = .ok o') :
    ∀ l, o'.reference = some l → l.InCalendar := by
  obtain ⟨given, result, hreads⟩ := exists_reads arguments
  rw [hreads.scan_eq] at h
  cases result with
  | error stop => cases h
  | ok token =>
    cases h
    intro l hl
    rcases Option.or_eq_some_iff.mp hl with hgiven | ⟨-, hl⟩
    · obtain ⟨text, -, hread⟩ := List.mem_filterMap.mp (List.mem_of_getLast? hgiven)
      exact Timestamp.inCalendar_of_read? hread
    · exact ho l hl

/-! ## Clocks -/

/-- A clock that shows the time of a machine, or is set to a reading of the
calendar, shows a day. -/
theorem Options.Shows.exists_date? {o : Options} (h : o.Shows around now)
    (ho : ∀ l, o.reference = some l → l.InCalendar) : ∃ today, now.date? = some today := by
  refine ZonedTime.exists_date?_of_inCalendar ?_
  cases h with
  | @present zone hzone _ =>
    have hmargin : around.now.toTimePoint.HasMargin 1 := around.now_hasMargin
    have hoffset := (around.zones.ordinary hzone).offsetAt_lt around.now.seconds
    refine TimePoint.HasMargin.inCalendar hmargin ?_ ?_
    · show around.now.seconds - 1 * 86400 ≤ around.now.seconds + zone.offsetAt around.now.seconds
      omega
    · show around.now.seconds + zone.offsetAt around.now.seconds ≤ around.now.seconds + 1 * 86400
      omega
  | reference hzone hl hnow =>
    obtain ⟨i, hi, rfl⟩ := Option.map_eq_some_iff.mp hnow
    exact (around.zones.ordinary hzone).reading_inCalendar_of_localize? hi (ho _ hl)

/-- Options that were read on the command line show no other clock. -/
theorem exists_date?_of_shows {o : Options}
    (hscan : Options.scan { color := around.terminal } arguments = .ok o)
    (h : o.Shows around now) : ∃ today, now.date? = some today := by
  refine h.exists_date? (Options.inCalendar_of_scan ?_ hscan)
  intro l hl
  cases hl

/-- The clock of a run shows a day of the calendar. -/
theorem exists_date?_of_clock (hsettings : settings arguments around = .ok s)
    (h : s.clock around.now = .ok now) : ∃ today, now.date? = some today := by
  obtain ⟨o, hscan, hsettle⟩ := settings_eq_ok_iff.mp hsettings
  obtain ⟨hzone, -, hreference, -, -⟩ := Options.settle_eq_ok_iff.mp hsettle
  exact exists_date?_of_shows hscan (Options.shows_of_clock hzone hreference h)

end Command

end DueTime
