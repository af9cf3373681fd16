/-
DueTime.Proofs.Resolution.Refusal — when a pattern ahead is refused.

A pattern whose numbers are within the bounds of the grammar (`InRange`)
cannot lead out of the calendar, unless it starts close to one of its
ends. In the years from -262000 to 262000 the resolver refuses such a
pattern, offsets back aside, for one reason only: a reading that it has to
look at (`LooksAt`) is missing in the zone. The error then speaks of the
time of day, which is a good one.

Apia has such readings. It went from Thursday, 2011-12-29, to Saturday, and
most of the Friday in between cannot be asked for (`resolve_apia_refused`).
-/
import DueTime.Proofs.Resolution.TargetDay
import DueTime.Proofs.Zone.Missing

namespace DueTime

/-! ## The numbers of a pattern -/

/-- The time of the pattern is a time of day, and it points no more than
9999 days, or 999 weeks, ahead. -/
structure TimePattern.InRange (p : TimePattern) : Prop where
  hours_le : p.time.hours ≤ 23
  minutes_le : p.time.minutes ≤ 59
  days_le : ∀ days, p.aim = .daysAhead days → days ≤ 9999
  weeks_le : ∀ w weeks, p.aim = .weekdayAhead w weeks → weeks ≤ 999

/-- The pattern has to know the instant of the reading: it points at it, or
it asks for the next moment of its time and looks at today's first. -/
def TimePattern.LooksAt (now : ZonedTime) (l : Reading) (p : TimePattern) : Prop :=
  p.AimsAt now l ∨
    p.aim = .nextTime ∧ ∃ (time : HourMinute) (today : Date),
      p.time = ⟨time.hour, time.minute⟩ ∧ now.date? = some today ∧ l = today.reading time

namespace TimePattern

variable {now : ZonedTime} {p : TimePattern} {time : HourMinute} {today : Date} {k : Nat}

theorem InRange.exists_time (hp : p.InRange) :
    ∃ time : HourMinute, p.time = ⟨time.hour, time.minute⟩ :=
  ⟨⟨p.time.hours, p.time.minutes, Nat.lt_succ_of_le hp.hours_le, Nat.lt_succ_of_le hp.minutes_le⟩,
    rfl⟩

/-- No pattern in range means a day that is more than 9999 days ahead. -/
theorem MeansDay.le_of_inRange (hp : p.InRange) (hk : p.MeansDay now today time k) :
    k ≤ 9999 := by
  have hmost : p.aim.mostDays ≤ 9999 := by
    cases hway : p.aim with
    | past | elapsed => exact Nat.zero_le _
    | nextTime =>
      show 1 ≤ 9999
      decide
    | daysAhead days => exact hp.days_le days hway
    | weekdayAhead w weeks =>
      have hweeks := hp.weeks_le w weeks hway
      show 7 * weeks + 7 ≤ 9999
      omega
  exact Nat.le_trans (meansDay_iff_leads.mp hk).days_bounds.2 hmost

/-- What a pattern in range looks at is on a day from today to 9999 days
ahead. -/
theorem LooksAt.dayNumber_bounds {l : Reading} (hp : p.InRange) (hl : p.LooksAt now l) :
    now.reading.dayNumber ≤ l.dayNumber ∧ l.dayNumber ≤ now.reading.dayNumber + 9999 := by
  rcases hl with ⟨time, today, d, k, -, htoday, hk, hd, rfl⟩ | ⟨-, time, today, -, htoday, rfl⟩
  · have hday := Date.ofNumber?_eq_some_iff.mp htoday
    have hle := hk.le_of_inRange hp
    rw [Date.reading_dayNumber]
    omega
  · have hday := Date.ofNumber?_eq_some_iff.mp htoday
    rw [Date.reading_dayNumber]
    omega

end TimePattern

namespace ZonedTime

variable {now : ZonedTime} {p : TimePattern} {l : Reading}

/-! ## What the resolver needs -/

/-- What a pattern looks at has an instant, when the pattern resolves. -/
theorem exists_localize?_of_looksAt {r : Resolution} (h : now.resolve p = .ok r)
    (hl : p.LooksAt now l) : ∃ i, now.zone.localize? l = some i := by
  rcases hl with haims | ⟨hnext, time, today, htime, htoday, rfl⟩
  · exact ⟨_, localize?_of_aimsAt h haims⟩
  · obtain ⟨time', htime', -, hfollow, -⟩ := resolve_eq_ok_iff_follow?.mp h
    rw [hnext] at hfollow
    obtain ⟨today', i, htoday', hi⟩ := exists_of_nextTime? hfollow
    obtain rfl : today' = today := Option.some.inj (htoday'.symm.trans htoday)
    obtain rfl := TimePattern.time_unique htime' htime
    exact ⟨i, hi⟩

/-- An offset of less than a day leads to an instant, far from the ends of
the calendar. -/
theorem exists_afterMinutes? (hz : now.zone.WithinDay) (hnow : now.reading.HasMargin 3)
    (length : HourMinute) : ∃ t, now.afterMinutes? length.minutes = some t := by
  have hminutes := length.minutes_lt
  have hoffset := hz now.instant.seconds
  have hreading :
      now.reading.seconds = now.instant.seconds + now.zone.offsetAt now.instant.seconds := rfl
  have hcal : (now.instant.relabel (60 * length.minutes)).InCalendar := by
    refine hnow.inCalendar ?_ ?_
    · rw [TimePoint.relabel_seconds]
      omega
    · rw [TimePoint.relabel_seconds]
      omega
  obtain ⟨i, hi⟩ := Instant.exists_addMinutes?_iff.mpr hcal
  exact ⟨⟨now.zone, i⟩, afterMinutes?_eq_some_iff.mpr ⟨hi, rfl⟩⟩

/-- A pattern in range resolves when everything that it looks at has an
instant. -/
theorem exists_resolve_of_looksAt (hz : now.zone.WithinDay) (hnow : now.reading.HasMargin 10000)
    (hp : p.InRange) (haim : p.aim ≠ .past)
    (hall : ∀ l, p.LooksAt now l → ∃ i, now.zone.localize? l = some i) :
    ∃ r, now.resolve p = .ok r := by
  obtain ⟨time, htime⟩ := hp.exists_time
  by_cases helapsed : p.aim = .elapsed
  · obtain ⟨t, ht⟩ := exists_afterMinutes? hz
      (TimePoint.HasMargin.of_near 9997 hnow (by omega) (by omega)) time
    have hfollow : now.follow? p.aim time = some t := by
      rw [helapsed]
      exact ht
    exact ⟨⟨t, p⟩, resolve_eq_ok_iff_follow?.mpr ⟨time, htime, haim, hfollow, rfl⟩⟩
  · have hmargin : (firstDay + 10000) * 86400 ≤ now.reading.seconds ∧
        now.reading.seconds < (lastDay + 1 - 10000) * 86400 := hnow
    have hbounds : firstDay + 10000 ≤ now.reading.dayNumber ∧
        now.reading.dayNumber ≤ lastDay - 10000 := by
      simp only [Reading.dayNumber, secondsPerDay]
      omega
    let today : Date := ⟨now.reading.dayNumber, by omega, by omega⟩
    have htoday : now.date? = some today := Date.ofNumber?_eq_some_iff.mpr rfl
    obtain ⟨k, hk⟩ := exists_meansDay_of_nextTime haim helapsed fun hnext =>
      hall _ (Or.inr ⟨hnext, time, today, htime, htoday, rfl⟩)
    have hle := hk.le_of_inRange hp
    have hnumber : today.number = now.reading.dayNumber := rfl
    let d : Date := ⟨today.number + k, by omega, by omega⟩
    obtain ⟨i, hi⟩ := hall _ (Or.inl ⟨time, today, d, k, htime, htoday, hk, rfl, rfl⟩)
    exact ⟨_, (resolve_eq_ok_iff htime htoday hk).mpr ⟨d, rfl, i, hi, rfl⟩⟩

theorem hasMargin_of_looksAt (hnow : now.reading.HasMargin 10004) (hp : p.InRange)
    (hl : p.LooksAt now l) : l.HasMargin 4 := by
  obtain ⟨hlow, hhigh⟩ := hl.dayNumber_bounds hp
  simp only [Reading.dayNumber, secondsPerDay] at hlow hhigh
  exact TimePoint.HasMargin.of_near 10000 hnow (by omega) (by omega)

/-! ## The exact condition -/

/-- In the years from -262000 to 262000, a pattern in range that does not
point back is refused exactly if it looks at a reading that is missing in
the zone, and a reading has no instant exactly if it is missing. Missing
are, in a regular zone, the readings six hours and more into a gap; in the
zones of the table, what comes after six o'clock on a skipped day. -/
theorem resolve_refused_iff {now : ZonedTime} (hz : now.zone.WithinDay)
    (hnow : now.reading.InYears (-262000) 262000) :
    (∀ p : TimePattern, p.InRange → p.aim ≠ .past →
      ((∃ r, now.resolve p = .ok r) ↔ ∀ l, p.LooksAt now l → ¬ now.zone.Misses l) ∧
      (∀ e, now.resolve p = .error e → e = .invalidTime p.time.hours p.time.minutes) ∧
      now.resolve p ≠ .crash) ∧
    (∀ l : Reading, l.InYears (-262000) 262000 →
      ((∃ t, ofReading? now.zone l = some t) ↔ ¬ now.zone.Misses l)) ∧
    (now.zone.Regular → ∀ l, now.zone.Misses l ↔
      ∃ c ∈ now.zone.turns, c.Skips l.seconds ∧
        c.start + c.before + 6 * 3600 ≤ l.seconds + if l.inLeapSecond then 1 else 0) ∧
    ∀ name, Zone.named? name = some now.zone → ∀ l, now.zone.Misses l ↔
      (name, CivilDate.ofDayNumber l.dayNumber) ∈ Zone.skippedDays ∧
        6 * 3600 ≤ l.secondOfDay + if l.inLeapSecond then 1 else 0 := by
  have hmargin := hnow.hasMargin
  have hexists {l : Reading} (hl : l.HasMargin 4) :
      (∃ i, now.zone.localize? l = some i) ↔ ¬ now.zone.Misses l := by
    rw [← hz.localize?_eq_none_iff hl, ← ne_eq, Option.ne_none_iff_exists']
  obtain ⟨today, htoday⟩ := exists_date?_of_inCalendar
    (hmargin.inCalendar (u := now.reading.toTimePoint) (by omega) (by omega))
  refine ⟨fun p hp haim => ⟨⟨?_, fun hall => ?_⟩, fun e => invalidTime_of_resolve_error haim,
      resolve_ne_crash htoday⟩,
    fun l hl => ?_, fun hreg l => hreg.misses_iff, fun name h l => Zone.misses_iff_of_named? h⟩
  · rintro ⟨r, hr⟩ l hl
    have hnear := hasMargin_of_looksAt
      (TimePoint.HasMargin.of_near 39996 hmargin (by omega) (by omega)) hp hl
    exact (hexists hnear).mp (exists_localize?_of_looksAt hr hl)
  · refine exists_resolve_of_looksAt hz
      (TimePoint.HasMargin.of_near 40000 hmargin (by omega) (by omega)) hp haim fun l hl => ?_
    have hnear := hasMargin_of_looksAt
      (TimePoint.HasMargin.of_near 39996 hmargin (by omega) (by omega)) hp hl
    exact (hexists hnear).mpr (hall l hl)
  · have hnear : l.HasMargin 4 :=
      TimePoint.HasMargin.of_near 49996 hl.hasMargin (by omega) (by omega)
    rw [← hexists hnear]
    simp only [ofReading?, Option.map_eq_some_iff]
    constructor
    · rintro ⟨t, i, hi, -⟩
      exact ⟨i, hi⟩
    · rintro ⟨i, hi⟩
      exact ⟨_, i, hi, rfl⟩

/-- Noon on Thursday, 2011-12-29, in Apia. -/
def thursdayInApia : ZonedTime :=
  ⟨Zone.apia, ⟨1325196000, 0, zero_nanos_lt⟩, by decide⟩

/-- The day after, which Apia left out. -/
def fridayOfApia : Date :=
  ⟨15338, by decide, by decide⟩

theorem named?_apia : Zone.named? "Pacific/Apia" = some thursdayInApia.zone :=
  rfl

theorem thursdayInApia_inYears : thursdayInApia.reading.InYears (-262000) 262000 := by
  decide +kernel

theorem inRange_tomorrow (time : HourMinute) :
    (TimePattern.tomorrow ⟨time.hour, time.minute⟩).InRange where
  hours_le := Nat.le_of_lt_succ time.hour_lt
  minutes_le := Nat.le_of_lt_succ time.minute_lt
  days_le := by
    rintro days ⟨⟩
    decide
  weeks_le := nofun

/-- Tomorrow is that day. -/
theorem looksAt_tomorrow_apia {time : HourMinute} {l : Reading} :
    (TimePattern.tomorrow ⟨time.hour, time.minute⟩).LooksAt thursdayInApia l ↔
      l = fridayOfApia.reading time := by
  have htoday : thursdayInApia.date? = some ⟨15337, by decide, by decide⟩ := by decide +kernel
  constructor
  · rintro (⟨time', today, d, k, htime, htoday', hk, hd, rfl⟩ | ⟨hnext, -⟩)
    · obtain rfl := TimePattern.time_unique htime rfl
      obtain rfl : _ = today := Option.some.inj (htoday.symm.trans htoday')
      obtain rfl : k = 1 := hk
      rw [show d = fridayOfApia from Date.ext hd]
    · cases hnext
  · rintro rfl
    exact Or.inl ⟨time, _, fridayOfApia, 1, rfl, htoday, rfl, rfl, rfl⟩

/-- Five in the morning on that day has an instant, and noon has none. -/
theorem resolve_refused_iff_apia :
    thursdayInApia.zone.WithinDay ∧ thursdayInApia.reading.InYears (-262000) 262000 ∧
      (∃ r, thursdayInApia.resolve (.tomorrow ⟨5, 0⟩) = .ok r) ∧
      ¬ ∃ r, thursdayInApia.resolve (.tomorrow ⟨12, 0⟩) = .ok r := by
  have hz : thursdayInApia.zone.WithinDay := (Zone.regular_of_named? named?_apia).withinDay
  have hnow := thursdayInApia_inYears
  obtain ⟨hresolve, -, -, hmisses⟩ := resolve_refused_iff hz hnow
  have hfriday (time : HourMinute) :
      (∃ r, thursdayInApia.resolve (.tomorrow ⟨time.hour, time.minute⟩) = .ok r) ↔
        ¬ thursdayInApia.zone.Misses (fridayOfApia.reading time) := by
    rw [(hresolve _ (inRange_tomorrow time) nofun).1]
    simp only [looksAt_tomorrow_apia, forall_eq]
  refine ⟨hz, hnow, (hfriday ⟨5, 0, by decide, by decide⟩).mpr ?_,
    fun h => (hfriday ⟨12, 0, by decide, by decide⟩).mp h ?_⟩
  · rw [hmisses _ named?_apia]
    decide +kernel
  · rw [hmisses _ named?_apia]
    decide +kernel

/-- The pattern for that noon is within the bounds of the grammar, and the
year 2011 is far from the ends of the calendar. -/
theorem resolve_apia_refused :
    Zone.named? "Pacific/Apia" = some thursdayInApia.zone ∧
      thursdayInApia.reading.InYears (-262000) 262000 ∧
      (TimePattern.tomorrow ⟨12, 0⟩).InRange ∧ (TimePattern.tomorrow ⟨12, 0⟩).aim ≠ .past ∧
      thursdayInApia.resolve (.tomorrow ⟨12, 0⟩) = .error (.invalidTime 12 0) ∧
      ofReading? thursdayInApia.zone (fridayOfApia.reading ⟨12, 0, by decide, by decide⟩) =
        none := by
  have hrefused : (thursdayInApia.resolve (.tomorrow ⟨12, 0⟩)).isOk = false := by
    decide +kernel
  have htoday : thursdayInApia.date? = some ⟨15337, by decide, by decide⟩ := by decide +kernel
  have haim : (TimePattern.tomorrow ⟨12, 0⟩).aim ≠ .past := nofun
  refine ⟨named?_apia, thursdayInApia_inYears, inRange_tomorrow ⟨12, 0, by decide, by decide⟩, haim,
    ?_, Option.isNone_iff_eq_none.mp (by decide +kernel)⟩
  cases hresolve : thursdayInApia.resolve (.tomorrow ⟨12, 0⟩) with
  | ok r =>
    rw [hresolve] at hrefused
    cases hrefused
  | error e => exact congrArg Result.error (invalidTime_of_resolve_error haim hresolve)
  | crash => exact absurd hresolve (resolve_ne_crash htoday)

end ZonedTime

end DueTime
