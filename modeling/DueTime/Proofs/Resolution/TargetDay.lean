/-
DueTime.Proofs.Resolution.TargetDay — the day that a pattern means, and
the time on it.

`TimePattern.MeansDay` says how many days after today a pattern points,
kind by kind and in the words of the calendar: the weekday kinds speak of
the least number of days to a day of the name, and the kinds without a
date of whether today's instant is still to come. It does not hold of
relative offsets. `resolve_eq_ok_iff` reduces the resolver to it: a
pattern of any of these kinds has exactly the instant that its time has on
its day.
-/
import DueTime.Proofs.Calendar.Weekday
import DueTime.Proofs.Resolution.Resolver

namespace DueTime

/-! ## The day that a pattern means -/

/-- The pattern points `k` days ahead, at a time of day, when `today` is
the day of the clock. -/
def TimePattern.MeansDay (now : ZonedTime) (today : Date) (time : HourMinute) (k : Nat) :
    TimePattern → Prop
  | .relativeOffset .. => False
  | .tomorrow _ => k = 1
  | .dayAfterTomorrow _ => k = 2
  | .inDays days _ => k = days
  | .inOneWeek _ => k = 7
  | .onWeekday w _ | .inOneWeekOnWeekday w _ =>
    IsLeast {j : Nat | 1 ≤ j ∧ Weekday.ofDayNumber (today.number + j) = w} k
  | .inWeeksOnWeekday weeks w _ =>
    ∃ j, IsLeast {j : Nat | 1 ≤ j ∧ Weekday.ofDayNumber (today.number + j) = w} j ∧
      k = j + 7 * weeks
  | .today _ | .plainTime _ | .plainHour _ =>
    ∃ i, now.zone.localize? (today.reading time) = some i ∧ k = if now.instant < i then 0 else 1

/-- The same by where the pattern points: an aim at a day leads `k` days
ahead. -/
inductive Aim.Leads (now : ZonedTime) (today : Date) (time : HourMinute) : Aim → Nat → Prop
  | daysAhead (days : Nat) : Leads now today time (.daysAhead days) days
  | nextTime {i : Instant} (hi : now.zone.localize? (today.reading time) = some i) :
    Leads now today time .nextTime (if now.instant < i then 0 else 1)
  | weekdayAhead {w : Weekday} {j : Nat} (weeks : Nat)
    (hj : IsLeast {j : Nat | 1 ≤ j ∧ Weekday.ofDayNumber (today.number + j) = w} j) :
    Leads now today time (.weekdayAhead w weeks) (j + 7 * weeks)

theorem TimePattern.meansDay_iff_leads {now : ZonedTime} {today : Date} {time : HourMinute}
    {k : Nat} {p : TimePattern} :
    p.MeansDay now today time k ↔ p.aim.Leads now today time k := by
  constructor
  · intro hk
    cases p with
    | relativeOffset sign t => exact hk.elim
    | tomorrow t => exact hk ▸ .daysAhead 1
    | dayAfterTomorrow t => exact hk ▸ .daysAhead 2
    | inDays days t =>
      obtain rfl : k = days := hk
      exact .daysAhead k
    | inOneWeek t => exact hk ▸ .daysAhead 7
    | onWeekday w t | inOneWeekOnWeekday w t => exact .weekdayAhead 0 hk
    | inWeeksOnWeekday weeks w t =>
      obtain ⟨j, hj, rfl⟩ := hk
      exact .weekdayAhead weeks hj
    | today t | plainTime t | plainHour hours =>
      obtain ⟨i, hi, rfl⟩ := hk
      exact .nextTime hi
  · intro hk
    cases p with
    | relativeOffset sign t => cases sign <;> cases hk
    | tomorrow t | dayAfterTomorrow t | inDays days t | inOneWeek t =>
      cases hk
      rfl
    | onWeekday w t | inOneWeekOnWeekday w t =>
      cases hk with
      | weekdayAhead weeks hj => exact hj
    | inWeeksOnWeekday weeks w t =>
      cases hk with
      | weekdayAhead weeks hj => exact ⟨_, hj, rfl⟩
    | today t | plainTime t | plainHour hours =>
      cases hk with
      | nextTime hi => exact ⟨_, hi, rfl⟩

/-! ### The days that an aim can lead ahead -/

namespace Aim

/-- The least number of days that the aim, if it is at a day, can lead
ahead. -/
def fewestDays : Aim → Nat
  | daysAhead days => days
  | weekdayAhead _ weeks => 7 * weeks + 1
  | past | elapsed | nextTime => 0

/-- The greatest number of days that the aim can lead ahead. -/
def mostDays : Aim → Nat
  | daysAhead days => days
  | nextTime => 1
  | weekdayAhead _ weeks => 7 * weeks + 7
  | past | elapsed => 0

theorem fewestDays_le_mostDays (a : Aim) : a.fewestDays ≤ a.mostDays := by
  cases a with
  | past | elapsed | daysAhead days => exact Nat.le_refl _
  | nextTime => exact Nat.zero_le _
  | weekdayAhead w weeks => exact Nat.add_le_add_left (by decide) _

theorem Leads.days_bounds {now : ZonedTime} {today : Date} {time : HourMinute} {a : Aim} {k : Nat}
    (h : a.Leads now today time k) : a.fewestDays ≤ k ∧ k ≤ a.mostDays := by
  cases h with
  | daysAhead days => exact ⟨Nat.le_refl _, Nat.le_refl _⟩
  | nextTime hi =>
    refine ⟨Nat.zero_le _, ?_⟩
    show (if _ then 0 else 1) ≤ 1
    split <;> omega
  | weekdayAhead weeks hj =>
    have hone := hj.1.1
    have hseven := Weekday.le_seven_of_isLeast hj
    simp only [fewestDays, mostDays]
    omega

end Aim

/-! ### The reading on that day -/

theorem ZonedTime.date?_eq_some_iff {t : ZonedTime} {d : Date} :
    t.date? = some d ↔ d.number = t.reading.dayNumber :=
  Date.ofNumber?_eq_some_iff

/-- A clock that reads a time of the calendar shows a day of it. -/
theorem ZonedTime.exists_date?_of_inCalendar {t : ZonedTime} (h : t.reading.InCalendar) :
    ∃ today, t.date? = some today := by
  have hday : firstDay ≤ t.reading.dayNumber ∧ t.reading.dayNumber ≤ lastDay := by
    simp only [TimePoint.InCalendar, secondsPerDay] at h
    simp only [Reading.dayNumber, secondsPerDay]
    omega
  exact ⟨⟨_, hday.1, hday.2⟩, ZonedTime.date?_eq_some_iff.mpr rfl⟩

/-- The pattern points at a reading: its time on the day that it means. -/
def TimePattern.AimsAt (now : ZonedTime) (l : Reading) (p : TimePattern) : Prop :=
  ∃ (time : HourMinute) (today d : Date) (k : Nat), p.time = ⟨time.hour, time.minute⟩ ∧
    now.date? = some today ∧ p.MeansDay now today time k ∧ d.number = today.number + k ∧
    l = d.reading time

/-- The day of the reading is as many days after the clock's as the aim
leads ahead. -/
theorem TimePattern.AimsAt.exists_leads {now : ZonedTime} {l : Reading} {p : TimePattern}
    (h : p.AimsAt now l) :
    ∃ (time : HourMinute) (today : Date) (k : Nat), p.time = ⟨time.hour, time.minute⟩ ∧
      now.date? = some today ∧ today.number = now.reading.dayNumber ∧
      p.aim.Leads now today time k ∧ l.dayNumber = today.number + k := by
  obtain ⟨time, today, d, k, htime, htoday, hk, hd, rfl⟩ := h
  refine ⟨time, today, k, htime, htoday, ZonedTime.date?_eq_some_iff.mp htoday,
    TimePattern.meansDay_iff_leads.mp hk, ?_⟩
  rw [Date.reading_dayNumber, hd]

namespace ZonedTime

variable {now : ZonedTime} {p : TimePattern} {time : HourMinute} {today : Date} {k : Nat}

/-! ## Minutes ahead -/

theorem afterMinutes?_eq_some_iff {minutes : Nat} {t : ZonedTime} :
    now.afterMinutes? minutes = some t ↔
      now.instant.addMinutes? minutes = some t.instant ∧ t.zone = now.zone := by
  obtain ⟨zone, i⟩ := t
  simp [afterMinutes?, eq_comm]

/-! ## Days ahead -/

theorem onDate?_eq_some_iff {d : Date} {t : ZonedTime} :
    now.onDate? d time = some t ↔
      ∃ i, now.zone.localize? (d.reading time) = some i ∧ t = ⟨now.zone, i⟩ := by
  simp only [onDate?, ofReading?, Option.map_eq_some_iff, eq_comm (a := t)]

theorem daysAhead?_eq_some_iff (htoday : now.date? = some today) {t : ZonedTime} :
    now.daysAhead? k time = some t ↔
      ∃ d : Date, d.number = today.number + k ∧
        ∃ i, now.zone.localize? (d.reading time) = some i ∧ t = ⟨now.zone, i⟩ := by
  simp only [daysAhead?, htoday, Option.bind_eq_bind, Option.bind_some, Option.bind_eq_some_iff,
    Date.addDays?_eq_some_iff, onDate?_eq_some_iff]

/-- No days ahead is today. -/
theorem daysAhead?_zero (htoday : now.date? = some today) :
    now.daysAhead? 0 time = (now.zone.localize? (today.reading time)).map (⟨now.zone, ·⟩) := by
  have hsame : today.addDays? 0 = some today := Date.addDays?_eq_some_iff.mpr (by simp)
  simp only [daysAhead?, htoday, hsame, Option.bind_eq_bind, Option.bind_some, onDate?, ofReading?]

/-- A weekday, with or without weeks, is a number of days ahead. -/
theorem weekdayAhead?_eq_daysAhead? (htoday : now.date? = some today) {w : Weekday} {weeks : Nat}
    {j : Nat} (hj : IsLeast {j : Nat | 1 ≤ j ∧ Weekday.ofDayNumber (today.number + j) = w} j) :
    now.weekdayAhead? w weeks time = now.daysAhead? (j + 7 * weeks) time := by
  have hnext : today.next? w = today.addDays? j := by
    rw [hj.unique (Weekday.isLeast_daysUntil today.number w)]
    rfl
  simp only [weekdayAhead?, daysAhead?, htoday, hnext, ← Date.addDays?_add, Option.bind_eq_bind,
    Option.bind_some, Option.bind_assoc]

/-- The next moment that reads the time is today's or tomorrow's. -/
theorem nextTime?_eq_daysAhead? (htoday : now.date? = some today) {i : Instant}
    (hi : now.zone.localize? (today.reading time) = some i) :
    now.nextTime? time = now.daysAhead? (if now.instant < i then 0 else 1) time := by
  rw [nextTime?, daysAhead?_zero htoday, hi]
  simp only [Option.map_some, Option.bind_eq_bind, Option.bind_some]
  split
  · rw [daysAhead?_zero htoday, hi]
    rfl
  · rfl

/-- To follow an aim at a day is to go as many days ahead as it leads. -/
theorem follow?_of_leads (htoday : now.date? = some today) {a : Aim}
    (hk : a.Leads now today time k) :
    a ≠ .past ∧ now.follow? a time = now.daysAhead? k time := by
  cases hk with
  | daysAhead days => exact ⟨nofun, rfl⟩
  | nextTime hi => exact ⟨nofun, nextTime?_eq_daysAhead? htoday hi⟩
  | weekdayAhead weeks hj => exact ⟨nofun, weekdayAhead?_eq_daysAhead? htoday hj⟩

/-! ## The resolver -/

/-- A pattern that means a day resolves to the instant that its time has
on that day, and to nothing else. -/
theorem resolve_eq_ok_iff (htime : p.time = ⟨time.hour, time.minute⟩)
    (htoday : now.date? = some today) (hk : p.MeansDay now today time k) {r : Resolution} :
    now.resolve p = .ok r ↔
      ∃ d : Date, d.number = today.number + k ∧
        ∃ i, now.zone.localize? (d.reading time) = some i ∧ r = ⟨⟨now.zone, i⟩, p⟩ := by
  obtain ⟨haim, hfollow⟩ := follow?_of_leads htoday (TimePattern.meansDay_iff_leads.mp hk)
  rw [resolve_eq_ok_iff_follow?]
  constructor
  · rintro ⟨time', htime', -, hfound, hpattern⟩
    rw [TimePattern.time_unique htime' htime, hfollow, daysAhead?_eq_some_iff htoday] at hfound
    obtain ⟨d, hd, i, hi, hr⟩ := hfound
    obtain ⟨found, pattern⟩ := r
    cases hr
    cases hpattern
    exact ⟨d, hd, i, hi, rfl⟩
  · rintro ⟨d, hd, i, hi, rfl⟩
    exact ⟨time, htime, haim, hfollow.trans
      ((daysAhead?_eq_some_iff htoday).mpr ⟨d, hd, i, hi, rfl⟩), rfl⟩

/-- An offset forwards resolves to the instant so many minutes from now. -/
theorem exists_addMinutes?_of_resolve {r : Resolution} (h : now.resolve p = .ok r)
    (helapsed : p.aim = .elapsed) :
    ∃ length : HourMinute, p.time = ⟨length.hour, length.minute⟩ ∧
      now.instant.addMinutes? length.minutes = some r.time.instant := by
  obtain ⟨length, htime, -, hfollow, -⟩ := resolve_eq_ok_iff_follow?.mp h
  rw [helapsed] at hfollow
  exact ⟨length, htime, (afterMinutes?_eq_some_iff.mp hfollow).1⟩

/-! ## The reading that a pattern points at -/

theorem exists_of_nextTime? {t : ZonedTime} (h : now.nextTime? time = some t) :
    ∃ today i, now.date? = some today ∧ now.zone.localize? (today.reading time) = some i := by
  simp only [nextTime?, Option.bind_eq_bind, Option.bind_eq_some_iff] at h
  obtain ⟨found, hfound, -⟩ := h
  obtain ⟨today, htoday⟩ := exists_date?_of_follow? (a := .daysAhead 0) rfl hfound
  rw [daysAhead?_zero htoday, Option.map_eq_some_iff] at hfound
  obtain ⟨i, hi, -⟩ := hfound
  exact ⟨today, i, htoday, hi⟩

/-- Every pattern but an offset means a day, if today's instant can be
told when that is what the day depends on. -/
theorem exists_meansDay_of_nextTime (haim : p.aim ≠ .past) (helapsed : p.aim ≠ .elapsed)
    (hnext : p.aim = .nextTime → ∃ i, now.zone.localize? (today.reading time) = some i) :
    ∃ k, p.MeansDay now today time k := by
  obtain ⟨k, hk⟩ : ∃ k, p.aim.Leads now today time k := by
    cases hway : p.aim with
    | past => exact absurd hway haim
    | elapsed => exact absurd hway helapsed
    | daysAhead days => exact ⟨days, .daysAhead days⟩
    | nextTime =>
      obtain ⟨i, hi⟩ := hnext hway
      exact ⟨_, .nextTime hi⟩
    | weekdayAhead w weeks =>
      exact ⟨_, .weekdayAhead weeks (Weekday.isLeast_daysUntil today.number w)⟩
  exact ⟨k, TimePattern.meansDay_iff_leads.mpr hk⟩

/-- Every pattern that leads somewhere, offsets aside, means a day. -/
theorem exists_meansDay {t : ZonedTime} (haim : p.aim ≠ .past) (helapsed : p.aim ≠ .elapsed)
    (h : now.follow? p.aim time = some t) :
    ∃ today k, now.date? = some today ∧ p.MeansDay now today time k := by
  obtain ⟨today, htoday, hnext⟩ : ∃ today, now.date? = some today ∧
      (p.aim = .nextTime → ∃ i, now.zone.localize? (today.reading time) = some i) := by
    cases hway : p.aim with
    | past => exact absurd hway haim
    | elapsed => exact absurd hway helapsed
    | daysAhead days =>
      obtain ⟨today, htoday⟩ := exists_date?_of_follow? (hway ▸ rfl) h
      exact ⟨today, htoday, nofun⟩
    | nextTime =>
      rw [hway] at h
      obtain ⟨today, i, htoday, hi⟩ := exists_of_nextTime? h
      exact ⟨today, htoday, fun _ => ⟨i, hi⟩⟩
    | weekdayAhead w weeks =>
      obtain ⟨today, htoday⟩ := exists_date?_of_follow? (hway ▸ rfl) h
      exact ⟨today, htoday, nofun⟩
  obtain ⟨k, hk⟩ := exists_meansDay_of_nextTime haim helapsed hnext
  exact ⟨today, k, htoday, hk⟩

/-- What a pattern resolves to has the reading that it points at, as far
as the zone has it. -/
theorem localize?_of_aimsAt {r : Resolution} (h : now.resolve p = .ok r) {l : Reading}
    (hl : p.AimsAt now l) : now.zone.localize? l = some r.time.instant := by
  obtain ⟨time, today, d, k, htime, htoday, hk, hd, rfl⟩ := hl
  obtain ⟨d', hd', i, hi, rfl⟩ := (resolve_eq_ok_iff htime htoday hk).mp h
  obtain rfl : d' = d := Date.ext (hd'.trans hd.symm)
  exact hi

/-- A pattern that resolves points at a reading, unless it is an offset. -/
theorem exists_aimsAt {r : Resolution} (h : now.resolve p = .ok r) (helapsed : p.aim ≠ .elapsed) :
    ∃ l, p.AimsAt now l := by
  obtain ⟨time, htime, haim, hfollow, -⟩ := resolve_eq_ok_iff_follow?.mp h
  obtain ⟨today, k, htoday, hk⟩ := exists_meansDay haim helapsed hfollow
  obtain ⟨d, hd, -⟩ := (resolve_eq_ok_iff htime htoday hk).mp h
  exact ⟨_, time, today, d, k, htime, htoday, hk, hd, rfl⟩

/-- What it resolves to is the instant of a reading on a day, in the zone of
the clock. -/
theorem exists_reading_of_resolve {r : Resolution} (h : now.resolve p = .ok r)
    (helapsed : p.aim ≠ .elapsed) :
    ∃ (d : Date) (time : HourMinute) (i : Instant),
      now.zone.localize? (d.reading time) = some i ∧ r.time = ⟨now.zone, i⟩ := by
  obtain ⟨time, htime, haim, hfollow, -⟩ := resolve_eq_ok_iff_follow?.mp h
  obtain ⟨today, k, htoday, hk⟩ := exists_meansDay haim helapsed hfollow
  obtain ⟨d, -, i, hi, rfl⟩ := (resolve_eq_ok_iff htime htoday hk).mp h
  exact ⟨d, time, i, hi, rfl⟩

end ZonedTime

end DueTime
