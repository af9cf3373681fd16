/-
DueTime.Proofs.Resolution.DaysAhead — every calendar pattern is a number
of days ahead.

`in n days` could stand for all patterns that name a day. Each of them
gives what it gives for the right number of days and the same time: the
instant, if there is one, and else the same refusal. The kinds get there by
different ways. A weekday is looked for first, and the weeks are added to
its day; the next moment of a time tries one day and then another. They
agree all the same, wherever the calendar ends and whatever the zone leaves
out (`resolveTime_agrees_inDays`). What is refused is refused for its time
of day, and exactly if that is none, or the calendar has no such day, or
the zone has no instant for the time on it (`resolveTime_inDays_eq_error_iff`).
-/
import DueTime.Proofs.Resolution.Refusal

namespace DueTime.ZonedTime

variable {now : ZonedTime} {p q : TimePattern} {today : Date} {time : HourMinute}

/-- What a pattern resolves to, apart from the pattern: the instant, or why
there is none. -/
def resolveTime (now : ZonedTime) (p : TimePattern) : Result ResolveError ZonedTime :=
  (now.resolve p).map Resolution.time

/-! ## By the aim -/

/-- An hour and a minute that are no time of day are refused first. -/
theorem resolveTime_of_no_time (h : 23 < p.time.hours ∨ 59 < p.time.minutes) :
    now.resolveTime p = .error (.invalidTime p.time.hours p.time.minutes) := by
  rw [resolveTime, resolve_of_no_time h]
  rfl

section
variable (htoday : now.date? = some today)
include htoday

/-- A time of day is resolved by following the aim. -/
theorem resolveTime_of_time (haim : p.aim ≠ .past)
    (htime : p.time = ⟨time.hour, time.minute⟩) :
    now.resolveTime p =
      (now.follow? p.aim time).elim (.error (.invalidTime p.time.hours p.time.minutes)) .ok := by
  rw [resolveTime, resolve_of_days htime haim fun _ => ⟨today, htoday⟩]
  cases now.follow? p.aim time with
  | none => rfl
  | some t => rfl

/-- Patterns with one time resolve alike if their aims lead to the same
instants. -/
theorem resolveTime_congr (hp : p.aim ≠ .past) (hq : q.aim ≠ .past) (hsame : p.time = q.time)
    (h : ∀ time, now.follow? p.aim time = now.follow? q.aim time) :
    now.resolveTime p = now.resolveTime q := by
  rcases p.time.cases with hno | ⟨time, htime⟩
  · rw [resolveTime_of_no_time hno, resolveTime_of_no_time (hsame ▸ hno), hsame]
  · rw [resolveTime_of_time htoday hp htime, resolveTime_of_time htoday hq (hsame ▸ htime), h,
      hsame]

/-- The next moment of a time is today's if that is to come, and else
tomorrow's; if today's cannot be told, tomorrow's is not asked for. -/
theorem resolveTime_of_nextTime (haim : p.aim = .nextTime) :
    now.resolveTime p =
      match now.resolveTime (.inDays 0 p.time) with
      | .ok t => if now.instant < t.instant then .ok t else now.resolveTime (.inDays 1 p.time)
      | .error e => .error e
      | .crash => .crash := by
  rcases p.time.cases with hno | ⟨time, htime⟩
  · rw [resolveTime_of_no_time hno, resolveTime_of_no_time (p := .inDays 0 p.time) hno]
    rfl
  · have hpast : p.aim ≠ .past := by
      rw [haim]
      nofun
    rw [resolveTime_of_time htoday hpast htime,
      resolveTime_of_time htoday (p := .inDays 0 p.time) nofun htime,
      resolveTime_of_time htoday (p := .inDays 1 p.time) nofun htime, haim]
    simp only [follow?, TimePattern.aim, nextTime?]
    cases now.daysAhead? 0 time with
    | none => rfl
    | some t =>
      simp only [Option.bind_eq_bind, Option.bind_some, Option.elim_some]
      split
      · rfl
      · rfl

end

/-! ## Refusals -/

theorem resolveTime_eq_error_iff {e : ResolveError} :
    now.resolveTime p = .error e ↔ now.resolve p = .error e :=
  Result.map_eq_error_iff

theorem resolveTime_ne_crash (htoday : now.date? = some today) : now.resolveTime p ≠ .crash :=
  mt Result.map_eq_crash_iff.mp (resolve_ne_crash htoday)

/-- A number of days ahead is refused, always for its time, exactly if no
day of the calendar has an instant for the time there: because it is no
time of day, or the calendar ends before, or the zone has no such
instant. -/
theorem resolveTime_inDays_eq_error_iff (htoday : now.date? = some today) {days : Nat}
    {written : WrittenTime} {e : ResolveError} :
    now.resolveTime (.inDays days written) = .error e ↔
      e = .invalidTime written.hours written.minutes ∧
        ∀ (time : HourMinute) (d : Date), written = ⟨time.hour, time.minute⟩ →
          d.number = today.number + days → now.zone.localize? (d.reading time) = none := by
  have hpast : (TimePattern.inDays days written).aim ≠ .past := nofun
  rw [resolveTime_eq_error_iff]
  constructor
  · intro h
    refine ⟨invalidTime_of_resolve_error hpast h, ?_⟩
    intro time d hwritten hd
    cases hi : now.zone.localize? (d.reading time) with
    | none => rfl
    | some i =>
      have hok := (resolve_eq_ok_iff (p := .inDays days written) hwritten htoday rfl).mpr
        ⟨d, hd, i, hi, rfl⟩
      rw [hok] at h
      cases h
  · rintro ⟨rfl, hnone⟩
    cases h : now.resolve (.inDays days written) with
    | ok r =>
      obtain ⟨time, hwritten, -⟩ := resolve_eq_ok_iff_follow?.mp h
      obtain ⟨d, hd, i, hi, -⟩ := (resolve_eq_ok_iff hwritten htoday rfl).mp h
      rw [hnone time d hwritten hd] at hi
      cases hi
    | error e =>
      rw [invalidTime_of_resolve_error hpast h]
      rfl
    | crash => exact absurd h (resolve_ne_crash htoday)

/-! ## All kinds -/

/-- A weekday is the days to the next day of its name and seven for each
week; it does not matter that they are added one after the other. -/
theorem resolveTime_of_weekdayAhead (htoday : now.date? = some today) {w : Weekday}
    {weeks k days : Nat} (haim : p.aim = .weekdayAhead w weeks)
    (hk : IsLeast {j : Nat | 1 ≤ j ∧ Weekday.ofDayNumber (today.number + j) = w} k)
    (hdays : days = k + 7 * weeks) :
    now.resolveTime p = now.resolveTime (.inDays days p.time) := by
  have hpast : p.aim ≠ .past := by
    rw [haim]
    nofun
  refine resolveTime_congr htoday hpast nofun rfl ?_
  intro time
  rw [haim, hdays]
  exact weekdayAhead?_eq_daysAhead? htoday hk

/-- Each kind of pattern that names a day gives what the right number of
days gives, for better or worse. A weekday is the least number of days to a
day of its name, which is seven for the name of today. -/
theorem resolveTime_agrees_inDays (htoday : now.date? = some today) (time : WrittenTime) :
    now.resolveTime (.tomorrow time) = now.resolveTime (.inDays 1 time) ∧
    now.resolveTime (.dayAfterTomorrow time) = now.resolveTime (.inDays 2 time) ∧
    now.resolveTime (.inOneWeek time) = now.resolveTime (.inDays 7 time) ∧
    (∀ p ∈ [TimePattern.today time, .plainTime time], now.resolveTime p =
      match now.resolveTime (.inDays 0 time) with
      | .ok t => if now.instant < t.instant then .ok t else now.resolveTime (.inDays 1 time)
      | .error e => .error e
      | .crash => .crash) ∧
    (∀ hours, now.resolveTime (.plainHour hours) = now.resolveTime (.plainTime ⟨hours, 0⟩)) ∧
    (∀ w, ∃ k, IsLeast {j : Nat | 1 ≤ j ∧ Weekday.ofDayNumber (today.number + j) = w} k ∧ k ≤ 7 ∧
      now.resolveTime (.onWeekday w time) = now.resolveTime (.inDays k time) ∧
      now.resolveTime (.inOneWeekOnWeekday w time) = now.resolveTime (.inDays k time) ∧
      ∀ weeks, now.resolveTime (.inWeeksOnWeekday weeks w time) =
        now.resolveTime (.inDays (k + 7 * weeks) time)) ∧
    now.resolveTime (.onWeekday today.weekday time) = now.resolveTime (.inOneWeek time) ∧
    (∀ days, now.resolveTime (.inDays days time) ≠ .crash) ∧
    ∀ days e, now.resolveTime (.inDays days time) = .error e ↔
      e = .invalidTime time.hours time.minutes ∧
        ∀ (t : HourMinute) (d : Date), time = ⟨t.hour, t.minute⟩ →
          d.number = today.number + days → now.zone.localize? (d.reading t) = none := by
  refine ⟨?_, ?_, ?_, ?_, ?_, ?_, ?_, ?_, ?_⟩
  · exact resolveTime_congr htoday nofun nofun rfl fun _ => rfl
  · exact resolveTime_congr htoday nofun nofun rfl fun _ => rfl
  · exact resolveTime_congr htoday nofun nofun rfl fun _ => rfl
  · intro p hp
    rcases List.mem_pair.mp hp with rfl | rfl
    · exact resolveTime_of_nextTime htoday rfl
    · exact resolveTime_of_nextTime htoday rfl
  · intro hours
    exact resolveTime_congr htoday nofun nofun rfl fun _ => rfl
  · intro w
    obtain ⟨k, hk⟩ : ∃ k, IsLeast
        {j : Nat | 1 ≤ j ∧ Weekday.ofDayNumber (today.number + j) = w} k :=
      ⟨_, Weekday.isLeast_daysUntil today.number w⟩
    refine ⟨k, hk, Weekday.le_seven_of_isLeast hk, ?_, ?_, ?_⟩
    · exact resolveTime_of_weekdayAhead htoday rfl hk rfl
    · exact resolveTime_of_weekdayAhead htoday rfl hk rfl
    · intro weeks
      exact resolveTime_of_weekdayAhead htoday rfl hk rfl
  · -- The name of today comes again in a week.
    have hagain : now.resolveTime (.onWeekday today.weekday time) =
        now.resolveTime (.inDays 7 time) :=
      resolveTime_of_weekdayAhead htoday rfl (Weekday.isLeast_seven today.number) rfl
    rw [hagain]
    exact resolveTime_congr htoday nofun nofun rfl fun _ => rfl
  · intro days
    exact resolveTime_ne_crash htoday
  · intro days e
    exact resolveTime_inDays_eq_error_iff htoday

/-- On the Thursday before Apia left out a day, noon on Friday is refused as
noon in one day is, and Thursday is a week away. -/
theorem resolveTime_agrees_inDays_apia :
    (∃ today, thursdayInApia.date? = some today) ∧
    thursdayInApia.resolveTime (.onWeekday .friday ⟨12, 0⟩) =
      thursdayInApia.resolveTime (.inDays 1 ⟨12, 0⟩) ∧
    thursdayInApia.resolveTime (.inDays 1 ⟨12, 0⟩) = .error (.invalidTime 12 0) ∧
    thursdayInApia.resolveTime (.onWeekday .thursday ⟨12, 0⟩) =
      thursdayInApia.resolveTime (.inOneWeek ⟨12, 0⟩) := by
  have htoday : thursdayInApia.date? = some ⟨15337, by decide, by decide⟩ := by decide +kernel
  obtain ⟨-, -, -, -, -, hweekday, hweek, -, hrefused⟩ := resolveTime_agrees_inDays htoday ⟨12, 0⟩
  obtain ⟨k, hk, -, hfriday, -⟩ := hweekday .friday
  obtain rfl : k = 1 := hk.unique (Weekday.isLeast_daysUntil 15337 .friday)
  refine ⟨⟨_, htoday⟩, hfriday, ?_, hweek⟩
  rw [hrefused]
  refine ⟨rfl, ?_⟩
  intro time d htime hd
  have hnoon : thursdayInApia.zone.localize?
      (fridayOfApia.reading ⟨12, 0, by decide, by decide⟩) = none := by decide +kernel
  obtain rfl : time = ⟨12, 0, by decide, by decide⟩ :=
    HourMinute.ext (congrArg WrittenTime.hours htime).symm
      (congrArg WrittenTime.minutes htime).symm
  obtain rfl : d = fridayOfApia := Date.ext hd
  exact hnoon

end DueTime.ZonedTime
