/-
DueTime.Proofs.Resolution.WeekdayLaw — which day a reminder for a weekday
falls on.

The day that is chosen is always right (`weekdayAhead?_spec`): it has the
name, and it is so many weeks and one to seven days away. But the instant
is found afterwards, and a reading that is moved out of a gap may be moved
past midnight. `weekday_law` says when that happens. In a regular zone the
reminder is then a day late, and no zone of the table lets it happen but
the five of `zonesPastMidnight`.

Of the Friday that Apia left out the early hours have an instant, and it is
on Saturday (`nextWeekday?_apia`).
-/
import DueTime.Proofs.Resolution.Refusal
import DueTime.Proofs.Zone.Moved

namespace DueTime.ZonedTime

variable {now t : ZonedTime} {w : Weekday} {weeks : Nat} {time : HourMinute}

/-! ## The day that is chosen -/

/-- The day has the name, and it comes so many weeks and one to seven days
after the day of the clock. -/
structure IsNext (now : ZonedTime) (w : Weekday) (weeks : Nat) (day : Int) : Prop where
  name_eq : Weekday.ofDayNumber day = w
  lt_day : now.reading.dayNumber + 7 * weeks < day
  day_le : day ≤ now.reading.dayNumber + 7 * weeks + 7

theorem IsNext.unique {day day' : Int} (h : now.IsNext w weeks day)
    (h' : now.IsNext w weeks day') : day = day' := by
  have hname := Weekday.ofDayNumber_eq_iff.mp h.name_eq
  have hname' := Weekday.ofDayNumber_eq_iff.mp h'.name_eq
  have hlow := h.lt_day
  have hhigh := h.day_le
  have hlow' := h'.lt_day
  have hhigh' := h'.day_le
  omega

/-- The day that `daysUntil` and the weeks lead to is such a day. -/
theorem isNext_daysUntil {today : Date} (htoday : now.date? = some today) {d : Date}
    (hd : d.number = today.number + (today.weekday.daysUntil w + 7 * weeks : Nat)) :
    now.IsNext w weeks d.number := by
  have hnumber : today.number = now.reading.dayNumber := Date.ofNumber?_eq_some_iff.mp htoday
  obtain ⟨⟨hone, hname⟩, -⟩ := Weekday.isLeast_daysUntil today.number w
  have hseven := Weekday.daysUntil_le_seven today.weekday w
  have hsame : today.weekday = Weekday.ofDayNumber today.number := rfl
  rw [Weekday.ofDayNumber_eq_iff] at hname
  rw [← hsame] at hone hname
  exact ⟨Weekday.ofDayNumber_eq_iff.mpr (by omega), by omega, by omega⟩

/-- What a weekday leads to is the instant of its time on such a day. -/
theorem weekdayAhead?_spec (h : now.weekdayAhead? w weeks time = some t) :
    ∃ d : Date, now.IsNext w weeks d.number ∧
      ∃ i, now.zone.localize? (d.reading time) = some i ∧ t = ⟨now.zone, i⟩ := by
  have hfollow : now.follow? (.weekdayAhead w weeks) time = some t := h
  obtain ⟨today, htoday⟩ := exists_date?_of_follow? rfl hfollow
  rw [weekdayAhead?_eq_daysAhead? htoday (Weekday.isLeast_daysUntil today.number w)] at h
  obtain ⟨d, hd, i, hi, rfl⟩ := (daysAhead?_eq_some_iff htoday).mp h
  exact ⟨d, isNext_daysUntil htoday hd, i, hi, rfl⟩

/-! ## The day that the clock shows -/

/-- The clock gives an instant for a weekday and a time: by a pattern, or
directly. -/
inductive GivesWeekday (now : ZonedTime) (w : Weekday) : Nat → HourMinute → ZonedTime → Prop
  | resolve {p : TimePattern} {weeks : Nat} {time : HourMinute} {r : Resolution}
      (haim : p.aim = .weekdayAhead w weeks) (htime : p.time = ⟨time.hour, time.minute⟩)
      (h : now.resolve p = .ok r) : GivesWeekday now w weeks time r.time
  | next {time : HourMinute} {t : ZonedTime}
      (h : now.nextWeekday? w time.hour time.minute = .ok t) : GivesWeekday now w 0 time t

theorem GivesWeekday.weekdayAhead?_eq (h : now.GivesWeekday w weeks time t) :
    now.weekdayAhead? w weeks time = some t := by
  cases h with
  | resolve haim htime h =>
    obtain ⟨time', htime', -, hfollow, -⟩ := resolve_eq_ok_iff_follow?.mp h
    rw [haim] at hfollow
    obtain rfl := TimePattern.time_unique htime' htime
    exact hfollow
  | next h =>
    obtain ⟨time', hhour, hminute, hfound⟩ := nextWeekday?_eq_ok_iff.mp h
    obtain rfl : time' = time := HourMinute.ext hhour hminute
    exact hfound

/-- What a weekday leads to is on the next day of the name, so many weeks
on, exactly if the clock there still shows the day that was chosen. It
does, unless no instant is the first to show the time on that day, and the
change of offset that it is moved by carries it past midnight. In a regular
zone it is carried to the next day and no further, by the gap of a turn. It
never is in the zones of the table, five of them aside. -/
theorem weekday_law (h : now.GivesWeekday w weeks time t) :
    ∃ d : Date, now.IsNext w weeks d.number ∧
      (now.IsNext w weeks t.reading.dayNumber ↔ t.reading.dayNumber = d.number) ∧
      (t.reading = d.reading time ∨ (∀ i, ¬ now.zone.FirstShows (d.reading time) i) ∧
        t.reading = ⟨(d.reading time).relabel
          (t.offset - now.zone.offsetAt (t.instant.seconds - 6 * 3600))⟩) ∧
      (now.zone.Regular →
        (now.IsNext w weeks t.reading.dayNumber ↔
          ∀ c ∈ now.zone.turns, c.Skips (d.reading time).seconds →
            ((d.reading time).seconds + (c.after - c.before)) / secondsPerDay = d.number) ∧
        (¬ now.IsNext w weeks t.reading.dayNumber → t.reading.dayNumber = d.number + 1)) ∧
      ∀ name, Zone.named? name = some now.zone → name ∉ Zone.zonesPastMidnight →
        now.IsNext w weeks t.reading.dayNumber := by
  obtain ⟨d, hd, i, hi, rfl⟩ := weekdayAhead?_spec h.weekdayAhead?_eq
  have hnanos : (d.reading time).nanos < nanosPerSecond := by
    show 0 < nanosPerSecond
    decide
  have hiff : now.IsNext w weeks (now.zone.reading i).dayNumber ↔
      (now.zone.reading i).dayNumber = d.number :=
    ⟨fun hnext => hnext.unique hd, fun hsame => hsame ▸ hd⟩
  have hday := Date.reading_dayNumber d time
  refine ⟨d, hd, hiff, Zone.reading_of_localize? hnanos hi, fun hz => ?_,
    fun name hname hplain => ?_⟩
  · obtain ⟨hstays, hmoves⟩ := hz.dayNumber_of_localize? hnanos hi
    rw [hday] at hstays hmoves
    exact ⟨hiff.trans hstays, fun hnot => hmoves (mt hiff.mpr hnot)⟩
  · obtain ⟨hstays, -⟩ := (Zone.regular_of_named? hname).dayNumber_of_localize? hnanos hi
    rw [hday] at hstays
    refine hiff.mpr (hstays.mpr fun c hc hskips => ?_)
    rw [(Zone.keepsDay_of_named? hname hplain c hc).moved_eq hskips, ← hday]
    rfl

/-- Noon on Saturday, 2024-03-30, in London. -/
def saturdayInLondon : ZonedTime :=
  ⟨Zone.london, ⟨1711800000, 0, zero_nanos_lt⟩, by decide⟩

/-- Half past one at night. -/
def halfPastOne : HourMinute :=
  ⟨1, 30, by decide, by decide⟩

/-- Clocks in London skipped half past one on the next day. The reminder
for that Sunday is on it all the same, and the one for the Sunday after is
on that. -/
theorem weekday_law_london :
    (∃ t, saturdayInLondon.GivesWeekday .sunday 0 halfPastOne t ∧
      saturdayInLondon.IsNext .sunday 0 t.reading.dayNumber) ∧
    ∃ t, saturdayInLondon.GivesWeekday .sunday 1 halfPastOne t ∧
      saturdayInLondon.IsNext .sunday 1 t.reading.dayNumber := by
  have hname : Zone.named? "Europe/London" = some saturdayInLondon.zone := rfl
  have hplain : "Europe/London" ∉ Zone.zonesPastMidnight := by decide
  obtain ⟨t, ht⟩ : ∃ t, saturdayInLondon.nextWeekday? .sunday 1 30 = .ok t :=
    Result.isOk_iff.mp (by decide +kernel)
  obtain ⟨u, hu⟩ : ∃ u, saturdayInLondon.follow? (.weekdayAhead .sunday 1) halfPastOne = some u :=
    Option.isSome_iff_exists.mp (by decide +kernel)
  have hnext : saturdayInLondon.GivesWeekday .sunday 0 halfPastOne t := .next ht
  have hweek : saturdayInLondon.GivesWeekday .sunday 1 halfPastOne u :=
    .resolve (p := .inWeeksOnWeekday 1 .sunday ⟨1, 30⟩) (r := ⟨u, _⟩) rfl rfl
      (resolve_eq_ok_iff_follow?.mpr ⟨halfPastOne, rfl, nofun, hu, rfl⟩)
  obtain ⟨d, -, -, -, -, hlaw⟩ := weekday_law hnext
  obtain ⟨e, -, -, -, -, hlaw'⟩ := weekday_law hweek
  exact ⟨⟨t, hnext, hlaw _ hname hplain⟩, u, hweek, hlaw' _ hname hplain⟩

/-- Five o'clock on Friday is asked for on Thursday in Apia, and the
instant is on Saturday. -/
theorem nextWeekday?_apia :
    Zone.named? "Pacific/Apia" = some thursdayInApia.zone ∧
      ∃ t, thursdayInApia.nextWeekday? .friday 5 0 = .ok t ∧
        Weekday.ofDayNumber t.reading.dayNumber = .saturday ∧
        ¬ thursdayInApia.IsNext .friday 0 t.reading.dayNumber := by
  have hfound : (thursdayInApia.nextWeekday? .friday 5 0).toOption.any
      (fun t => Weekday.ofDayNumber t.reading.dayNumber = .saturday) := by
    decide +kernel
  obtain ⟨t, ht, hday⟩ := (Option.any_eq_true _ _).mp hfound
  have hsaturday := of_decide_eq_true hday
  refine ⟨named?_apia, t, Result.toOption_eq_some_iff.mp ht, hsaturday, fun hnext => ?_⟩
  have hfriday := hnext.name_eq
  rw [hsaturday] at hfriday
  cases hfriday

end DueTime.ZonedTime
