/-
DueTime.Proofs.Resolution.Repeat — a pattern that is asked for again and
again.

In a run each step resolves one pattern against the clock that the step
before has set (`TimePattern.Repeats`). The clock of a step has landed: it
is at the instant of the time on some day, and it shows that day
(`Aim.LandedOn`). From such a clock an aim leads ahead by a number of days
that is its own (`Aim.stride`): a weekday is seven days away, and the next
moment of a time is tomorrow's, since today's is now. So a run of any length
counts off its days evenly, whatever the offset does on the way, and in any
zone (`Aim.LandedOn.of_repeats`). `repeat_eq_counted` compares it with the
patterns that count days and weeks themselves.
-/
import DueTime.Proofs.Resolution.WeekdayLaw

namespace DueTime

/-! ## Runs -/

/-- The pattern resolves to `t`, and `t` shows the day that was aimed
at. -/
structure TimePattern.Lands (p : TimePattern) (now t : ZonedTime) : Prop where
  resolve_eq : now.resolve p = .ok ⟨t, p⟩
  day_eq : ∃ l, p.AimsAt now l ∧ t.reading.dayNumber = l.dayNumber

/-- A pattern lands at the instant of its time on the day that it means, if
the instant shows that day. -/
theorem TimePattern.lands_of_localize? {now : ZonedTime} {p : TimePattern} {time : HourMinute}
    {today : Date} {k : Nat} (htime : p.time = ⟨time.hour, time.minute⟩)
    (htoday : now.date? = some today) (hk : p.MeansDay now today time k) {d : Date}
    (hd : d.number = today.number + k) {i : Instant}
    (hi : now.zone.localize? (d.reading time) = some i)
    (hday : (now.zone.reading i).dayNumber = d.number) : p.Lands now ⟨now.zone, i⟩ where
  resolve_eq := (ZonedTime.resolve_eq_ok_iff htime htoday hk).mpr ⟨d, hd, i, hi, rfl⟩
  day_eq := by
    refine ⟨d.reading time, ⟨time, today, d, k, htime, htoday, hk, hd, rfl⟩, ?_⟩
    rw [Date.reading_dayNumber]
    exact hday

/-- The pattern lands so many times: from `now`, then each time from where
it has landed, and at last on `t`. -/
inductive TimePattern.Repeats (p : TimePattern) : Nat → ZonedTime → ZonedTime → Prop
  | zero (now : ZonedTime) : Repeats p 0 now now
  | succ {n : Nat} {now t u : ZonedTime} (h : p.Lands now t) (hrest : Repeats p n t u) :
    Repeats p (n + 1) now u

namespace Aim

/-- The days that the aim leads ahead from where it has landed. -/
def stride : Aim → Nat
  | daysAhead days => days
  | nextTime => 1
  | weekdayAhead _ weeks => 7 + 7 * weeks
  | past | elapsed => 0

/-- The clock is at the instant of the time on a day, it shows that day,
and the day has the name that the aim asks for. -/
structure LandedOn (a : Aim) (time : HourMinute) (t : ZonedTime) (d : Date) : Prop where
  date_eq : t.date? = some d
  localize_eq : t.zone.localize? (d.reading time) = some t.instant
  weekday_eq : ∀ w weeks, a = weekdayAhead w weeks → d.weekday = w

variable {now t : ZonedTime} {today d : Date} {time : HourMinute} {a : Aim} {p : TimePattern}
  {n k : Nat}

/-! ## One step -/

/-- The day that a weekday leads to has the name. -/
theorem Leads.weekday_eq (h : a.Leads now today time k) (hd : d.number = today.number + k)
    (w : Weekday) (weeks : Nat) (ha : a = .weekdayAhead w weeks) : d.weekday = w := by
  cases h with
  | daysAhead days => cases ha
  | nextTime hi => cases ha
  | weekdayAhead weeks hj =>
    cases ha
    have hname := Weekday.ofDayNumber_eq_iff.mp hj.1.2
    refine Weekday.ofDayNumber_eq_iff.mpr ?_
    omega

/-- From where it has landed, an aim leads ahead by its stride. -/
theorem LandedOn.leads_eq_stride (hnow : a.LandedOn time now d) (h : a.Leads now d time k) :
    k = a.stride := by
  cases h with
  | daysAhead days => rfl
  | @nextTime i hi =>
    -- Today's instant is the clock's own, so it is not still to come.
    obtain rfl : i = now.instant := Option.some.inj (hi.symm.trans hnow.localize_eq)
    have hself : ¬ now.instant < now.instant := by
      rw [Instant.lt_iff]
      omega
    rw [if_neg hself]
    rfl
  | @weekdayAhead w j weeks hj =>
    have hname : Weekday.ofDayNumber d.number = w := hnow.weekday_eq w weeks rfl
    rw [← hname] at hj
    rw [hj.unique (Weekday.isLeast_seven d.number)]
    rfl

/-- A pattern that lands has led from the clock's day to the one that it
landed on. -/
theorem exists_landedOn_of_lands (htime : p.time = ⟨time.hour, time.minute⟩) (h : p.Lands now t) :
    ∃ (today d : Date) (k : Nat), now.date? = some today ∧ p.aim.Leads now today time k ∧
      d.number = today.number + k ∧ t.zone = now.zone ∧ p.aim.LandedOn time t d := by
  obtain ⟨l, hl, hday⟩ := h.day_eq
  obtain ⟨time', today, d, k, htime', htoday, hk, hd, rfl⟩ := hl
  obtain rfl := TimePattern.time_unique htime' htime
  obtain ⟨d', hd', i, hi, hr⟩ := (ZonedTime.resolve_eq_ok_iff htime' htoday hk).mp h.resolve_eq
  obtain rfl : d' = d := Date.ext (hd'.trans hd.symm)
  obtain rfl : t = ⟨now.zone, i⟩ := congrArg Resolution.time hr
  rw [Date.reading_dayNumber] at hday
  have hleads := TimePattern.meansDay_iff_leads.mp hk
  exact ⟨today, d', k, htoday, hleads, hd, rfl, ZonedTime.date?_eq_some_iff.mpr hday.symm, hi,
    hleads.weekday_eq hd⟩

/-! ## Runs count off days -/

/-- A step from where the pattern has landed goes on by the stride. -/
theorem LandedOn.of_lands (htime : p.time = ⟨time.hour, time.minute⟩)
    (hnow : p.aim.LandedOn time now d) (h : p.Lands now t) :
    ∃ e : Date, e.number = d.number + p.aim.stride ∧ t.zone = now.zone ∧
      p.aim.LandedOn time t e := by
  obtain ⟨today, e, k, htoday, hleads, he, hzone, ht⟩ := exists_landedOn_of_lands htime h
  obtain rfl : today = d := Option.some.inj (htoday.symm.trans hnow.date_eq)
  rw [hnow.leads_eq_stride hleads] at he
  exact ⟨e, he, hzone, ht⟩

/-- A run from where the pattern has landed goes on by the stride at each
step. -/
theorem LandedOn.of_repeats (htime : p.time = ⟨time.hour, time.minute⟩)
    (hnow : p.aim.LandedOn time now d) (h : p.Repeats n now t) :
    ∃ e : Date, e.number = d.number + p.aim.stride * n ∧ t.zone = now.zone ∧
      p.aim.LandedOn time t e := by
  induction h generalizing d with
  | zero now => exact ⟨d, by simp, rfl, hnow⟩
  | @succ n now t u hstep hrest ih =>
    obtain ⟨e, he, hzone, ht⟩ := hnow.of_lands htime hstep
    obtain ⟨f, hf, hzone', hu⟩ := ih ht
    have hsum : f.number = d.number + p.aim.stride * (n + 1 : Nat) := by
      rw [hf, he, Int.natCast_add, Int.mul_add]
      omega
    exact ⟨f, hsum, hzone'.trans hzone, hu⟩

/-- A run of one step at least goes to the day that the aim leads to at
first, and on from there by the stride. -/
theorem exists_landedOn_of_repeats (htime : p.time = ⟨time.hour, time.minute⟩)
    (h : p.Repeats (n + 1) now t) :
    ∃ (today d : Date) (k : Nat), now.date? = some today ∧ p.aim.Leads now today time k ∧
      d.number = today.number + k + p.aim.stride * n ∧ t.zone = now.zone ∧
      p.aim.LandedOn time t d := by
  cases h with
  | succ hstep hrest =>
    obtain ⟨today, d, k, htoday, hleads, hd, hzone, hfirst⟩ := exists_landedOn_of_lands htime hstep
    obtain ⟨e, he, hzone', ht⟩ := hfirst.of_repeats htime hrest
    exact ⟨today, e, k, htoday, hleads, by rw [he, hd], hzone'.trans hzone, ht⟩

end Aim

/-! ## Runs and counts -/

namespace ZonedTime

variable {now t : ZonedTime} {p : TimePattern} {time : HourMinute}

/-- A pattern that means the day on which a clock of the zone has landed
resolves to that clock. -/
theorem resolve_eq_of_landedOn {a : Aim} {today d : Date} {k : Nat}
    (htime : p.time = ⟨time.hour, time.minute⟩) (htoday : now.date? = some today)
    (hk : p.MeansDay now today time k) (hd : d.number = today.number + k)
    (hzone : t.zone = now.zone) (ht : a.LandedOn time t d) : now.resolve p = .ok ⟨t, p⟩ := by
  refine (resolve_eq_ok_iff htime htoday hk).mpr ⟨d, hd, t.instant, ?_, ?_⟩
  · rw [← hzone]
    exact ht.localize_eq
  · rw [← hzone]

/-- `n` tomorrows are `n` days, a weekday asked for once and `n` times more
is `n` weeks after the first of its name, and the next moment of a time, once
it has landed on a day, comes on each of the days after it. -/
theorem repeat_eq_counted (now t : ZonedTime) (time : HourMinute) (n : Nat) :
    (1 ≤ n → TimePattern.Repeats (.tomorrow ⟨time.hour, time.minute⟩) n now t →
      now.resolve (.inDays n ⟨time.hour, time.minute⟩) =
        .ok ⟨t, .inDays n ⟨time.hour, time.minute⟩⟩) ∧
    (∀ w, TimePattern.Repeats (.onWeekday w ⟨time.hour, time.minute⟩) (n + 1) now t →
      now.resolve (.inWeeksOnWeekday n w ⟨time.hour, time.minute⟩) =
        .ok ⟨t, .inWeeksOnWeekday n w ⟨time.hour, time.minute⟩⟩) ∧
    ∀ (p : TimePattern) (first : ZonedTime), p.aim = .nextTime →
      p.time = ⟨time.hour, time.minute⟩ → p.Lands now first → p.Repeats n first t →
        ∃ d : Date, d.number = first.reading.dayNumber + n ∧ now.onDate? d time = some t ∧
          t.reading.dayNumber = d.number := by
  refine ⟨?_, ?_, ?_⟩
  · intro hn hrun
    obtain ⟨m, rfl⟩ := Nat.exists_eq_add_of_le' hn
    obtain ⟨today, d, k, htoday, hleads, hd, hzone, ht⟩ :=
      Aim.exists_landedOn_of_repeats rfl hrun
    cases hleads
    refine resolve_eq_of_landedOn rfl htoday rfl ?_ hzone ht
    simp only [TimePattern.aim, Aim.stride] at hd
    omega
  · intro w hrun
    obtain ⟨today, d, k, htoday, hleads, hd, hzone, ht⟩ :=
      Aim.exists_landedOn_of_repeats rfl hrun
    cases hleads with
    | weekdayAhead _ hj =>
      refine resolve_eq_of_landedOn rfl htoday ⟨_, hj, rfl⟩ ?_ hzone ht
      simp only [TimePattern.aim, Aim.stride] at hd
      omega
  · intro p first haim htime hfirst hrun
    obtain ⟨today, e, k, -, -, -, hzone, hlanded⟩ := Aim.exists_landedOn_of_lands htime hfirst
    obtain ⟨d, hd, hzone', ht⟩ := hlanded.of_repeats htime hrun
    have he : e.number = first.reading.dayNumber := date?_eq_some_iff.mp hlanded.date_eq
    have hshown : d.number = t.reading.dayNumber := date?_eq_some_iff.mp ht.date_eq
    have hsame : t.zone = now.zone := hzone'.trans hzone
    refine ⟨d, ?_, ?_, hshown.symm⟩
    · rw [haim] at hd
      simp only [Aim.stride] at hd
      omega
    · refine onDate?_eq_some_iff.mpr ⟨t.instant, ?_, ?_⟩
      · rw [← hsame]
        exact ht.localize_eq
      · rw [← hsame]

/-- The moment that stands for half past one on Sunday, 2024-03-31, in
London: clocks skipped it and show half past two. -/
def sundayInLondon : ZonedTime :=
  ⟨Zone.london, ⟨1711848600, 0, zero_nanos_lt⟩, by decide⟩

/-- Half past one on the day after. -/
def mondayInLondon : ZonedTime :=
  ⟨Zone.london, ⟨1711931400, 0, zero_nanos_lt⟩, by decide⟩

/-- Half past one on the Sunday after. -/
def nextSundayInLondon : ZonedTime :=
  ⟨Zone.london, ⟨1712449800, 0, zero_nanos_lt⟩, by decide⟩

/-- From the day before the gap, through it and on: two tomorrows, a
weekday and the same again, and the next half past one after the one that
was moved. -/
theorem repeat_eq_counted_london :
    (TimePattern.Repeats (.tomorrow ⟨1, 30⟩) 2 saturdayInLondon mondayInLondon ∧
      saturdayInLondon.resolve (.inDays 2 ⟨1, 30⟩) = .ok ⟨mondayInLondon, .inDays 2 ⟨1, 30⟩⟩) ∧
    (TimePattern.Repeats (.onWeekday .sunday ⟨1, 30⟩) 2 saturdayInLondon nextSundayInLondon ∧
      saturdayInLondon.resolve (.inWeeksOnWeekday 1 .sunday ⟨1, 30⟩) =
        .ok ⟨nextSundayInLondon, .inWeeksOnWeekday 1 .sunday ⟨1, 30⟩⟩) ∧
    TimePattern.Lands (.today ⟨1, 30⟩) saturdayInLondon sundayInLondon ∧
      TimePattern.Repeats (.today ⟨1, 30⟩) 1 sundayInLondon mondayInLondon ∧
      ∃ d : Date, d.number = sundayInLondon.reading.dayNumber + 1 ∧
        saturdayInLondon.onDate? d halfPastOne = some mondayInLondon := by
  let saturday : Date := ⟨19812, by decide, by decide⟩
  let sunday : Date := ⟨19813, by decide, by decide⟩
  let monday : Date := ⟨19814, by decide, by decide⟩
  let nextSunday : Date := ⟨19820, by decide, by decide⟩
  obtain ⟨hpassed, hfirst, hsecond, hweek⟩ :
      Zone.london.localize? (saturday.reading halfPastOne) =
          some ⟨⟨1711762200, 0, zero_nanos_lt⟩, by decide⟩ ∧
        Zone.london.localize? (sunday.reading halfPastOne) = some sundayInLondon.instant ∧
        Zone.london.localize? (monday.reading halfPastOne) = some mondayInLondon.instant ∧
        Zone.london.localize? (nextSunday.reading halfPastOne) =
          some nextSundayInLondon.instant := by
    decide +kernel
  obtain ⟨hsaturday, hsunday, hmonday, hnextSunday⟩ :
      saturday.number = saturdayInLondon.reading.dayNumber ∧
        sundayInLondon.reading.dayNumber = sunday.number ∧
        mondayInLondon.reading.dayNumber = monday.number ∧
        nextSundayInLondon.reading.dayNumber = nextSunday.number := by
    decide +kernel
  have hstart : saturdayInLondon.date? = some saturday := date?_eq_some_iff.mpr hsaturday
  have hgap : sundayInLondon.date? = some sunday := date?_eq_some_iff.mpr hsunday.symm
  have htime : (⟨1, 30⟩ : WrittenTime) = ⟨halfPastOne.hour, halfPastOne.minute⟩ := rfl
  -- Two tomorrows.
  have htomorrow : TimePattern.Lands (.tomorrow ⟨1, 30⟩) saturdayInLondon sundayInLondon :=
    TimePattern.lands_of_localize? (p := .tomorrow ⟨1, 30⟩) (k := 1) htime hstart rfl (by decide)
      hfirst hsunday
  have htomorrow' : TimePattern.Lands (.tomorrow ⟨1, 30⟩) sundayInLondon mondayInLondon :=
    TimePattern.lands_of_localize? (p := .tomorrow ⟨1, 30⟩) (k := 1) htime hgap rfl (by decide)
      hsecond hmonday
  have hdays : TimePattern.Repeats (.tomorrow ⟨1, 30⟩) 2 saturdayInLondon mondayInLondon :=
    .succ htomorrow (.succ htomorrow' (.zero _))
  -- Two Sundays.
  have hnamed : TimePattern.Lands (.onWeekday .sunday ⟨1, 30⟩) saturdayInLondon sundayInLondon :=
    TimePattern.lands_of_localize? (p := .onWeekday .sunday ⟨1, 30⟩) htime hstart
      (Weekday.isLeast_daysUntil saturday.number .sunday) (by decide) hfirst hsunday
  have hnamed' : TimePattern.Lands (.onWeekday .sunday ⟨1, 30⟩) sundayInLondon
      nextSundayInLondon :=
    TimePattern.lands_of_localize? (p := .onWeekday .sunday ⟨1, 30⟩) (k := 7) htime hgap
      (Weekday.isLeast_seven sunday.number) (by decide) hweek hnextSunday
  have hweeks : TimePattern.Repeats (.onWeekday .sunday ⟨1, 30⟩) 2 saturdayInLondon
      nextSundayInLondon :=
    .succ hnamed (.succ hnamed' (.zero _))
  -- The next half past one, and the next again.
  have htoday : TimePattern.Lands (.today ⟨1, 30⟩) saturdayInLondon sundayInLondon :=
    TimePattern.lands_of_localize? (p := .today ⟨1, 30⟩) (k := 1) htime hstart
      ⟨_, hpassed, rfl⟩ (by decide) hfirst hsunday
  have hagain : TimePattern.Lands (.today ⟨1, 30⟩) sundayInLondon mondayInLondon :=
    TimePattern.lands_of_localize? (p := .today ⟨1, 30⟩) (k := 1) htime hgap
      ⟨_, hfirst, rfl⟩ (by decide) hsecond hmonday
  have hnext : TimePattern.Repeats (.today ⟨1, 30⟩) 1 sundayInLondon mondayInLondon :=
    .succ hagain (.zero _)
  have hcounted := repeat_eq_counted saturdayInLondon
  obtain ⟨d, hd, hdate, -⟩ := (hcounted mondayInLondon halfPastOne 1).2.2 (.today ⟨1, 30⟩)
    sundayInLondon rfl htime htoday hnext
  exact ⟨⟨hdays, (hcounted mondayInLondon halfPastOne 2).1 (by decide) hdays⟩,
    ⟨hweeks, (hcounted nextSundayInLondon halfPastOne 1).2.1 .sunday hweeks⟩,
    htoday, hnext, d, hd, hdate⟩

end ZonedTime

end DueTime
