/-
DueTime.Proofs.Resolution.Past — when a reminder is not in the future.

A calendar pattern aims at a reading, and its reminder is in the past
exactly when that reading has passed (`ZonedTime.HasPassed`): clocks in
the zone have shown it, or, if they never do, showed the reading of six
hours earlier six hours ago. For a reading of today the resolver looks at
the clock and rolls over to tomorrow; only `in 0 days` does not. For a
reading of a later day it does not look, and a clock that was put back
across midnight has shown readings of tomorrow already.
`resolveToken_le_now_iff` puts this together. In a regular zone a reading
of a later day has passed only if a turn put the clocks back over it: a
gap never leads into the past.

St. John's put its clocks back at one minute past midnight until 2011.
In the hour before the second midnight each way to ask for the midnight to
come gives the one that has been (`resolveToken_past_stJohns`).
-/
import DueTime.Proofs.Resolution.TargetDay
import DueTime.Proofs.Zone.Localize

namespace DueTime

/-! ## Readings that have passed -/

/-- Clocks in the zone have shown the reading for the first time by now;
or none ever shows it, and they first showed the reading of six hours
earlier six hours ago or before. -/
def ZonedTime.HasPassed (now : ZonedTime) (l : Reading) : Prop :=
  (∃ i, now.zone.FirstShows l i ∧ i ≤ now.instant) ∨
    (∀ i, ¬ now.zone.FirstShows l i) ∧
      ∃ v, now.zone.FirstShows (l.hoursEarlier 6) v ∧
        v.relabel (3600 * 6) ≤ now.instant.toTimePoint

namespace ZonedTime

variable {now : ZonedTime} {l : Reading}

/-- A reading has passed when the instant that it stands for has. -/
theorem hasPassed_iff_of_localize? (hl : l.nanos < nanosPerSecond) {i : Instant}
    (hi : now.zone.localize? l = some i) : now.HasPassed l ↔ i ≤ now.instant := by
  by_cases hshown : ∃ j, now.zone.FirstShows l j
  · obtain ⟨j, hj⟩ := hshown
    obtain rfl : j = i := by
      rw [Zone.localize?_of_firstShows hj] at hi
      exact Option.some.inj hi
    constructor
    · rintro (⟨k, hk, hle⟩ | ⟨hnone, -⟩)
      · rwa [hj.unique hk]
      · exact absurd hj (hnone j)
    · intro hle
      exact Or.inl ⟨j, hj, hle⟩
  · have hnone := not_exists.mp hshown
    rw [Zone.localize?_of_not_firstShows hnone, Zone.instantPastGap?_eq_some_iff hl] at hi
    obtain ⟨-, v, hv, hiv⟩ := hi
    have hle : i ≤ now.instant ↔ v.relabel (3600 * 6) ≤ now.instant.toTimePoint := by
      rw [← hiv]
      rfl
    rw [hle]
    constructor
    · rintro (⟨k, hk, -⟩ | ⟨-, w, hw, hle⟩)
      · exact absurd hk (hnone k)
      · rwa [hv.unique hw]
    · intro hle
      exact Or.inr ⟨hnone, v, hv, hle⟩

/-- In a regular zone a reading later than the clock's has passed only if
an instant up to now had it. -/
theorem hasPassed_iff_of_regular (hz : now.zone.Regular)
    (hlater : now.reading.seconds < l.seconds) :
    now.HasPassed l ↔ ∃ i ≤ now.instant, now.zone.reading i = l := by
  constructor
  · rintro (⟨i, hi, hle⟩ | ⟨hnone, v, hv, hle⟩)
    · exact ⟨i, hle, hi.reading_eq⟩
    · exact absurd hle (TimePoint.not_le.mpr (hz.lt_relabel_of_localSecond_lt hnone hlater hv))
  · rintro ⟨i, hle, hi⟩
    obtain ⟨first, hfirst⟩ := hz.ordinary.exists_firstShows hi
    exact Or.inl ⟨first, hfirst, Instant.le_trans (hfirst.le hi) hle⟩

/-! ## Offsets -/

theorem addMinutes?_of_resolve_offset {length : WrittenTime} {r : Resolution}
    (h : now.resolve (.relativeOffset .plus length) = .ok r) :
    now.instant.addMinutes? (60 * length.hours + length.minutes) = some r.time.instant := by
  obtain ⟨time, htime, hi⟩ := exists_addMinutes?_of_resolve h rfl
  obtain rfl : length = ⟨time.hour, time.minute⟩ := htime
  exact hi

/-- An offset is not in the future only if it has no length. -/
theorem resolve_offset_le_iff {length : WrittenTime} {r : Resolution}
    (h : now.resolve (.relativeOffset .plus length) = .ok r) :
    r.time.instant ≤ now.instant ↔ length = ⟨0, 0⟩ := by
  rw [Instant.addMinutes?_le_iff (addMinutes?_of_resolve_offset h)]
  obtain ⟨hours, minutes⟩ := length
  rw [WrittenTime.mk.injEq]
  show 60 * hours + minutes = 0 ↔ _
  omega

/-! ## Days -/

/-- A pattern that means today counts its days from today, or has found
today's instant still to come. -/
theorem meansDay_zero {p : TimePattern} {today : Date} {time : HourMinute}
    (h : p.MeansDay now today time 0) :
    (∃ w, p = .inDays 0 w) ∨
      ∃ i, now.zone.localize? (today.reading time) = some i ∧ now.instant < i := by
  have hroll {i : Instant} (hi : 0 = if now.instant < i then 0 else 1) : now.instant < i := by
    by_contra hlt
    rw [if_neg hlt] at hi
    exact absurd hi (by decide)
  cases p with
  | relativeOffset sign w => exact h.elim
  | tomorrow w => exact nomatch (show 0 = 1 from h)
  | dayAfterTomorrow w => exact nomatch (show 0 = 2 from h)
  | inDays days w =>
    obtain rfl : 0 = days := h
    exact Or.inl ⟨w, rfl⟩
  | inOneWeek w => exact nomatch (show 0 = 7 from h)
  | onWeekday w t => exact absurd h.1.1 (by decide)
  | inOneWeekOnWeekday w t => exact absurd h.1.1 (by decide)
  | inWeeksOnWeekday weeks w t =>
    obtain ⟨j, hj, hzero⟩ := h
    have := hj.1.1
    omega
  | today w =>
    obtain ⟨i, hi, hzero⟩ := h
    exact Or.inr ⟨i, hi, hroll hzero⟩
  | plainTime w =>
    obtain ⟨i, hi, hzero⟩ := h
    exact Or.inr ⟨i, hi, hroll hzero⟩
  | plainHour hours =>
    obtain ⟨i, hi, hzero⟩ := h
    exact Or.inr ⟨i, hi, hroll hzero⟩

/-- A calendar pattern whose instant is not in the future counts no days,
or points at a later day. -/
theorem inDays_zero_or_later {p : TimePattern} {r : Resolution} (h : now.resolve p = .ok r)
    (hl : p.AimsAt now l) (hle : r.time.instant ≤ now.instant) :
    (∃ w, p = .inDays 0 w) ∨ now.reading.dayNumber < l.dayNumber := by
  have hlocalize := localize?_of_aimsAt h hl
  obtain ⟨time, today, d, k, htime, htoday, hk, hd, rfl⟩ := hl
  have hday : today.number = now.reading.dayNumber := Date.ofNumber?_eq_some_iff.mp htoday
  rw [Date.reading_dayNumber]
  cases k with
  | zero =>
    rcases meansDay_zero hk with hinDays | ⟨i, hi, hlt⟩
    · exact Or.inl hinDays
    · obtain rfl : d = today := Date.ext (by omega)
      rw [hi] at hlocalize
      cases hlocalize
      exact absurd hle (Instant.not_le.mpr hlt)
  | succ k => exact Or.inr (by omega)

/-! ## The exact condition -/

/-- A token resolves to an instant that is not in the future exactly when
it asks for no length of time, or points at a reading that has passed,
and then it counts no days or points at a later day. In a regular zone a
reading of a later day has passed when an instant up to now had it, which
is to say that a turn put the clocks back over it. -/
theorem resolveToken_le_now_iff {token : String} {r : Resolution}
    (h : now.resolveToken token = .ok r) :
    (r.time.instant ≤ now.instant ↔
      r.pattern = .relativeOffset .plus ⟨0, 0⟩ ∨
        ∃ l, r.pattern.AimsAt now l ∧ now.HasPassed l ∧
          ((∃ w, r.pattern = .inDays 0 w) ∨ now.reading.dayNumber < l.dayNumber)) ∧
    (r.pattern = .relativeOffset .plus ⟨0, 0⟩ → r.time.instant = now.instant) ∧
    (now.zone.Regular → ∀ l, r.pattern.AimsAt now l → now.reading.dayNumber < l.dayNumber →
      (now.HasPassed l ↔ ∃ i ≤ now.instant, now.zone.reading i = l) ∧
        (now.HasPassed l ↔ ∃ c ∈ now.zone.turns,
          c.start ≤ now.instant.seconds ∧ l.seconds < c.start + c.before)) := by
  obtain ⟨p, hp⟩ : ∃ p, now.resolve p = .ok r := by
    rw [resolveToken] at h
    cases hclassify : Token.classify token with
    | none =>
      rw [hclassify] at h
      cases h
    | some p =>
      rw [hclassify] at h
      exact ⟨p, h⟩
  obtain ⟨-, -, -, -, hpattern⟩ := resolve_eq_ok_iff_follow?.mp hp
  rw [hpattern]
  have hpassed {l : Reading} (hl : p.AimsAt now l) :
      now.HasPassed l ↔ r.time.instant ≤ now.instant := by
    have hlocalize := localize?_of_aimsAt hp hl
    obtain ⟨time, today, d, k, -, -, -, -, rfl⟩ := hl
    exact hasPassed_iff_of_localize? (show 0 < nanosPerSecond by decide) hlocalize
  refine ⟨⟨fun hle => ?_, ?_⟩, ?_, fun hz l hl hday => ?_⟩
  · by_cases helapsed : p.aim = .elapsed
    · obtain ⟨length, rfl⟩ : ∃ length, p = .relativeOffset .plus length := by
        cases p with
        | relativeOffset sign w =>
          cases sign
          · exact ⟨w, rfl⟩
          · cases helapsed
        | _ => cases helapsed
      rw [(resolve_offset_le_iff hp).mp hle]
      exact Or.inl rfl
    · obtain ⟨l, hl⟩ := exists_aimsAt hp helapsed
      exact Or.inr ⟨l, hl, (hpassed hl).mpr hle, inDays_zero_or_later hp hl hle⟩
  · rintro (rfl | ⟨l, hl, hpast, -⟩)
    · exact (resolve_offset_le_iff hp).mpr rfl
    · exact (hpassed hl).mp hpast
  · rintro rfl
    have hadd : now.instant.addMinutes? 0 = some r.time.instant :=
      addMinutes?_of_resolve_offset hp
    rw [Instant.addMinutes?_zero] at hadd
    exact (Option.some.inj hadd).symm
  · have hlater : now.reading.seconds < l.seconds := by
      simp only [Reading.dayNumber, secondsPerDay] at hday
      omega
    have hshown := hasPassed_iff_of_regular hz hlater
    exact ⟨hshown, hshown.trans (hz.exists_reading_eq_iff_turn hlater)⟩

/-- The second time that clocks in St. John's showed half past eleven on
Saturday, 2010-11-06: half an hour earlier, at one minute past midnight,
they were put back. -/
def saturdayInStJohns : ZonedTime :=
  ⟨Zone.stJohns, ⟨1289098800, 0, zero_nanos_lt⟩, by decide⟩

/-- Four ways to ask for the coming midnight, and what they mean. -/
def midnightTokens : List (String × TimePattern) :=
  [("0", .plainHour 0), ("today 0:00", .today ⟨0, 0⟩), ("tomorrow 0", .tomorrow ⟨0, 0⟩),
   ("sunday 0", .onWeekday .sunday ⟨0, 0⟩)]

theorem midnightTokens_early :
    ∀ entry ∈ midnightTokens, ∃ r, saturdayInStJohns.resolveToken entry.1 = .ok r ∧
      r.pattern = entry.2 ∧ r.time.instant < saturdayInStJohns.instant := by
  have hall : ∀ entry ∈ midnightTokens,
      (match saturdayInStJohns.resolveToken entry.1 with
        | .ok r => decide (r.pattern = entry.2 ∧ r.time.instant < saturdayInStJohns.instant)
        | .error _ | .crash => false) = true := by
    decide +kernel
  intro entry hentry
  have hentry := hall entry hentry
  split at hentry
  · rename_i r hr
    exact ⟨r, hr, of_decide_eq_true hentry⟩
  · cases hentry
  · cases hentry

/-- The midnight before is what they give. -/
theorem resolveToken_past_stJohns :
    ∃ r, saturdayInStJohns.resolveToken "today 0:00" = .ok r ∧
      r.time.instant < saturdayInStJohns.instant := by
  obtain ⟨r, hr, -, hlt⟩ :=
    midnightTokens_early ("today 0:00", .today ⟨0, 0⟩) (by simp [midnightTokens])
  exact ⟨r, hr, hlt⟩

/-- Clocks there had shown the midnight that Sunday begins with. -/
theorem resolveToken_le_now_stJohns :
    ∃ r l, saturdayInStJohns.resolveToken "sunday 0" = .ok r ∧
      r.pattern.AimsAt saturdayInStJohns l ∧
      ∃ i ≤ saturdayInStJohns.instant, Zone.stJohns.reading i = l := by
  obtain ⟨r, hr, hpattern, hlt⟩ :=
    midnightTokens_early ("sunday 0", .onWeekday .sunday ⟨0, 0⟩) (by simp [midnightTokens])
  have hz : Zone.stJohns.Regular := Zone.regular_of_mem_known _ (by simp [Zone.known])
  obtain ⟨hiff, -, hregular⟩ := resolveToken_le_now_iff hr
  rcases hiff.mp (Instant.le_of_lt hlt) with hoffset | ⟨l, hl, hpassed, hday⟩
  · rw [hpattern] at hoffset
    cases hoffset
  · rcases hday with ⟨w, hinDays⟩ | hlater
    · rw [hpattern] at hinDays
      cases hinDays
    · exact ⟨r, l, hr, hl, (hregular hz l hl hlater).1.mp hpassed⟩

end ZonedTime

end DueTime
