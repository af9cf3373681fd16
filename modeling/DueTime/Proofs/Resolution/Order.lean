/-
DueTime.Proofs.Resolution.Order — what is asked for later comes later.

In a regular zone the instants of a time of day follow the days. So at one
clock a pattern does not resolve to a later instant than a pattern with the
same time whose day is never nearer (`resolve_day_order`). And the day that
an aim leads to does not move back when the clock goes on
(`Aim.Leads.mono`), so one pattern does not resolve to an earlier instant
then (`resolve_mono_now`).

Both speak of whole days. The order of two times of one day can be lost in a
gap. And a clock that is put back past midnight goes on to show an earlier
day, from which tomorrow is a day sooner.
-/
import DueTime.Proofs.Resolution.Refusal
import DueTime.Proofs.Zone.Order

namespace DueTime

/-! ## Days in order -/

namespace Aim

variable {now later : ZonedTime} {today today' : Date} {time : HourMinute} {a : Aim} {k k' : Nat}

/-- The day that an aim leads to does not move back when the clock goes on
and the day that it shows does not. -/
theorem Leads.mono (hzone : later.zone = now.zone) (hle : now.instant ≤ later.instant)
    (hday : today.number ≤ today'.number) (h : a.Leads now today time k)
    (h' : a.Leads later today' time k') : today.number + k ≤ today'.number + k' := by
  cases h with
  | daysAhead days =>
    cases h'
    omega
  | weekdayAhead weeks hj =>
    cases h' with
    | weekdayAhead _ hj' =>
      have hnext := Weekday.add_le_add_of_isLeast hday hj hj'
      omega
  | @nextTime i hi =>
    cases h' with
    | @nextTime j hj =>
      by_cases hsame : today.number = today'.number
      · -- Both look at the same instant, and the later clock is nearer to it.
        obtain rfl : today = today' := Date.ext hsame
        rw [hzone, hi] at hj
        cases hj
        have hroll : later.instant < i → now.instant < i := Instant.lt_of_le_of_lt hle
        by_cases hpassed : now.instant < i
        · rw [if_pos hpassed]
          omega
        · rw [if_neg hpassed, if_neg (mt hroll hpassed)]
      · split <;> split <;> omega

end Aim

/-- `p` has the time of `q`, both point at days, and no day of `p` is
beyond a day of `q`. -/
structure TimePattern.Precedes (p q : TimePattern) : Prop where
  time_eq : p.time = q.time
  left_ne : p.aim ≠ .elapsed
  right_ne : q.aim ≠ .elapsed
  days_le : p.aim.mostDays ≤ q.aim.fewestDays

theorem TimePattern.Precedes.trans {p q r : TimePattern} (hpq : p.Precedes q)
    (hqr : q.Precedes r) : p.Precedes r where
  time_eq := hpq.time_eq.trans hqr.time_eq
  left_ne := hpq.left_ne
  right_ne := hqr.right_ne
  days_le :=
    calc p.aim.mostDays ≤ q.aim.fewestDays := hpq.days_le
      _ ≤ q.aim.mostDays := q.aim.fewestDays_le_mostDays
      _ ≤ r.aim.fewestDays := hqr.days_le

instance : IsTrans TimePattern TimePattern.Precedes :=
  ⟨fun _ _ _ => TimePattern.Precedes.trans⟩

namespace ZonedTime

variable {now later : ZonedTime} {p q : TimePattern} {r s : Resolution}

/-! ## Instants in the order of their days -/

/-- In a regular zone, of two patterns with one time, the one that points
at the later day has no earlier instant. The two may be asked at different
clocks. -/
theorem instant_le_of_aimsAt (hz : now.zone.Regular) (hzone : later.zone = now.zone)
    (htime : p.time = q.time) (hr : now.resolve p = .ok r) (hs : later.resolve q = .ok s)
    {l l' : Reading} (hl : p.AimsAt now l) (hl' : q.AimsAt later l')
    (hday : l.dayNumber ≤ l'.dayNumber) : r.time.instant ≤ s.time.instant := by
  have hi := localize?_of_aimsAt hr hl
  have hj := localize?_of_aimsAt hs hl'
  obtain ⟨time, today, d, k, hp, -, -, -, rfl⟩ := hl
  obtain ⟨time', today', d', k', hq, -, -, -, rfl⟩ := hl'
  obtain rfl := TimePattern.time_unique hp (htime.trans hq)
  rw [Date.reading_dayNumber, Date.reading_dayNumber] at hday
  rw [hzone] at hj
  exact hz.localize?_date_mono hday hi hj

/-! ## At one clock -/

/-- Where both patterns resolve, the first does not resolve to a later
instant. -/
def NotAfter (now : ZonedTime) (p q : TimePattern) : Prop :=
  ∀ r s, now.resolve p = .ok r → now.resolve q = .ok s → r.time.instant ≤ s.time.instant

theorem NotAfter.refl (now : ZonedTime) (p : TimePattern) : now.NotAfter p p := by
  intro r s hr hs
  rw [hr] at hs
  cases hs
  exact Instant.le_refl _

theorem notAfter_of_precedes (hz : now.zone.Regular) (h : p.Precedes q) : now.NotAfter p q := by
  intro r s hr hs
  obtain ⟨l, hl⟩ := exists_aimsAt hr h.left_ne
  obtain ⟨l', hl'⟩ := exists_aimsAt hs h.right_ne
  refine instant_le_of_aimsAt hz rfl h.time_eq hr hs hl hl' ?_
  obtain ⟨time, today, k, -, -, htoday, hk, hday⟩ := hl.exists_leads
  obtain ⟨time', today', k', -, -, htoday', hk', hday'⟩ := hl'.exists_leads
  have hmost : k ≤ p.aim.mostDays := hk.days_bounds.2
  have hfewest : q.aim.fewestDays ≤ k' := hk'.days_bounds.1
  have hle := h.days_le
  omega

/-- A later day never gives an earlier reminder: more days ahead, each kind
of pattern after the ones that point at nearer days, and more weeks. -/
theorem resolve_day_order (hz : now.zone.Regular) (time : WrittenTime) :
    (∀ days days', days ≤ days' → now.NotAfter (.inDays days time) (.inDays days' time)) ∧
    (∀ w w' weeks, 1 ≤ weeks → List.Pairwise now.NotAfter
      [.today time, .tomorrow time, .onWeekday w time, .inOneWeek time,
        .inWeeksOnWeekday weeks w' time]) ∧
    ∀ w weeks weeks', weeks ≤ weeks' →
      now.NotAfter (.inWeeksOnWeekday weeks w time) (.inWeeksOnWeekday weeks' w time) := by
  refine ⟨?_, ?_, ?_⟩
  · intro days days' hle
    exact notAfter_of_precedes hz ⟨rfl, nofun, nofun, hle⟩
  · intro w w' weeks hweeks
    have htomorrow : TimePattern.Precedes (.today time) (.tomorrow time) :=
      ⟨rfl, nofun, nofun, Nat.le_refl 1⟩
    have hweekday : TimePattern.Precedes (.tomorrow time) (.onWeekday w time) :=
      ⟨rfl, nofun, nofun, Nat.le_refl 1⟩
    have hweek : TimePattern.Precedes (.onWeekday w time) (.inOneWeek time) :=
      ⟨rfl, nofun, nofun, Nat.le_refl 7⟩
    have hbeyond : TimePattern.Precedes (.inOneWeek time) (.inWeeksOnWeekday weeks w' time) :=
      ⟨rfl, nofun, nofun, show 7 ≤ 7 * weeks + 1 by omega⟩
    have hchain : List.IsChain TimePattern.Precedes
        [.today time, .tomorrow time, .onWeekday w time, .inOneWeek time,
          .inWeeksOnWeekday weeks w' time] :=
      .cons_cons htomorrow (.cons_cons hweekday (.cons_cons hweek (.cons_cons hbeyond
        (.singleton _))))
    exact (List.isChain_iff_pairwise.mp hchain).imp (notAfter_of_precedes hz)
  · intro w weeks weeks' hle
    rcases Nat.eq_or_lt_of_le hle with rfl | hlt
    · exact NotAfter.refl now _
    · have hdays : 7 * weeks + 7 ≤ 7 * weeks' + 1 := by omega
      exact notAfter_of_precedes hz ⟨rfl, nofun, nofun, hdays⟩

/-- Ways to ask for five o'clock, from nearer days to later ones. -/
def fiveOClocks : List TimePattern :=
  [.today ⟨5, 0⟩, .tomorrow ⟨5, 0⟩, .onWeekday .saturday ⟨5, 0⟩, .inOneWeek ⟨5, 0⟩,
    .inWeeksOnWeekday 1 .saturday ⟨5, 0⟩]

/-- On the Thursday before Apia left out a day all of them have an instant,
the first two by the gap, and the instants come in this order. -/
theorem resolve_day_order_apia :
    thursdayInApia.zone.Regular ∧ (∀ p ∈ fiveOClocks, ∃ r, thursdayInApia.resolve p = .ok r) ∧
      fiveOClocks.Pairwise thursdayInApia.NotAfter := by
  have hz : thursdayInApia.zone.Regular := Zone.regular_of_named? named?_apia
  have hok : ∀ p ∈ fiveOClocks, (thursdayInApia.resolve p).isOk := by decide +kernel
  exact ⟨hz, fun p hp => exists_resolve_of_isOk (hok p hp),
    (resolve_day_order hz ⟨5, 0⟩).2.1 .saturday .saturday 1 (by decide)⟩

/-! ## As the clock goes on -/

/-- One pattern at a later clock, which shows no earlier day and is in no
leap second, does not resolve to an earlier instant. -/
theorem resolve_mono_now (hz : now.zone.Regular) (hzone : later.zone = now.zone)
    (hle : now.instant ≤ later.instant)
    (hday : now.reading.dayNumber ≤ later.reading.dayNumber)
    (hleap : later.instant.nanos < nanosPerSecond) (hr : now.resolve p = .ok r)
    (hs : later.resolve p = .ok s) : r.time.instant ≤ s.time.instant := by
  by_cases helapsed : p.aim = .elapsed
  · obtain ⟨length, hlength, hi⟩ := exists_addMinutes?_of_resolve hr helapsed
    obtain ⟨length', hlength', hj⟩ := exists_addMinutes?_of_resolve hs helapsed
    obtain rfl := TimePattern.time_unique hlength hlength'
    exact Instant.addMinutes?_mono hle hleap hi hj
  · obtain ⟨l, hl⟩ := exists_aimsAt hr helapsed
    obtain ⟨l', hl'⟩ := exists_aimsAt hs helapsed
    refine instant_le_of_aimsAt hz hzone rfl hr hs hl hl' ?_
    obtain ⟨time, today, k, htime, -, htoday, hk, hd⟩ := hl.exists_leads
    obtain ⟨time', today', k', htime', -, htoday', hk', hd'⟩ := hl'.exists_leads
    obtain rfl := TimePattern.time_unique htime htime'
    have hmono := hk.mono hzone hle (by omega) hk'
    omega

/-- Clocks in Berlin show a quarter past two for the first time on
2024-10-27. -/
def firstQuarterPastTwo : ZonedTime :=
  ⟨Zone.berlin, ⟨1729988100, 0, zero_nanos_lt⟩, by decide⟩

/-- And an hour later for the second time. -/
def secondQuarterPastTwo : ZonedTime :=
  ⟨Zone.berlin, ⟨1729991700, 0, zero_nanos_lt⟩, by decide⟩

/-- Half past two is still to come at the first of them and has been at the
second, which rolls over to the next day. -/
theorem resolve_mono_now_berlin :
    firstQuarterPastTwo.zone.Regular ∧ firstQuarterPastTwo.instant ≤ secondQuarterPastTwo.instant ∧
    firstQuarterPastTwo.reading = secondQuarterPastTwo.reading ∧
    ∃ r s, firstQuarterPastTwo.resolve (.today ⟨2, 30⟩) = .ok r ∧
      secondQuarterPastTwo.resolve (.today ⟨2, 30⟩) = .ok s ∧
      r.time.instant ≤ s.time.instant := by
  have hz : firstQuarterPastTwo.zone.Regular := Zone.regular_of_mem_known _ (by
    simp [firstQuarterPastTwo, Zone.known])
  have hzone : secondQuarterPastTwo.zone = firstQuarterPastTwo.zone := rfl
  have hle : firstQuarterPastTwo.instant ≤ secondQuarterPastTwo.instant := by decide
  have hleap : secondQuarterPastTwo.instant.nanos < nanosPerSecond := by decide
  have hsame : firstQuarterPastTwo.reading = secondQuarterPastTwo.reading := by decide +kernel
  have hfirst : (firstQuarterPastTwo.resolve (.today ⟨2, 30⟩)).isOk := by decide +kernel
  have hsecond : (secondQuarterPastTwo.resolve (.today ⟨2, 30⟩)).isOk := by decide +kernel
  obtain ⟨r, hr⟩ := exists_resolve_of_isOk hfirst
  obtain ⟨s, hs⟩ := exists_resolve_of_isOk hsecond
  have hday : firstQuarterPastTwo.reading.dayNumber ≤ secondQuarterPastTwo.reading.dayNumber := by
    rw [hsame]
  exact ⟨hz, hle, hsame, r, s, hr, hs, resolve_mono_now hz hzone hle hday hleap hr hs⟩

end ZonedTime

end DueTime
