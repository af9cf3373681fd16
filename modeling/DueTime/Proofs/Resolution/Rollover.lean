/-
DueTime.Proofs.Resolution.Rollover — the next moment of a time of day.

A time without a day means the next moment that clocks show it. While
nobody sets the clocks, that moment comes within a day, and the resolver
finds it: it is the first instant after now whose reading is that hour and
minute and not a nanosecond more (`resolve_rollover`). A clock that reads
just that goes round once.

The resolver only looks at today and at tomorrow. It does not pass over a
moment, because the clock reads the time once in a day: what comes before
tomorrow's reading comes no later than today's.
-/
import DueTime.Proofs.Resolution.TargetDay
import DueTime.Proofs.Zone.Known
import DueTime.Proofs.Zone.Steady

namespace DueTime

/-- The clock shows that hour and minute, at the very start of the
minute. -/
def Reading.Strikes (l : Reading) (hours minutes : Nat) : Prop :=
  l.secondOfDay = 3600 * hours + 60 * minutes ∧ l.nanos = 0

instance (l : Reading) (hours minutes : Nat) : Decidable (l.Strikes hours minutes) :=
  inferInstanceAs (Decidable (_ ∧ _))

theorem Reading.strikes_iff {l : Reading} {time : HourMinute} :
    l.Strikes time.hour time.minute ↔ l.seconds % 86400 = 60 * time.minutes ∧ l.nanos = 0 := by
  simp only [Strikes, secondOfDay, secondsPerDay, HourMinute.minutes]
  omega

namespace ZonedTime

variable {now : ZonedTime} {time : HourMinute}

/-! ## The day of the clock -/

/-- Far from the ends of the calendar the clock shows one of its days. -/
theorem exists_date (hz : now.zone.OffsetsWithin (16 * 3600)) (hmargin : now.instant.HasMargin 4) :
    ∃ today : Date, now.date? = some today ∧
      today.number = now.zone.localSecond now.instant.seconds / 86400 := by
  have hoffset := hz.offsetAt_le now.instant.seconds
  have hnumber : now.reading.dayNumber = now.zone.localSecond now.instant.seconds / 86400 := rfl
  simp only [Zone.localSecond] at hnumber ⊢
  simp only [TimePoint.HasMargin, firstDay, lastDay, secondsPerDay] at hmargin
  refine ⟨⟨now.reading.dayNumber, ?_, ?_⟩, Date.ofNumber?_eq_some_iff.mpr rfl, hnumber⟩
  · simp only [firstDay]
    omega
  · simp only [lastDay]
    omega

/-! ## The next moment -/

/-- What makes an instant after now the next one that reads the time: it
reads the time, and its day is no more than one round of the clock away. -/
structure RollsTo (now : ZonedTime) (time : HourMinute) (i : Instant) : Prop where
  later : now.instant < i
  nanos_eq : i.nanos = 0
  seconds_mod : (i.seconds + now.offset) % 86400 = 60 * time.minutes
  seconds_le : i.seconds ≤ now.instant.seconds + 86400

namespace RollsTo

variable {i : Instant} (hsteady : now.zone.Steady now.instant.seconds (72 * 3600))
  (h : now.RollsTo time i)

include h in
/-- It comes no later than a day from now. -/
theorem le_shift : i.toTimePoint ≤ now.instant.shift secondsPerDay := by
  have hle := h.seconds_le
  have hnanos := h.nanos_eq
  have hseconds := now.instant.shift_seconds secondsPerDay
  rw [if_neg (by simp [secondsPerDay])] at hseconds
  simp only [secondsPerDay] at hseconds
  rw [TimePoint.le_iff]
  simp only [secondsPerDay]
  omega

include h in
/-- A clock that strikes the time now does so again after one full round. -/
theorem eq_shift (hnow : now.reading.Strikes time.hour time.minute) :
    i.toTimePoint = now.instant.shift secondsPerDay := by
  have hlater := h.later
  have hmod := h.seconds_mod
  have hle := h.seconds_le
  obtain ⟨hstrike, hnanos⟩ := Reading.strikes_iff.mp hnow
  have hshown : now.reading.seconds = now.instant.seconds + now.offset := rfl
  have hwhole : now.instant.nanos = 0 := hnanos
  rw [Instant.lt_iff, h.nanos_eq] at hlater
  rw [TimePoint.shift_of_lt (by rw [hwhole]; decide)]
  refine TimePoint.ext ?_ ?_
  · simp only [TimePoint.relabel_seconds, secondsPerDay]
    omega
  · rw [TimePoint.relabel_nanos, hwhole, h.nanos_eq]

include hsteady h in
/-- It is the first instant after now at which the clock strikes the
time. -/
theorem isLeast : IsLeast
    {j | now.instant < j ∧ (now.zone.reading j).Strikes time.hour time.minute} i := by
  have hlater := h.later
  have hmod := h.seconds_mod
  have hle := h.seconds_le
  have hoffset {j : Instant} (hlow : now.instant.seconds ≤ j.seconds)
      (hhigh : j.seconds ≤ now.instant.seconds + 86400) :
      (now.zone.reading j).seconds = j.seconds + now.offset := by
    have hsame := hsteady j.seconds (by omega) (by omega)
    show j.seconds + now.zone.offsetAt j.seconds = _
    rw [hsame]
    rfl
  rw [Instant.lt_iff, h.nanos_eq] at hlater
  constructor
  · refine ⟨h.later, Reading.strikes_iff.mpr ⟨?_, h.nanos_eq⟩⟩
    rw [hoffset (by omega) hle]
    exact hmod
  · rintro j ⟨hj, hstrikes⟩
    obtain ⟨hjmod, hjnanos⟩ := Reading.strikes_iff.mp hstrikes
    have hwhole : j.nanos = 0 := hjnanos
    rw [Instant.lt_iff, hwhole] at hj
    rw [Instant.le_iff, h.nanos_eq, hwhole]
    rcases Int.lt_or_le j.seconds i.seconds with hlt | hge
    · -- It would be a full round earlier, and so not after now.
      rw [hoffset (by omega) (by omega)] at hjmod
      omega
    · omega

end RollsTo

section

variable (hz : now.zone.OffsetsWithin (16 * 3600)) (hmargin : now.instant.HasMargin 4)
  (hsteady : now.zone.Steady now.instant.seconds (72 * 3600))
include hz hmargin hsteady

/-- On a day near enough the clock shows the time under the offset of
now. -/
theorem exists_firstShows_date (d : Date) (time : HourMinute)
    (hlow : now.instant.seconds + now.offset - 86400 ≤ d.number * 86400 + 60 * time.minutes)
    (hhigh : d.number * 86400 + 60 * time.minutes ≤ now.instant.seconds + now.offset + 86400) :
    ∃ i, now.zone.FirstShows (d.reading time) i ∧ i.nanos = 0 ∧
      i.seconds + now.offset = d.number * 86400 + 60 * time.minutes := by
  obtain ⟨i, hi, his⟩ := hsteady.exists_firstShows hz (l := d.reading time) hmargin hlow hhigh
  have hshown : (d.reading time).seconds = d.number * 86400 + 60 * time.minutes := rfl
  have hoff : now.zone.offsetAt now.instant.seconds = now.offset := rfl
  refine ⟨i, hi, (Zone.reading_eq_iff.mp hi.reading_eq).2, ?_⟩
  rw [his, hshown, hoff]
  omega

/-- The resolver finds the next moment, today or tomorrow. -/
theorem exists_rollsTo {p : TimePattern} (haim : p.aim = .nextTime)
    (htime : p.time = ⟨time.hour, time.minute⟩) :
    ∃ i, now.resolve p = .ok ⟨⟨now.zone, i⟩, p⟩ ∧ now.RollsTo time i := by
  obtain ⟨today, htoday, hnumber⟩ := exists_date hz hmargin
  have hminutes := time.minutes_lt
  have hoffset : now.offset.natAbs ≤ 16 * 3600 := hz.offsetAt_le now.instant.seconds
  have hshown : now.zone.localSecond now.instant.seconds = now.instant.seconds + now.offset := rfl
  rw [hshown] at hnumber
  obtain ⟨i, hi, hin, his⟩ := exists_firstShows_date hz hmargin hsteady today time (by omega)
    (by omega)
  have hleads : p.aim.Leads now today time (if now.instant < i then 0 else 1) := by
    rw [haim]
    exact .nextTime (Zone.localize?_of_firstShows hi)
  obtain ⟨d, j, hd, hj, hrolls⟩ : ∃ (d : Date) (j : Instant),
      d.number = today.number + (if now.instant < i then 0 else 1 : Nat) ∧
        now.zone.FirstShows (d.reading time) j ∧ now.RollsTo time j := by
    by_cases hcome : now.instant < i
    · -- Today's moment is still to come.
      rw [if_pos hcome]
      exact ⟨today, i, by omega, hi, hcome, hin, by omega, by omega⟩
    · -- Today's moment is no later than now, so tomorrow's is within a day.
      rw [if_neg hcome]
      have hpassed : i.seconds ≤ now.instant.seconds := by
        rw [Instant.lt_iff] at hcome
        omega
      have hlast : today.number + 1 ≤ lastDay := by
        have hbefore := hmargin.2
        simp only [lastDay, secondsPerDay] at hbefore ⊢
        omega
      have hfirst : firstDay ≤ today.number + 1 := by
        have := today.first_le
        omega
      obtain ⟨j, hj, hjn, hjs⟩ := exists_firstShows_date hz hmargin hsteady
        ⟨today.number + 1, hfirst, hlast⟩ time (by simp only; omega) (by simp only; omega)
      simp only at hjs
      refine ⟨_, j, rfl, hj, ?_, hjn, by omega, by omega⟩
      rw [Instant.lt_iff]
      omega
  refine ⟨j, ?_, hrolls⟩
  exact (resolve_eq_ok_iff htime htoday (TimePattern.meansDay_iff_leads.mpr hleads)).mpr
    ⟨d, hd, j, Zone.localize?_of_firstShows hj, rfl⟩

end

/-- While nobody sets the clocks, a time without a day resolves to the first
instant after now at which they strike it, which comes within a day. If
they strike it now then it is the full day until they do so again. -/
theorem resolve_rollover {now : ZonedTime} (hz : now.zone.OffsetsWithin (16 * 3600))
    (hmargin : now.instant.HasMargin 4)
    (hsteady : now.zone.Steady now.instant.seconds (72 * 3600)) {hours minutes : Nat}
    (hhours : hours ≤ 23) (hminutes : minutes ≤ 59) {p : TimePattern}
    (hp : p = .today ⟨hours, minutes⟩ ∨ p = .plainTime ⟨hours, minutes⟩ ∨
      p = .plainHour hours ∧ minutes = 0) :
    ∃ i, now.resolve p = .ok ⟨⟨now.zone, i⟩, p⟩ ∧
      IsLeast {j | now.instant < j ∧ (now.zone.reading j).Strikes hours minutes} i ∧
      i.toTimePoint ≤ now.instant.shift secondsPerDay ∧
      (now.reading.Strikes hours minutes →
        i.toTimePoint = now.instant.shift secondsPerDay) := by
  let time : HourMinute := ⟨hours, minutes, by omega, by omega⟩
  obtain ⟨haim, htime⟩ : p.aim = .nextTime ∧ p.time = ⟨time.hour, time.minute⟩ := by
    rcases hp with rfl | rfl | ⟨rfl, rfl⟩
    · exact ⟨rfl, rfl⟩
    · exact ⟨rfl, rfl⟩
    · exact ⟨rfl, rfl⟩
  obtain ⟨i, hresolve, hrolls⟩ := exists_rollsTo hz hmargin hsteady haim htime
  exact ⟨i, hresolve, hrolls.isLeast hsteady, hrolls.le_shift, hrolls.eq_shift⟩

/-- Half past twelve in Berlin, on a Monday in January. -/
def mondayInBerlin : ZonedTime :=
  ⟨Zone.berlin, ⟨1705318200, 0, zero_nanos_lt⟩, by decide⟩

/-- Half past twelve is then half past twelve on Tuesday. -/
theorem resolve_rollover_berlin :
    mondayInBerlin.zone.OffsetsWithin (16 * 3600) ∧ mondayInBerlin.instant.HasMargin 4 ∧
    mondayInBerlin.zone.Steady mondayInBerlin.instant.seconds (72 * 3600) ∧
    mondayInBerlin.reading.Strikes 12 30 ∧
    ∃ i, mondayInBerlin.resolve (.today ⟨12, 30⟩) = .ok ⟨⟨Zone.berlin, i⟩, .today ⟨12, 30⟩⟩ ∧
      i.seconds = 1705404600 := by
  have hz : mondayInBerlin.zone.OffsetsWithin (16 * 3600) :=
    (Zone.regular_of_mem_known _ (by simp [mondayInBerlin, Zone.known])).offsetsWithin
  have hmargin : mondayInBerlin.instant.HasMargin 4 := ⟨by decide, by decide⟩
  have hsteady : mondayInBerlin.zone.Steady mondayInBerlin.instant.seconds (72 * 3600) :=
    Zone.steady_of_turns (by decide +kernel)
  have hstrikes : mondayInBerlin.reading.Strikes 12 30 := by decide +kernel
  have hhours : 12 ≤ 23 := by decide
  have hminutes : 30 ≤ 59 := by decide
  obtain ⟨i, hresolve, -, -, hround⟩ :=
    resolve_rollover hz hmargin hsteady hhours hminutes (Or.inl rfl)
  exact ⟨hz, hmargin, hsteady, hstrikes, i, hresolve,
    congrArg TimePoint.seconds (hround hstrikes)⟩

end ZonedTime

end DueTime
