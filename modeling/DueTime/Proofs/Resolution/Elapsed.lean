/-
DueTime.Proofs.Resolution.Elapsed — offsets ahead are elapsed time.

An offset ahead has nothing to do with what the clocks of a zone show. It
leads so many minutes on along the line of instants, and offsets resolved one
after another (`ZonedTime.Elapses`) lead as far as their minutes do together
(`ZonedTime.elapses_iff`). So neither their order nor the zone matters, nor a
change of the clocks on the way (`ZonedTime.offsets_add_up`).
-/
import DueTime.Proofs.Resolution.Refusal
import DueTime.Zone.Named

namespace DueTime

/-- The pattern that asks for a length of time on from now. -/
def HourMinute.ahead (length : HourMinute) : TimePattern :=
  .relativeOffset .plus ⟨length.hour, length.minute⟩

namespace ZonedTime

variable {now t : ZonedTime} {length : HourMinute} {lengths ordered : List HourMinute}

/-! ## One offset -/

theorem afterMinutes?_zero (now : ZonedTime) : now.afterMinutes? 0 = some now :=
  afterMinutes?_eq_some_iff.mpr ⟨now.instant.addMinutes?_zero, rfl⟩

theorem afterMinutes?_add (now : ZonedTime) (minutes more : Nat) :
    (now.afterMinutes? minutes).bind (·.afterMinutes? more) =
      now.afterMinutes? (minutes + more) := by
  rw [afterMinutes?, afterMinutes?, ← Instant.addMinutes?_add, Option.bind_map, Option.map_bind]
  rfl

/-- An offset resolves to the time so many minutes on. -/
theorem resolve_ahead_eq_ok_iff {r : Resolution} :
    now.resolve length.ahead = .ok r ↔
      now.afterMinutes? length.minutes = some r.time ∧ r.pattern = length.ahead := by
  rw [resolve_eq_ok_iff_follow?]
  constructor
  · rintro ⟨time, htime, -, hfollow, hpattern⟩
    obtain rfl : length = time := TimePattern.time_unique (p := length.ahead) rfl htime
    exact ⟨hfollow, hpattern⟩
  · rintro ⟨hfollow, hpattern⟩
    exact ⟨length, rfl, nofun, hfollow, hpattern⟩

/-- It is refused, with its own hours and minutes, if these lead out of the
calendar. -/
theorem resolve_ahead_eq_error
    (hout : ¬ (now.instant.relabel (60 * length.minutes)).InCalendar) :
    now.resolve length.ahead = .error (.invalidTime length.hour length.minute) := by
  cases hresolve : now.resolve length.ahead with
  | ok r =>
    obtain ⟨hafter, -⟩ := resolve_ahead_eq_ok_iff.mp hresolve
    have hadd := (afterMinutes?_eq_some_iff.mp hafter).1
    exact absurd (Instant.exists_addMinutes?_iff.mp ⟨_, hadd⟩) hout
  | error e =>
    rw [invalidTime_of_resolve_error (p := length.ahead) nofun hresolve]
    rfl
  | crash =>
    obtain ⟨-, -, hdays, -⟩ := resolve_eq_crash_iff.mp hresolve
    cases hdays

/-! ## One offset after another -/

/-- The offsets are resolved in turn, the first from `now` and each other from
where the one before it has led. The last of them leads to the time `t`. -/
inductive Elapses : ZonedTime → List HourMinute → ZonedTime → Prop
  | nil (now : ZonedTime) : Elapses now [] now
  | cons {now t : ZonedTime} {length : HourMinute} {lengths : List HourMinute} {r : Resolution}
    (h : now.resolve length.ahead = .ok r) (hrest : Elapses r.time lengths t) :
    Elapses now (length :: lengths) t

/-- The minutes of all offsets together. -/
def totalMinutes : List HourMinute → Nat
  | [] => 0
  | length :: lengths => length.minutes + totalMinutes lengths

/-- They do not depend on the order of the offsets. -/
theorem totalMinutes_perm (h : ordered.Perm lengths) :
    totalMinutes ordered = totalMinutes lengths := by
  induction h with
  | nil => rfl
  | cons length _ ih => rw [totalMinutes, totalMinutes, ih]
  | swap length next lengths =>
    simp only [totalMinutes]
    omega
  | trans _ _ ih ih' => rw [ih, ih']

/-- Offsets in turn lead where their minutes together lead. -/
theorem elapses_iff :
    now.Elapses lengths t ↔ now.afterMinutes? (totalMinutes lengths) = some t := by
  induction lengths generalizing now with
  | nil =>
    rw [totalMinutes, afterMinutes?_zero, Option.some_inj]
    constructor
    · rintro ⟨⟩
      rfl
    · rintro rfl
      exact .nil now
  | cons length lengths ih =>
    rw [totalMinutes, ← afterMinutes?_add, Option.bind_eq_some_iff]
    constructor
    · rintro (_ | ⟨h, hrest⟩)
      exact ⟨_, (resolve_ahead_eq_ok_iff.mp h).1, ih.mp hrest⟩
    · rintro ⟨u, hu, hrest⟩
      exact .cons (resolve_ahead_eq_ok_iff (r := ⟨u, length.ahead⟩).mpr ⟨hu, rfl⟩) (ih.mpr hrest)

/-- Offsets are elapsed time, and they add up. If the calendar has the second
that comes all their minutes later, then they lead to one instant, whatever
the zone and whatever the order in which they are resolved. It is at that
second and keeps the fraction of the second; a leap second is left, unless no
time elapses. If the calendar does not have it, then they lead nowhere in any
order, and a single offset is refused for its hours and minutes. -/
theorem offsets_add_up (i : Instant) (lengths : List HourMinute) :
    ((i.relabel (60 * totalMinutes lengths)).InCalendar → ∃ j : Instant,
      j.seconds = i.seconds + 60 * totalMinutes lengths ∧
      j.nanos = (if i.nanos < nanosPerSecond ∨ totalMinutes lengths = 0 then i.nanos
        else i.nanos - nanosPerSecond) ∧
      ∀ ordered : List HourMinute, ordered.Perm lengths → ∀ zone t,
        Elapses ⟨zone, i⟩ ordered t ↔ t = ⟨zone, j⟩) ∧
    (¬ (i.relabel (60 * totalMinutes lengths)).InCalendar →
      ∀ ordered : List HourMinute, ordered.Perm lengths → ∀ zone t,
        ¬ Elapses ⟨zone, i⟩ ordered t) ∧
    ∀ (length : HourMinute) (zone : Zone),
      ¬ (i.relabel (60 * length.minutes)).InCalendar →
        resolve ⟨zone, i⟩ length.ahead = .error (.invalidTime length.hour length.minute) := by
  refine ⟨?_, ?_, ?_⟩
  · intro hcal
    obtain ⟨j, hj⟩ := Instant.exists_addMinutes?_iff.mpr hcal
    obtain ⟨hseconds, hnanos⟩ := Instant.addMinutes?_eq_some_iff.mp hj
    refine ⟨j, hseconds, hnanos, ?_⟩
    intro ordered hperm zone t
    rw [elapses_iff, totalMinutes_perm hperm, afterMinutes?, hj, Option.map_some, Option.some_inj,
      eq_comm]
  · intro hout ordered hperm zone t h
    rw [elapses_iff, totalMinutes_perm hperm, afterMinutes?_eq_some_iff] at h
    exact hout (Instant.exists_addMinutes?_iff.mp ⟨_, h.1⟩)
  · intro length zone hout
    exact resolve_ahead_eq_error hout

/-- A leap second at the end of a Saturday in 2024, in whose night the clocks
of Berlin are put forward. -/
def lastOfSaturday : Instant :=
  ⟨⟨1711843199, nanosPerSecond, leap_nanos_lt⟩, by decide⟩

/-- The last half hour of the calendar has begun. -/
def lastHalfHour : Instant :=
  ⟨⟨8210266875000, 0, zero_nanos_lt⟩, by decide⟩

/-- From there Berlin waits two and a half hours and then all but a minute of a
day, Lord Howe Island the other way round. They get to the same instant, and
the leap second is left. An hour is too long for the last half hour of the
calendar. -/
theorem offsets_add_up_berlin :
    (lastOfSaturday.relabel (60 * 1589)).InCalendar ∧
    ¬ (lastHalfHour.relabel (60 * 60)).InCalendar ∧
    (∃ j : Instant, j.seconds = 1711938539 ∧ j.nanos = 0 ∧
      Elapses ⟨Zone.berlin, lastOfSaturday⟩
        [⟨0, 0, by decide, by decide⟩, ⟨2, 30, by decide, by decide⟩,
          ⟨23, 59, by decide, by decide⟩] ⟨Zone.berlin, j⟩ ∧
      Elapses ⟨Zone.lordHowe, lastOfSaturday⟩
        [⟨23, 59, by decide, by decide⟩, ⟨2, 30, by decide, by decide⟩,
          ⟨0, 0, by decide, by decide⟩] ⟨Zone.lordHowe, j⟩) ∧
    resolve ⟨Zone.berlin, lastHalfHour⟩ (.relativeOffset .plus ⟨1, 0⟩) =
      .error (.invalidTime 1 0) := by
  have hcal : (lastOfSaturday.relabel (60 * 1589)).InCalendar := by decide
  have hout : ¬ (lastHalfHour.relabel (60 * 60)).InCalendar := by decide
  obtain ⟨hadd, -, -⟩ := offsets_add_up lastOfSaturday
    [⟨0, 0, by decide, by decide⟩, ⟨2, 30, by decide, by decide⟩, ⟨23, 59, by decide, by decide⟩]
  obtain ⟨j, hseconds, hnanos, helapses⟩ := hadd hcal
  obtain ⟨-, -, hrefused⟩ := offsets_add_up lastHalfHour []
  refine ⟨hcal, hout, ⟨j, hseconds, hnanos, ?_, ?_⟩, ?_⟩
  · exact (helapses _ (.refl _) _ _).mpr rfl
  · exact (helapses _ (by decide) _ _).mpr rfl
  · exact hrefused ⟨1, 0, by decide, by decide⟩ Zone.berlin hout

end ZonedTime

end DueTime
