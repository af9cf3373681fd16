/-
DueTime.Proofs.Calendar.TimePoint — points, days and times of day as their
numbers determine them.

Each partial constructor of the calendar is characterised once: a day, a
time of day or an instant comes out exactly when it has the numbers that
went in. The order of points is total, and moving a point that lies in no
leap second only moves its seconds. Minutes added to an instant in several
steps lead to where they lead at once (`Instant.addMinutes?_add`).
-/
import Mathlib.Tactic.SplitIfs
import DueTime.Calendar.TimePoint

namespace DueTime

attribute [ext] Date HourMinute TimePoint Reading Instant

/-! ## Days and times of day -/

theorem Date.ofNumber?_eq_some_iff {n : Int} {d : Date} :
    Date.ofNumber? n = some d ↔ d.number = n := by
  unfold Date.ofNumber?
  split
  · simp only [Option.some.injEq]
    constructor
    · rintro rfl
      rfl
    · intro h
      exact Date.ext h.symm
  · rename_i hn
    simp only [reduceCtorEq, false_iff]
    rintro rfl
    exact hn ⟨d.first_le, d.le_last⟩

theorem Date.addDays?_eq_some_iff {today d : Date} {days : Nat} :
    today.addDays? days = some d ↔ d.number = today.number + days :=
  Date.ofNumber?_eq_some_iff

/-- Days may be added in two steps: if the calendar has the day of the last
step then it has the one in between. -/
theorem Date.addDays?_add (d : Date) (days more : Nat) :
    (d.addDays? days).bind (·.addDays? more) = d.addDays? (days + more) := by
  ext e
  simp only [Option.bind_eq_some_iff, Date.addDays?_eq_some_iff]
  constructor
  · rintro ⟨between, hbetween, he⟩
    omega
  · intro he
    have hfirst := d.first_le
    have hlast := e.le_last
    exact ⟨⟨d.number + days, by omega, by omega⟩, rfl, by simp only; omega⟩

theorem HourMinute.of?_eq_some_iff {hour minute : Nat} {t : HourMinute} :
    HourMinute.of? hour minute = some t ↔ t.hour = hour ∧ t.minute = minute := by
  unfold HourMinute.of?
  split
  · simp only [Option.some.injEq]
    constructor
    · rintro rfl
      exact ⟨rfl, rfl⟩
    · rintro ⟨hh, hm⟩
      exact HourMinute.ext hh.symm hm.symm
  · rename_i hn
    simp only [reduceCtorEq, false_iff]
    rintro ⟨rfl, rfl⟩
    exact hn ⟨t.hour_lt, t.minute_lt⟩

/-! ## Points -/

namespace TimePoint

@[simp] theorem relabel_seconds (t : TimePoint) (s : Int) : (t.relabel s).seconds = t.seconds + s :=
  rfl

@[simp] theorem relabel_nanos (t : TimePoint) (s : Int) : (t.relabel s).nanos = t.nanos :=
  rfl

theorem lt_iff {a b : TimePoint} :
    a < b ↔ a.seconds < b.seconds ∨ a.seconds = b.seconds ∧ a.nanos < b.nanos :=
  Iff.rfl

theorem le_iff {a b : TimePoint} :
    a ≤ b ↔ a.seconds < b.seconds ∨ a.seconds = b.seconds ∧ a.nanos ≤ b.nanos :=
  Iff.rfl

theorem not_le {a b : TimePoint} : ¬ a ≤ b ↔ b < a := by
  rw [le_iff, lt_iff]
  omega

/-- What the shift of a point does to its seconds. On the way back, a leap
second is one second nearer. -/
theorem shift_seconds (t : TimePoint) (s : Int) :
    (t.shift s).seconds = t.seconds + s + if t.inLeapSecond ∧ s < 0 then 1 else 0 := by
  unfold shift
  split
  · rename_i h
    have hstays : ¬ (t.inLeapSecond ∧ s < 0) := by
      simp only [inLeapSecond, decide_eq_true_eq]
      omega
    rw [if_neg hstays, relabel_seconds, Int.add_zero]
  · rename_i h
    have hleap : t.inLeapSecond := by
      simp only [inLeapSecond, decide_eq_true_eq]
      omega
    simp only [hleap, true_and]

theorem shift_seconds_bounds (t : TimePoint) (s : Int) :
    t.seconds + s ≤ (t.shift s).seconds ∧ (t.shift s).seconds ≤ t.seconds + s + 1 := by
  rw [shift_seconds]
  split <;> omega

/-- On the way forwards, as on the way back, any step leaves a leap second,
but a step of no length does not. -/
theorem shift_nanos (t : TimePoint) (s : Int) :
    (t.shift s).nanos =
      if t.nanos < nanosPerSecond ∨ s = 0 then t.nanos else t.nanos - nanosPerSecond := by
  unfold shift
  split
  · rfl
  · rfl

/-- Outside leap seconds a point moves as its number of seconds does. -/
theorem shift_of_lt {t : TimePoint} (h : t.nanos < nanosPerSecond) (s : Int) :
    t.shift s = t.relabel s := by
  rw [shift, if_pos (Or.inl h)]

/-- Going on by the same time keeps the order, if it does not leave a leap
second at the later point. -/
theorem shift_le_shift {t u : TimePoint} (htu : t ≤ u) (hu : u.nanos < nanosPerSecond) {s : Int}
    (hs : 0 ≤ s) : t.shift s ≤ u.shift s := by
  rw [shift_of_lt hu, le_iff, relabel_seconds, relabel_nanos]
  rw [le_iff] at htu
  unfold shift
  split
  · rw [relabel_seconds, relabel_nanos]
    omega
  · simp only [if_neg (Int.not_lt.mpr hs)]
    omega

end TimePoint

/-- The reading of a clock so many hours earlier, if nobody sets it in
between. -/
def Reading.hoursEarlier (l : Reading) (hours : Nat) : Reading :=
  ⟨l.relabel (-(3600 * hours))⟩

/-- A reading on a day shows that day. -/
@[simp] theorem Date.reading_dayNumber (d : Date) (t : HourMinute) :
    (d.reading t).dayNumber = d.number := by
  have hminutes := t.minutes_lt
  simp only [Reading.dayNumber, Date.reading, secondsPerDay]
  omega

/-- It lies in no leap second. -/
theorem Date.reading_nanos_lt (d : Date) (t : HourMinute) :
    (d.reading t).nanos < nanosPerSecond := by
  show 0 < nanosPerSecond
  decide

/-- It is on a day of the calendar, as the day is. -/
theorem Date.reading_inCalendar (d : Date) (t : HourMinute) : (d.reading t).InCalendar := by
  have hfirst := d.first_le
  have hlast := d.le_last
  have hminutes := t.minutes_lt
  simp only [TimePoint.InCalendar, Date.reading, secondsPerDay]
  omega

/-! ## Instants -/

namespace Instant

theorem lt_iff {i j : Instant} :
    i < j ↔ i.seconds < j.seconds ∨ i.seconds = j.seconds ∧ i.nanos < j.nanos :=
  Iff.rfl

theorem le_iff {i j : Instant} :
    i ≤ j ↔ i.seconds < j.seconds ∨ i.seconds = j.seconds ∧ i.nanos ≤ j.nanos :=
  Iff.rfl

theorem not_le {i j : Instant} : ¬ i ≤ j ↔ j < i :=
  TimePoint.not_le

theorem le_refl (i : Instant) : i ≤ i :=
  le_iff.mpr (Or.inr ⟨rfl, Nat.le_refl _⟩)

theorem le_of_lt {i j : Instant} (h : i < j) : i ≤ j := by
  rw [lt_iff] at h
  rw [le_iff]
  omega

theorem le_trans {i j k : Instant} (hij : i ≤ j) (hjk : j ≤ k) : i ≤ k := by
  rw [le_iff] at *
  omega

theorem lt_of_le_of_lt {i j k : Instant} (hij : i ≤ j) (hjk : j < k) : i < k := by
  rw [le_iff] at hij
  rw [lt_iff] at *
  omega

theorem ofTimePoint?_eq_some_iff {t : TimePoint} {i : Instant} :
    ofTimePoint? t = some i ↔ i.toTimePoint = t := by
  unfold ofTimePoint?
  split
  · simp only [Option.some.injEq]
    constructor
    · rintro rfl
      rfl
    · rintro rfl
      rfl
  · rename_i ht
    simp only [reduceCtorEq, false_iff]
    rintro rfl
    exact ht i.inCalendar

/-- So many minutes on from a later instant is no earlier, if that instant
lies in no leap second. -/
theorem addMinutes?_mono {i j i' j' : Instant} {minutes : Nat} (hij : i ≤ j)
    (hj : j.nanos < nanosPerSecond) (hi' : i.addMinutes? minutes = some i')
    (hj' : j.addMinutes? minutes = some j') : i' ≤ j' := by
  show i'.toTimePoint ≤ j'.toTimePoint
  rw [ofTimePoint?_eq_some_iff.mp hi', ofTimePoint?_eq_some_iff.mp hj']
  exact TimePoint.shift_le_shift hij hj (by omega)

/-- So many minutes on is at the second of that number. It keeps the fraction
of the second, and has left a leap second. -/
theorem addMinutes?_eq_some_iff {i j : Instant} {minutes : Nat} :
    i.addMinutes? minutes = some j ↔
      j.seconds = i.seconds + 60 * minutes ∧
        j.nanos = if i.nanos < nanosPerSecond ∨ minutes = 0 then i.nanos
          else i.nanos - nanosPerSecond := by
  have hlength : (60 * minutes : Int) = 0 ↔ minutes = 0 := by omega
  have hforwards : ¬ (60 * minutes : Int) < 0 := by omega
  rw [addMinutes?, ofTimePoint?_eq_some_iff, TimePoint.ext_iff, TimePoint.shift_seconds,
    TimePoint.shift_nanos]
  simp only [hlength, hforwards, and_false, if_false, Int.add_zero]

/-- There is such an instant if the second is one of the calendar. -/
theorem exists_addMinutes?_iff {i : Instant} {minutes : Nat} :
    (∃ j, i.addMinutes? minutes = some j) ↔ (i.relabel (60 * minutes)).InCalendar := by
  constructor
  · rintro ⟨j, hj⟩
    have hcal := j.inCalendar
    rw [TimePoint.InCalendar, (addMinutes?_eq_some_iff.mp hj).1] at hcal
    exact hcal
  · intro hcal
    have hlt := i.nanos_lt
    refine ⟨⟨⟨i.seconds + 60 * minutes, if i.nanos < nanosPerSecond ∨ minutes = 0 then i.nanos
      else i.nanos - nanosPerSecond, ?_⟩, hcal⟩, addMinutes?_eq_some_iff.mpr ⟨rfl, rfl⟩⟩
    split <;> omega

/-- No minutes on is the same instant. -/
theorem addMinutes?_zero (i : Instant) : i.addMinutes? 0 = some i :=
  addMinutes?_eq_some_iff.mpr ⟨by simp, by simp⟩

/-- Minutes may be added in two steps. A leap second is left by the first of
them that has a length, and the calendar has the instant in between if it has
the last one. -/
theorem addMinutes?_add (i : Instant) (minutes more : Nat) :
    (i.addMinutes? minutes).bind (·.addMinutes? more) = i.addMinutes? (minutes + more) := by
  ext k
  have hstart := i.inCalendar
  have hend := k.inCalendar
  have hlt := i.nanos_lt
  rw [Option.bind_eq_some_iff, addMinutes?_eq_some_iff]
  constructor
  · rintro ⟨j, hj, hk⟩
    obtain ⟨hseconds, hnanos⟩ := addMinutes?_eq_some_iff.mp hj
    obtain ⟨hseconds', hnanos'⟩ := addMinutes?_eq_some_iff.mp hk
    refine ⟨by omega, ?_⟩
    rw [hnanos', hnanos]
    split_ifs <;> omega
  · rintro ⟨hseconds, hnanos⟩
    have hbetween : (i.relabel (60 * minutes)).InCalendar := by
      simp only [TimePoint.InCalendar, TimePoint.relabel_seconds] at *
      omega
    obtain ⟨j, hj⟩ := exists_addMinutes?_iff.mpr hbetween
    obtain ⟨hseconds', hnanos'⟩ := addMinutes?_eq_some_iff.mp hj
    refine ⟨j, hj, addMinutes?_eq_some_iff.mpr ⟨by omega, ?_⟩⟩
    rw [hnanos, hnanos']
    split_ifs <;> omega

/-- Some minutes on is later, also out of a leap second. -/
theorem addMinutes?_le_iff {i j : Instant} {minutes : Nat} (h : i.addMinutes? minutes = some j) :
    j ≤ i ↔ minutes = 0 := by
  obtain ⟨hseconds, hnanos⟩ := addMinutes?_eq_some_iff.mp h
  rw [le_iff]
  constructor
  · intro hle
    omega
  · rintro rfl
    rw [if_pos (Or.inr rfl)] at hnanos
    omega

end Instant

end DueTime
