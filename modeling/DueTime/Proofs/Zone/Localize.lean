/-
DueTime.Proofs.Zone.Localize — from a reading to an instant, in full.

In a regular zone `localize?` is decided by three cases and by nothing
else. A reading that some instant has goes to the earliest such instant.
A reading in the gap of a turn, less than six hours past the gap's start,
keeps the offset from before the turn, and its instant reads as many
seconds later as the gap is long. Every other reading has no instant: it
stands deeper in a gap, or its instant would lie outside the calendar.

The three cases meet in two facts about regular zones. Two seconds of UTC
that are a few days apart have the same offset unless a turn is near, and
near a turn nothing leaves the calendar. And the six hours that
`instantPastGap?` looks back end in the span right before the gap, at a
local second that no earlier span holds.
-/
import DueTime.Proofs.Zone.Regular
import DueTime.Proofs.Zone.Known
import DueTime.ZonedTime

namespace DueTime.Zone

namespace Ordinary

variable {z : Zone} {l : Reading}

/-- Of two seconds with different offsets that are no more than ten days
apart, each lies in the calendar. -/
theorem inCalendar_of_offsetAt_ne (hz : z.Ordinary) {t : TimePoint} {u : Int}
    (hlow : t.seconds - 10 * 86400 ≤ u) (hhigh : u ≤ t.seconds + 10 * 86400)
    (hne : z.offsetAt t.seconds ≠ z.offsetAt u) : t.InCalendar := by
  rcases Int.le_total t.seconds u with h | h
  · obtain ⟨c, hc, hcu, hcv⟩ := exists_turn_of_offsetAt_ne h hne
    exact hz.inCalendar_of_near hc (by omega) (by omega)
  · obtain ⟨c, hc, hcu, hcv⟩ := exists_turn_of_offsetAt_ne h hne.symm
    exact hz.inCalendar_of_near hc (by omega) (by omega)

/-- If an instant has the reading then so does the first second that has
it at all, which makes an instant as well. -/
theorem exists_firstShows (hz : z.Ordinary) {i : Instant} (hi : z.reading i = l) :
    ∃ first, z.FirstShows l first := by
  obtain ⟨hseconds, -⟩ := reading_eq_iff.mp hi
  obtain ⟨u, hu⟩ := exists_isLeast_localSecond hseconds
  have hcal : (l.relabel (u - l.seconds)).InCalendar := by
    have hrelabel : (l.relabel (u - l.seconds)).seconds = u := by
      rw [TimePoint.relabel_seconds]
      omega
    by_cases hsame : z.offsetAt u = z.offsetAt i.seconds
    · have hcalendar := i.inCalendar
      have hshown : z.localSecond u = l.seconds := hu.1
      rw [localSecond] at hshown hseconds
      simp only [TimePoint.InCalendar, hrelabel] at hcalendar ⊢
      omega
    · have hshown : z.localSecond u = l.seconds := hu.1
      have hoffset := hz.offsetAt_lt u
      have hoffset' := hz.offsetAt_lt i.seconds
      rw [localSecond] at hshown hseconds
      rw [← hrelabel] at hsame
      exact hz.inCalendar_of_offsetAt_ne (u := i.seconds) (by omega) (by omega) hsame
  obtain ⟨first, hfirst, -⟩ := exists_firstShows_of_isLeast hu hcal
  exact ⟨first, hfirst⟩

/-- At the instant of a reading of the calendar the clock shows a date and a
time of the calendar: the reading, or, past a gap, one that is near the turn
which has made the gap. -/
theorem reading_inCalendar_of_localize? (hz : z.Ordinary) {i : Instant}
    (h : z.localize? l = some i) (hl : l.InCalendar) : (z.reading i).InCalendar := by
  by_cases hshown : ∃ first, z.FirstShows l first
  · obtain ⟨first, hfirst⟩ := hshown
    rw [localize?_of_firstShows hfirst] at h
    cases h
    rwa [hfirst.reading_eq]
  · rw [localize?_of_not_firstShows (not_exists.mp hshown)] at h
    obtain ⟨v, hv, hi⟩ := exists_of_instantPastGap? h
    have hlook : lookBack = 21600 := rfl
    have hback := l.shift_seconds_bounds (-lookBack)
    have hon := l.shift_seconds_bounds (-z.offsetAt v.seconds)
    rw [← hi] at hon
    rw [localSecond] at hv
    by_cases hturn : ∃ c ∈ z.turns, v.seconds < c.start ∧ c.start ≤ i.seconds
    · obtain ⟨c, hc, hlow, hhigh⟩ := hturn
      have hoffset := hz.offsetAt_lt i.seconds
      have hreads : (z.reading i).seconds = i.seconds + z.offsetAt i.seconds := rfl
      exact hz.inCalendar_of_near hc (by omega) (by omega)
    · -- With no turn in the six hours, the offset at their start shows the reading.
      have hcal : (l.relabel (-z.offsetAt v.seconds)).InCalendar := by
        have hfirst := v.inCalendar
        have hlast := i.inCalendar
        simp only [TimePoint.InCalendar, TimePoint.relabel_seconds] at hfirst hlast ⊢
        omega
      have hsame : z.offsetAt v.seconds = z.offsetAt (l.seconds + -z.offsetAt v.seconds) := by
        by_contra hne
        obtain ⟨c, hc, hlow, hhigh⟩ := exists_turn_of_offsetAt_ne (by omega) hne
        exact hturn ⟨c, hc, hlow, by omega⟩
      have hreads : z.reading ⟨_, hcal⟩ = l := by
        refine reading_eq_iff.mpr ⟨?_, rfl⟩
        rw [localSecond, TimePoint.relabel_seconds, ← hsame]
        omega
      exact absurd (hz.exists_firstShows hreads) hshown

end Ordinary

namespace Regular

variable {z : Zone} {c : Turn} {l : Reading}

/-! ## Gaps -/

/-- Six hours before a reading that is less than six hours into a gap, the
clock showed what it shows then for the first time, under the offset from
before the gap. -/
theorem isLeast_before_gap (hz : z.Regular) (hc : c ∈ z.turns) {s : Int} (hs : c.Skips s)
    (hsix : s < c.start + c.before + 6 * 3600) :
    IsLeast {u | z.localSecond u = s - 6 * 3600} (s - 6 * 3600 - c.before) := by
  obtain ⟨hlow, hhigh⟩ := hs
  have hbefore := hz.before_lt hc
  constructor
  · have hnear := hz.offsetAt_near hc (u := s - 6 * 3600 - c.before) (by omega) (by omega)
    rw [if_pos (by omega)] at hnear
    show z.localSecond _ = _
    rw [localSecond, hnear]
    omega
  · intro u (hu : z.localSecond u = _)
    have hoffset := hz.offsetAt_lt u
    rw [localSecond] at hu
    rcases Int.lt_or_le u (s - 6 * 3600 - c.before) with h | h
    · have hnear := hz.offsetAt_near hc (u := u) (by omega) (by omega)
      rw [if_pos (by omega)] at hnear
      omega
    · exact h

theorem localize?_of_skips (hz : z.Regular) (hl : l.nanos < nanosPerSecond) (hc : c ∈ z.turns)
    (hskips : c.Skips l.seconds) (hsix : l.seconds < c.start + c.before + 6 * 3600) :
    ∃ i, z.localize? l = some i ∧ i.toTimePoint = l.relabel (-c.before) ∧
      z.reading i = ⟨l.relabel (c.after - c.before)⟩ := by
  have hbefore := hz.before_lt hc
  have hafter := hz.after_lt hc
  obtain ⟨hlow, hhigh⟩ := hskips
  have hnone : ∀ i, ¬ z.FirstShows l i := fun i hi =>
    hz.not_shown_of_skips hc ⟨hlow, hhigh⟩ _ (reading_eq_iff.mp hi.reading_eq).1
  -- The instant that shows the reading of six hours earlier.
  have hearlier : (l.hoursEarlier 6).seconds = l.seconds - 6 * 3600 := rfl
  have hleast := hz.isLeast_before_gap hc ⟨hlow, hhigh⟩ hsix
  rw [← hearlier] at hleast
  obtain ⟨v, hv, hvs⟩ := exists_firstShows_of_isLeast hleast
    (hz.ordinary.inCalendar_of_near hc (by simp only [TimePoint.relabel_seconds]; omega)
      (by simp only [TimePoint.relabel_seconds]; omega))
  -- The instant itself, six hours on, and what it reads.
  have hcal : (l.relabel (-c.before)).InCalendar :=
    hz.ordinary.inCalendar_of_near hc (by simp only [TimePoint.relabel_seconds]; omega)
      (by simp only [TimePoint.relabel_seconds]; omega)
  have hvn : v.nanos = l.nanos := (reading_eq_iff.mp hv.reading_eq).2
  refine ⟨⟨l.relabel (-c.before), hcal⟩, ?_, rfl, ?_⟩
  · rw [localize?_of_not_firstShows hnone, instantPastGap?_eq_some_iff hl]
    refine ⟨hz.ordinary.inCalendar_of_near hc (by omega) (by omega), v, hv, TimePoint.ext ?_ ?_⟩
    · simp only [TimePoint.relabel_seconds]
      omega
    · exact hvn.symm
  · have hnear := hz.offsetAt_near hc (u := l.seconds + -c.before) (by omega) (by omega)
    rw [if_neg (by omega)] at hnear
    refine reading_eq_iff.mpr ⟨?_, rfl⟩
    simp only [localSecond, TimePoint.relabel_seconds, hnear]
    omega

/-! ## Readings that no instant has -/

/-- A second outside the calendar has the offset of six hours earlier. -/
theorem eq_add_of_not_inCalendar (hz : z.Regular) {u v : Int}
    (hout : ¬ (l.relabel (u - l.seconds)).InCalendar) (hu : z.localSecond u = l.seconds)
    (hv : z.localSecond v = l.seconds - 6 * 3600) : u = v + 6 * 3600 := by
  have hrelabel : (l.relabel (u - l.seconds)).seconds = u := by
    rw [TimePoint.relabel_seconds]
    omega
  have hoffset := hz.offsetAt_lt u
  have hoffset' := hz.offsetAt_lt v
  rw [localSecond] at hu hv
  have hsame : z.offsetAt u = z.offsetAt v := by
    by_contra hne
    rw [← hrelabel] at hne
    exact hout (hz.ordinary.inCalendar_of_offsetAt_ne (by omega) (by omega) hne)
  omega

/-- A local second that is never shown, although the one six hours earlier
is, lies in the first six hours of a gap. -/
theorem exists_skips_of_shown_before (hz : z.Regular) {s v : Int}
    (hnone : ∀ u, z.localSecond u ≠ s) (hv : z.localSecond v = s - 6 * 3600) :
    ∃ c ∈ z.turns, c.Skips s ∧ s < c.start + c.before + 6 * 3600 := by
  obtain ⟨c, hc, hskips⟩ := exists_skips_of_not_shown hnone
  refine ⟨c, hc, hskips, Int.not_le.mp fun hdeep => ?_⟩
  have hhigh := hskips.2
  exact hz.not_shown_of_skips hc ⟨by omega, by omega⟩ v hv

/-- A reading that no instant has, and that is not in the first six hours
of a gap, has no stand-in. -/
theorem localize?_eq_none (hz : z.Regular) (hl : l.nanos < nanosPerSecond)
    (hnone : ∀ i, z.reading i ≠ l)
    (hgaps : ∀ c ∈ z.turns, c.Skips l.seconds → c.start + c.before + 6 * 3600 ≤ l.seconds) :
    z.localize? l = none := by
  rw [localize?_of_not_firstShows fun i hi => hnone i hi.reading_eq,
    Option.eq_none_iff_forall_ne_some]
  intro i hi
  obtain ⟨-, v, hv, hiv⟩ := (instantPastGap?_eq_some_iff hl).mp hi
  have hshown : z.localSecond v.seconds = l.seconds - 6 * 3600 :=
    (reading_eq_iff.mp hv.reading_eq).1
  by_cases hread : ∃ u, z.localSecond u = l.seconds
  · obtain ⟨u, hu⟩ := hread
    have hout : ¬ (l.relabel (u - l.seconds)).InCalendar := fun hcal =>
      hnone ⟨_, hcal⟩ (reading_eq_iff.mpr ⟨by
        rw [TimePoint.relabel_seconds, show l.seconds + (u - l.seconds) = u by omega]
        exact hu, rfl⟩)
    have hus := hz.eq_add_of_not_inCalendar hout hu hshown
    have his : i.seconds = v.seconds + 6 * 3600 := congrArg TimePoint.seconds hiv
    have hcal := i.inCalendar
    refine hout ?_
    simp only [TimePoint.InCalendar, TimePoint.relabel_seconds] at hcal ⊢
    omega
  · obtain ⟨c, hc, hskips, hshallow⟩ :=
      hz.exists_skips_of_shown_before (not_exists.mp hread) hshown
    have hdeep := hgaps c hc hskips
    omega

/-- The stand-in for a reading that has no instant comes after every
instant that reads less. -/
theorem lt_relabel_of_localSecond_lt (hz : z.Regular) (hnone : ∀ i, ¬ z.FirstShows l i)
    {n v : Instant} (hn : z.localSecond n.seconds < l.seconds)
    (hv : z.FirstShows (l.hoursEarlier 6) v) :
    n.toTimePoint < v.relabel (3600 * 6) := by
  refine TimePoint.not_le.mp fun hle => ?_
  rw [TimePoint.le_iff, TimePoint.relabel_seconds] at hle
  have hshown : z.localSecond v.seconds = l.seconds - 6 * 3600 :=
    (reading_eq_iff.mp hv.reading_eq).1
  by_cases hread : ∃ u, z.localSecond u = l.seconds
  · obtain ⟨w, hw⟩ := hread
    obtain ⟨u, hu⟩ := exists_isLeast_localSecond hw
    have hout : ¬ (l.relabel (u - l.seconds)).InCalendar := fun hcal =>
      let ⟨i, hi, _⟩ := exists_firstShows_of_isLeast hu hcal
      hnone i hi
    -- The second lies between two instants, so it is in the calendar after all.
    have hus := hz.eq_add_of_not_inCalendar hout hu.1 hshown
    have hvcal := v.inCalendar
    have hncal := n.inCalendar
    refine hout ?_
    simp only [TimePoint.InCalendar, TimePoint.relabel_seconds] at hvcal hncal ⊢
    omega
  · obtain ⟨c, hc, hskips, hshallow⟩ :=
      hz.exists_skips_of_shown_before (not_exists.mp hread) hshown
    have hvs : v.seconds = l.seconds - 6 * 3600 - c.before :=
      hv.isLeast.unique (hz.isLeast_before_gap hc hskips hshallow)
    obtain ⟨hlow, hhigh⟩ := hskips
    have hafter := hz.after_lt hc
    have hoffset := hz.offsetAt_lt n.seconds
    rw [localSecond] at hn
    rcases Int.lt_or_le n.seconds (c.start + 48 * 3600) with hnear | hfar
    · have hoff := hz.offsetAt_near hc (u := n.seconds) (by omega) hnear
      rw [if_neg (by omega)] at hoff
      omega
    · omega

/-! ## Clocks that were put back -/

/-- A reading later than the one at an instant was had before that instant
only if a turn put the clocks back over it. -/
theorem exists_reading_eq_iff_turn (hz : z.Regular) {n : Instant}
    (hlater : z.localSecond n.seconds < l.seconds) :
    (∃ i ≤ n, z.reading i = l) ↔
      ∃ c ∈ z.turns, c.start ≤ n.seconds ∧ l.seconds < c.start + c.before := by
  constructor
  · rintro ⟨i, hle, hi⟩
    rw [Instant.le_iff] at hle
    have hshown := (reading_eq_iff.mp hi).1
    have hoffset := hz.offsetAt_lt i.seconds
    have hoffset' := hz.offsetAt_lt n.seconds
    rw [localSecond] at hlater hshown
    obtain ⟨c, hc, hbefore, hafter⟩ :=
      exists_turn_of_offsetAt_ne (z := z) (u := i.seconds) (v := n.seconds) (by omega) (by omega)
    have hnear := hz.offsetAt_near hc (u := i.seconds) (by omega) (by omega)
    rw [if_pos hbefore] at hnear
    exact ⟨c, hc, hafter, by omega⟩
  · rintro ⟨c, hc, hstart, hover⟩
    have hbefore := hz.before_lt hc
    have hafter := hz.after_lt hc
    have hoffset := hz.offsetAt_lt n.seconds
    rw [localSecond] at hlater
    have hsoon : n.seconds < c.start + 48 * 3600 := by omega
    have hnow := hz.offsetAt_near hc (u := n.seconds) (by omega) hsoon
    rw [if_neg (by omega)] at hnow
    -- The clock had the reading under the offset that the turn ended.
    have hold := hz.offsetAt_near hc (u := l.seconds + -c.before) (by omega) (by omega)
    rw [if_pos (by omega)] at hold
    have hcal : (l.relabel (-c.before)).InCalendar :=
      hz.ordinary.inCalendar_of_near hc (by rw [TimePoint.relabel_seconds]; omega)
        (by rw [TimePoint.relabel_seconds]; omega)
    refine ⟨⟨_, hcal⟩, Instant.le_iff.mpr (Or.inl ?_), reading_eq_iff.mpr ⟨?_, rfl⟩⟩
    · rw [TimePoint.relabel_seconds]
      omega
    · rw [localSecond, TimePoint.relabel_seconds, hold]
      omega

end Regular

/-! ## The law of `localize?` -/

/-- Where a reading outside leap seconds goes in a regular zone. A clock
set by the reading is at that instant. -/
theorem localize?_law {z : Zone} (hz : z.Regular) {l : Reading} (hl : l.nanos < nanosPerSecond) :
    (∀ i, z.reading i = l →
      ∃ first, z.localize? l = some first ∧ z.reading first = l ∧ first.nanos = l.nanos ∧
        ∀ j, z.reading j = l → first ≤ j) ∧
    (∀ c ∈ z.turns, c.Skips l.seconds → l.seconds < c.start + c.before + 6 * 3600 →
      ∃ i, z.localize? l = some i ∧ i.toTimePoint = l.relabel (-c.before) ∧
        z.reading i = ⟨l.relabel (c.after - c.before)⟩) ∧
    ((∀ i, z.reading i ≠ l) →
      (∀ c ∈ z.turns, c.Skips l.seconds → c.start + c.before + 6 * 3600 ≤ l.seconds) →
      z.localize? l = none) ∧
    ZonedTime.ofReading? z l = (z.localize? l).map (ZonedTime.mk z) := by
  refine ⟨fun i hi => ?_, fun c hc hskips hsix => hz.localize?_of_skips hl hc hskips hsix,
    fun hnone hgaps => hz.localize?_eq_none hl hnone hgaps, rfl⟩
  obtain ⟨first, hfirst⟩ := hz.ordinary.exists_firstShows hi
  exact ⟨first, localize?_of_firstShows hfirst, hfirst.reading_eq,
    (reading_eq_iff.mp hfirst.reading_eq).2, fun j hj => hfirst.le hj⟩

/-- Clocks in Berlin skipped half past two on 2024-03-31. The reading goes
to the instant that reads half past three. -/
theorem localize?_law_berlin :
    berlin.Regular ∧ 0 < nanosPerSecond ∧ (⟨1711846800, 3600, 7200⟩ : Turn) ∈ berlin.turns ∧
    ∃ i, berlin.localize? ⟨1711852200, 0, zero_nanos_lt⟩ = some i ∧
      berlin.reading i = ⟨1711855800, 0, zero_nanos_lt⟩ := by
  have hz : berlin.Regular := regular_of_mem_known _ (by simp [known])
  have hc : (⟨1711846800, 3600, 7200⟩ : Turn) ∈ berlin.turns := by decide +kernel
  refine ⟨hz, by decide, hc, ?_⟩
  obtain ⟨i, hi, -, hreads⟩ := (localize?_law hz (l := ⟨1711852200, 0, zero_nanos_lt⟩)
    (by decide)).2.1 _ hc ⟨by decide, by decide⟩ (by decide)
  exact ⟨i, hi, hreads⟩

end DueTime.Zone
