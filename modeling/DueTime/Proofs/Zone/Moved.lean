/-
DueTime.Proofs.Zone.Moved — what a clock shows at the instant of a reading.

It shows the reading, unless `localize?` had to move it. Then it shows the
reading moved by as much as the offset changed in the six hours before
(`reading_of_localize?`). In a regular zone that is the length of the one
gap that the reading is in, so the clock is on the day of the reading or on
the next, and which of the two can be told from the gap
(`Regular.dayNumber_of_localize?`). In either case the instant is the first
that shows what it shows (`Regular.firstShows_reading_of_localize?`).
-/
import DueTime.Proofs.Zone.Localize

namespace DueTime.Zone

/-- The instant of a reading shows the reading; or no instant is the first
to show it, and it shows the reading moved by what the offset changed. -/
theorem reading_of_localize? {z : Zone} {l : Reading} {i : Instant} (hl : l.nanos < nanosPerSecond)
    (h : z.localize? l = some i) :
    z.reading i = l ∨ (∀ j, ¬ z.FirstShows l j) ∧
      z.reading i = ⟨l.relabel (z.offsetAt i.seconds - z.offsetAt (i.seconds - 6 * 3600))⟩ := by
  by_cases hshown : ∃ j, z.FirstShows l j
  · obtain ⟨j, hj⟩ := hshown
    rw [localize?_of_firstShows hj] at h
    cases h
    exact Or.inl hj.reading_eq
  · have hnone := not_exists.mp hshown
    rw [localize?_of_not_firstShows hnone, instantPastGap?_eq_some_iff hl] at h
    obtain ⟨-, v, hv, hiv⟩ := h
    obtain ⟨hshows, hnanos⟩ := reading_eq_iff.mp hv.reading_eq
    have hearlier : (l.hoursEarlier 6).seconds = l.seconds - 6 * 3600 := rfl
    have hseconds : i.seconds = v.seconds + 3600 * 6 := congrArg TimePoint.seconds hiv
    have hback : i.seconds - 6 * 3600 = v.seconds := by omega
    refine Or.inr ⟨hnone, reading_eq_iff.mpr ⟨?_, (congrArg TimePoint.nanos hiv).trans hnanos⟩⟩
    rw [hback, TimePoint.relabel_seconds, localSecond]
    rw [localSecond] at hshows
    omega

namespace Regular

variable {z : Zone} (hz : z.Regular)
include hz

/-- No two gaps share a reading. -/
theorem eq_of_skips {c c' : Turn} (hc : c ∈ z.turns) (hc' : c' ∈ z.turns) {s : Int}
    (hs : c.Skips s) (hs' : c'.Skips s) : c = c' := by
  obtain ⟨hlow, hhigh⟩ := hs
  obtain ⟨hlow', hhigh'⟩ := hs'
  have hbefore := hz.before_lt hc
  have hbefore' := hz.before_lt hc'
  have hafter := hz.after_lt hc
  have hafter' := hz.after_lt hc'
  have hnear {u : Int} (hl : c.start - 48 * 3600 ≤ u) (hh : u < c.start + 48 * 3600)
      (hl' : c'.start - 48 * 3600 ≤ u) (hh' : u < c'.start + 48 * 3600) :
      (if u < c.start then c.before else c.after) =
        if u < c'.start then c'.before else c'.after :=
    (hz.offsetAt_near hc hl hh).symm.trans (hz.offsetAt_near hc' hl' hh')
  -- Both turns tell the offset right before and right after each of them.
  have hb := hnear (u := c.start - 1) (by omega) (by omega) (by omega) (by omega)
  have ha := hnear (u := c.start) (by omega) (by omega) (by omega) (by omega)
  have hb' := hnear (u := c'.start - 1) (by omega) (by omega) (by omega) (by omega)
  have ha' := hnear (u := c'.start) (by omega) (by omega) (by omega) (by omega)
  have hstart : c.start = c'.start := by
    split at ha <;> split at ha' <;> split at hb <;> split at hb' <;> omega
  rw [hstart, if_pos (by omega), if_pos (by omega)] at hb
  rw [hstart, if_neg (by omega), if_neg (by omega)] at ha
  obtain ⟨start, before, after⟩ := c
  obtain ⟨start', before', after'⟩ := c'
  simp only at hstart hb ha
  rw [hstart, hb, ha]

variable {l : Reading} {i : Instant}

/-- Right after a gap clocks show for the first time what they show. -/
theorem firstShows_after_gap {c : Turn} (hc : c ∈ z.turns) (hgap : c.before < c.after)
    (hlow : c.start ≤ i.seconds) (hhigh : i.seconds < c.start + 24 * 3600) :
    z.FirstShows (z.reading i) i where
  reading_eq := rfl
  seconds_le u hu := by
    have hafter := hz.after_lt hc
    have hoffset := hz.offsetAt_lt u
    have hshown : z.localSecond u = i.seconds + z.offsetAt i.seconds := hu
    have hnow := hz.offsetAt_near hc (u := i.seconds) (by omega) (by omega)
    rw [if_neg (by omega)] at hnow
    rw [localSecond] at hshown
    by_contra hlt
    -- An earlier second would need a greater offset than the turn has brought.
    have hnear := hz.offsetAt_near hc (u := u) (by omega) (by omega)
    split at hnear <;> omega

variable (hl : l.nanos < nanosPerSecond) (h : z.localize? l = some i)
include hl h

/-- The instant of a reading is the first that shows it, or the reading lies
in a gap and its instant comes as long after the turn as the reading lies
behind the start of the gap. -/
theorem firstShows_or_skips_of_localize? :
    z.FirstShows l i ∨ ∃ c ∈ z.turns, c.Skips l.seconds ∧
      i.toTimePoint = l.relabel (-c.before) ∧ z.reading i = ⟨l.relabel (c.after - c.before)⟩ := by
  by_cases hshown : ∃ j, z.reading j = l
  · obtain ⟨j, hj⟩ := hshown
    obtain ⟨first, hfirst⟩ := hz.ordinary.exists_firstShows hj
    rw [localize?_of_firstShows hfirst] at h
    cases h
    exact Or.inl hfirst
  · by_cases hgap : ∃ c ∈ z.turns, c.Skips l.seconds ∧ l.seconds < c.start + c.before + 6 * 3600
    · obtain ⟨c, hc, hskips, hshallow⟩ := hgap
      obtain ⟨j, hj, hmoved⟩ := hz.localize?_of_skips hl hc hskips hshallow
      rw [h] at hj
      cases hj
      exact Or.inr ⟨c, hc, hskips, hmoved⟩
    · have hnone := hz.localize?_eq_none hl (not_exists.mp hshown) fun c hc hskips =>
        Int.not_lt.mp fun hshallow => hgap ⟨c, hc, hskips, hshallow⟩
      rw [h] at hnone
      cases hnone

/-- In a regular zone a reading is moved by the length of its gap. -/
theorem reading_of_localize? :
    z.reading i = l ∧ (∀ c ∈ z.turns, ¬ c.Skips l.seconds) ∨
      ∃ c ∈ z.turns, c.Skips l.seconds ∧ z.reading i = ⟨l.relabel (c.after - c.before)⟩ := by
  rcases hz.firstShows_or_skips_of_localize? hl h with hfirst | ⟨c, hc, hskips, -, hmoved⟩
  · refine Or.inl ⟨hfirst.reading_eq, fun c hc hskips => ?_⟩
    exact hz.not_shown_of_skips hc hskips _ (reading_eq_iff.mp hfirst.reading_eq).1
  · exact Or.inr ⟨c, hc, hskips, hmoved⟩

/-- The instant of a reading is the first to show what it shows, also when
the reading was moved. -/
theorem firstShows_reading_of_localize? : z.FirstShows (z.reading i) i := by
  rcases hz.firstShows_or_skips_of_localize? hl h with hfirst | ⟨c, hc, hskips, hi, -⟩
  · rw [hfirst.reading_eq]
    exact hfirst
  · have hseconds : i.seconds = l.seconds - c.before := congrArg TimePoint.seconds hi
    have hlong := hz.change_le c hc
    obtain ⟨hlow, hhigh⟩ := hskips
    exact hz.firstShows_after_gap hc (by omega) (by omega) (by omega)

/-- The clock is on the day of the reading if no gap moves the reading past
midnight, and on the next day otherwise. -/
theorem dayNumber_of_localize? :
    ((z.reading i).dayNumber = l.dayNumber ↔ ∀ c ∈ z.turns, c.Skips l.seconds →
      (l.seconds + (c.after - c.before)) / secondsPerDay = l.dayNumber) ∧
    ((z.reading i).dayNumber ≠ l.dayNumber → (z.reading i).dayNumber = l.dayNumber + 1) := by
  rcases hz.reading_of_localize? hl h with ⟨hreads, hplain⟩ | ⟨c, hc, hskips, hmoved⟩
  · rw [hreads]
    exact ⟨iff_of_true rfl fun c hc hskips => absurd hskips (hplain c hc),
      fun hne => absurd rfl hne⟩
  · have hday : (z.reading i).dayNumber = (l.seconds + (c.after - c.before)) / secondsPerDay := by
      rw [hmoved]
      rfl
    have hlong := hz.change_le c hc
    obtain ⟨hlow, hhigh⟩ := hskips
    refine ⟨⟨fun hsame c' hc' hskips' => ?_, fun hall => ?_⟩, fun hne => ?_⟩
    · rw [hz.eq_of_skips hc' hc hskips' ⟨hlow, hhigh⟩, ← hday, hsame]
    · rw [hday, hall c hc ⟨hlow, hhigh⟩]
    · rw [hday] at hne ⊢
      simp only [Reading.dayNumber, secondsPerDay] at hne ⊢
      omega

end Regular

end DueTime.Zone
