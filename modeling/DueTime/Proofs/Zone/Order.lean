/-
DueTime.Proofs.Zone.Order — a later day has the later instant.

`localize?` does not keep the order of readings: it moves a reading in a
gap past the readings that clocks show right after the gap. But in a
regular zone it keeps the order of readings that are a day or more apart
(`Regular.localize?_seconds_le`), and so the order of the days on which a
time of day is looked for (`Regular.localize?_date_mono`).

Each instant comes from its reading by an offset that is in force at it or
was six hours earlier (`exists_offset_of_localize?`). Two such offsets
differ by more than a day only when the instants are far apart
(`Regular.offsetAt_sub_le`), and readings a day apart whose instants come
in the wrong order would need just that.
-/
import DueTime.Proofs.Zone.Moved

namespace DueTime.Zone

/-- The instant of a reading is under an offset that is in force at most
six hours before it. -/
theorem exists_offset_of_localize? {z : Zone} {l : Reading} {i : Instant}
    (hl : l.nanos < nanosPerSecond) (h : z.localize? l = some i) :
    i.nanos = l.nanos ∧
      ∃ u, i.seconds - 6 * 3600 ≤ u ∧ u ≤ i.seconds ∧ i.seconds + z.offsetAt u = l.seconds := by
  cases reading_of_localize? hl h with
  | inl hreads =>
    obtain ⟨hseconds, hnanos⟩ := reading_eq_iff.mp hreads
    exact ⟨hnanos, i.seconds, by omega, by omega, hseconds⟩
  | inr hmoved =>
    obtain ⟨hseconds, hnanos⟩ := reading_eq_iff.mp hmoved.2
    rw [localSecond, TimePoint.relabel_seconds] at hseconds
    exact ⟨hnanos, i.seconds - 6 * 3600, by omega, by omega, by omega⟩

namespace Regular

variable {z : Zone} (hz : z.Regular)
include hz

/-- Less than 48 hours apart there is one turn at most, so the offsets
differ by 24 hours at most. -/
theorem offsetAt_sub_le {u v : Int} (huv : u ≤ v) (hnear : v < u + 48 * 3600) :
    (z.offsetAt v - z.offsetAt u).natAbs ≤ 24 * 3600 := by
  by_cases hsame : z.offsetAt u = z.offsetAt v
  · rw [hsame]
    omega
  · obtain ⟨c, hc, hu, hv⟩ := exists_turn_of_offsetAt_ne huv hsame
    have hbefore := hz.offsetAt_near hc (u := u) (by omega) (by omega)
    have hafter := hz.offsetAt_near hc (u := v) (by omega) (by omega)
    rw [if_pos hu] at hbefore
    rw [if_neg (by omega)] at hafter
    rw [hbefore, hafter]
    exact hz.change_le c hc

/-- Of two readings a day or more apart, the later has no earlier
instant. -/
theorem localize?_seconds_le {l l' : Reading} {i j : Instant} (hl : l.nanos < nanosPerSecond)
    (hl' : l'.nanos < nanosPerSecond) (hday : l.seconds + secondsPerDay ≤ l'.seconds)
    (hi : z.localize? l = some i) (hj : z.localize? l' = some j) : i.seconds ≤ j.seconds := by
  obtain ⟨-, u, hlow, hhigh, hu⟩ := exists_offset_of_localize? hl hi
  obtain ⟨-, v, hlow', hhigh', hv⟩ := exists_offset_of_localize? hl' hj
  have hoffset := hz.offsetAt_lt u
  have hoffset' := hz.offsetAt_lt v
  simp only [secondsPerDay] at hday
  rcases Int.le_total i.seconds j.seconds with hle | hle
  · exact hle
  · -- The offsets would have to be at least as far apart as the readings.
    have hchange : (z.offsetAt v - z.offsetAt u).natAbs ≤ 24 * 3600 := by
      rcases Int.le_total u v with huv | hvu
      · exact hz.offsetAt_sub_le huv (by omega)
      · have hback := hz.offsetAt_sub_le hvu (by omega)
        omega
    omega

/-- The same time of day on a later day has no earlier instant. -/
theorem localize?_date_mono {d e : Date} {time : HourMinute} {i j : Instant}
    (hde : d.number ≤ e.number) (hi : z.localize? (d.reading time) = some i)
    (hj : z.localize? (e.reading time) = some j) : i ≤ j := by
  by_cases hsame : d.number = e.number
  · obtain rfl : d = e := Date.ext hsame
    rw [hi] at hj
    cases hj
    exact Instant.le_refl _
  · have hday : (d.reading time).seconds + secondsPerDay ≤ (e.reading time).seconds := by
      simp only [Date.reading, secondsPerDay]
      omega
    have hnanos := d.reading_nanos_lt time
    have hseconds := hz.localize?_seconds_le hnanos (e.reading_nanos_lt time) hday hi hj
    have hwhole : i.nanos = 0 := (exists_offset_of_localize? hnanos hi).1
    rw [Instant.le_iff]
    omega

end Regular

end DueTime.Zone
