/-
DueTime.Proofs.Zone.Steady — clocks that nobody sets for a while.

A zone is steady around a second of UTC when one offset is in force for some
time before and after it. That alone does not keep clocks from showing a
reading of that day once more, far away and under another offset. But with
offsets of 16 hours at most they would have to show it within 56 hours, and
so under the same offset (`Steady.localSecond_eq_iff`).
-/
import DueTime.Proofs.Zone.Regular
import DueTime.Proofs.Calendar.Margin

namespace DueTime.Zone

variable {z : Zone}

/-! ## Bounded offsets -/

/-- The zone's clocks are never further from UTC than so many seconds. -/
structure OffsetsWithin (z : Zone) (most : Nat) : Prop where
  initial_le : z.initial.natAbs ≤ most
  offset_le : ∀ t ∈ z.transitions, t.offset.natAbs ≤ most

theorem OffsetsWithin.offsetAt_le {most : Nat} (hz : z.OffsetsWithin most) (u : Int) :
    (z.offsetAt u).natAbs ≤ most :=
  offsetAt_of_forall (P := fun offset => offset.natAbs ≤ most) hz.initial_le hz.offset_le u

/-! ## Steady clocks -/

/-- The zone has one offset from so many seconds before a second of UTC to
as many after it. -/
def Steady (z : Zone) (around width : Int) : Prop :=
  ∀ u, around - width ≤ u → u ≤ around + width → z.offsetAt u = z.offsetAt around

/-- A zone is steady where it has no turn. -/
theorem steady_of_turns {around width : Int}
    (h : ∀ c ∈ z.turns, c.start ≤ around - width ∨ around + width < c.start) :
    z.Steady around width := by
  intro u hlow hhigh
  by_contra hne
  rcases Int.le_total u around with hu | hu
  · obtain ⟨c, hc, hcu, hcv⟩ := exists_turn_of_offsetAt_ne hu hne
    have := h c hc
    omega
  · obtain ⟨c, hc, hcu, hcv⟩ := exists_turn_of_offsetAt_ne hu (Ne.symm hne)
    have := h c hc
    omega

theorem Regular.offsetsWithin (hz : z.Regular) : z.OffsetsWithin (16 * 3600) where
  initial_le := hz.initial_lt.le
  offset_le t ht := (hz.offset_lt t ht).le

namespace Steady

variable {n : Instant} (hz : z.OffsetsWithin (16 * 3600))
  (hsteady : z.Steady n.seconds (72 * 3600))
include hz hsteady

/-- What clocks show within a day of what they show at an instant, they
show once, and under the offset of that instant. -/
theorem localSecond_eq_iff {l u : Int} (hlow : z.localSecond n.seconds - 86400 ≤ l)
    (hhigh : l ≤ z.localSecond n.seconds + 86400) :
    z.localSecond u = l ↔ u = l - z.offsetAt n.seconds := by
  have hoffset := hz.offsetAt_le n.seconds
  rw [localSecond] at hlow hhigh
  constructor
  · intro hu
    rw [localSecond] at hu
    have hoffset' := hz.offsetAt_le u
    have hsame := hsteady u (by omega) (by omega)
    omega
  · intro hu
    have hsame := hsteady u (by omega) (by omega)
    rw [localSecond, hsame]
    omega

/-- So a reading within a day of the one at an instant far from the ends of
the calendar goes to that instant's offset. -/
theorem exists_firstShows {l : Reading} (hmargin : n.HasMargin 4)
    (hlow : z.localSecond n.seconds - 86400 ≤ l.seconds)
    (hhigh : l.seconds ≤ z.localSecond n.seconds + 86400) :
    ∃ i, z.FirstShows l i ∧ i.seconds = l.seconds - z.offsetAt n.seconds := by
  have honce {u : Int} := localSecond_eq_iff hz hsteady (u := u) hlow hhigh
  have hleast : IsLeast {u | z.localSecond u = l.seconds} (l.seconds - z.offsetAt n.seconds) :=
    ⟨honce.mpr rfl, fun u hu => (honce.mp hu).ge⟩
  refine exists_firstShows_of_isLeast hleast ?_
  have hoffset := hz.offsetAt_le n.seconds
  rw [localSecond] at hlow hhigh
  refine hmargin.inCalendar ?_ ?_
  · rw [TimePoint.relabel_seconds]
    omega
  · rw [TimePoint.relabel_seconds]
    omega

end Steady

end DueTime.Zone
