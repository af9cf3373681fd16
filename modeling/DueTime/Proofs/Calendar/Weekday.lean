/-
DueTime.Proofs.Calendar.Weekday — the next day of a name.

`Weekday.daysUntil` counts with the places of the days in the week. What
it counts is said here of the days themselves: the least number of days,
one at least, after which a day of the name comes.
-/
import DueTime.Calendar.Date
import Mathlib.Order.Bounds.Basic

namespace DueTime.Weekday

theorem index_injective : Function.Injective index :=
  Function.LeftInverse.injective ofIndex_index

theorem ofDayNumber_eq_iff {number : Int} {w : Weekday} :
    ofDayNumber number = w ↔ (number + 3) % 7 = w.index.val := by
  have hindex : ((ofDayNumber number).index.val : Int) = (number + 3) % 7 := by
    rw [ofDayNumber, index_ofIndex]
    exact Int.toNat_of_nonneg (Int.emod_nonneg _ (by decide))
  constructor
  · rintro rfl
    exact hindex.symm
  · intro h
    refine index_injective (Fin.ext ?_)
    omega

/-- `daysUntil` leads to the first day of the name after a given day. -/
theorem isLeast_daysUntil (number : Int) (w : Weekday) :
    IsLeast {k : Nat | 1 ≤ k ∧ ofDayNumber (number + k) = w}
      ((ofDayNumber number).daysUntil w) := by
  have htoday : (number + 3) % 7 = (ofDayNumber number).index.val := ofDayNumber_eq_iff.mp rfl
  have hcurrent := (ofDayNumber number).index.isLt
  have htarget := w.index.isLt
  constructor
  · refine ⟨one_le_daysUntil _ _, ofDayNumber_eq_iff.mpr ?_⟩
    unfold daysUntil
    omega
  · rintro k ⟨hk, hday⟩
    rw [ofDayNumber_eq_iff] at hday
    unfold daysUntil
    omega

/-- The next day of a name is at most a week ahead. -/
theorem le_seven_of_isLeast {number : Int} {w : Weekday} {k : Nat}
    (hk : IsLeast {k : Nat | 1 ≤ k ∧ ofDayNumber (number + k) = w} k) : k ≤ 7 := by
  rw [hk.unique (isLeast_daysUntil number w)]
  exact daysUntil_le_seven _ _

theorem daysUntil_self (w : Weekday) : w.daysUntil w = 7 := by
  unfold daysUntil
  omega

/-- The name of a day comes again after seven days and no sooner. -/
theorem isLeast_seven (number : Int) :
    IsLeast {k : Nat | 1 ≤ k ∧ ofDayNumber (number + k) = ofDayNumber number} 7 := by
  rw [← daysUntil_self (ofDayNumber number)]
  exact isLeast_daysUntil number (ofDayNumber number)

/-- The next day of a name does not come earlier when it is looked for from
a later day. -/
theorem add_le_add_of_isLeast {number number' : Int} {w : Weekday} {k k' : Nat}
    (hle : number ≤ number')
    (hk : IsLeast {k : Nat | 1 ≤ k ∧ ofDayNumber (number + k) = w} k)
    (hk' : IsLeast {k : Nat | 1 ≤ k ∧ ofDayNumber (number' + k) = w} k') :
    number + k ≤ number' + k' := by
  obtain ⟨hone, hname⟩ := hk'.1
  have hreach : number + ((number' + k' - number).toNat : Int) = number' + k' := by omega
  have hleast : k ≤ (number' + k' - number).toNat :=
    hk.2 ⟨by omega, by rw [hreach]; exact hname⟩
  omega

end DueTime.Weekday
