/-
DueTime.Proofs.Zone.Regular — zones whose clocks are set rarely and by
less than a day or so.

A `Turn` is a transition together with the offset that it ends. A zone is
`Regular` when its turns lie between the years 1800 and 2100 and at least
48 hours apart, its offsets are below 16 hours, and no turn moves the
clocks by more than 24 hours. So it is an ordinary zone
(`Regular.ordinary`), and a few facts need no more than that.

All that the rest of the theory needs of such a zone is here. Within 48
hours of a turn the offset is the one before it or the one after it
(`Regular.offsetAt_near`); an offset that has changed betrays a turn
(`exists_turn_of_offsetAt_ne`); a local second that is never shown is
skipped by a turn, and skipped seconds are never shown
(`exists_skips_of_not_shown`, `Regular.not_shown_of_skips`); and what
happens near a turn happens on a day of the calendar
(`Ordinary.inCalendar_of_near`).
-/
import DueTime.Proofs.Zone.FirstShown
import Mathlib.Data.List.Chain

namespace DueTime

/-! ## Turns -/

/-- A transition of a zone, with the offset that it ends. -/
structure Turn where
  start : Int
  before : Int
  after : Int
  deriving Repr, DecidableEq

/-- The local second lies in the gap that the turn makes: clocks jump
over it. -/
def Turn.Skips (c : Turn) (l : Int) : Prop :=
  c.start + c.before ≤ l ∧ l < c.start + c.after

namespace Zone

/-- The turns that transitions make, when `current` is in force before
them. -/
def turnsFrom (current : Int) : List Transition → List Turn
  | [] => []
  | t :: ts => ⟨t.start, current, t.offset⟩ :: turnsFrom t.offset ts

/-- The turns of a zone, in order. -/
def turns (z : Zone) : List Turn :=
  turnsFrom z.initial z.transitions

variable {current : Int} {ts : List Transition}

theorem exists_transition_of_mem_turnsFrom {c : Turn} (hc : c ∈ turnsFrom current ts) :
    ∃ t ∈ ts, t.start = c.start ∧ t.offset = c.after := by
  induction ts generalizing current with
  | nil => simp [turnsFrom] at hc
  | cons t ts ih =>
    rcases List.mem_cons.mp hc with rfl | hc
    · exact ⟨t, List.mem_cons_self, rfl, rfl⟩
    · obtain ⟨u, hu, hstart, hoffset⟩ := ih hc
      exact ⟨u, List.mem_cons_of_mem _ hu, hstart, hoffset⟩

/-- Where the offset has changed there was a turn. -/
theorem exists_turnsFrom_of_offsetFrom_ne {u v : Int} (huv : u ≤ v)
    (hne : offsetFrom current ts u ≠ offsetFrom current ts v) :
    ∃ c ∈ turnsFrom current ts, u < c.start ∧ c.start ≤ v := by
  induction ts generalizing current with
  | nil => exact absurd rfl hne
  | cons t ts ih =>
    rcases Int.lt_or_le u t.start with hu | hu
    · rcases Int.lt_or_le v t.start with hv | hv
      · rw [offsetFrom_cons_of_lt hu, offsetFrom_cons_of_lt hv] at hne
        exact absurd rfl hne
      · exact ⟨_, List.mem_cons_self, hu, hv⟩
    · rw [offsetFrom_cons_of_le hu, offsetFrom_cons_of_le (by omega)] at hne
      obtain ⟨c, hc, hcu, hcv⟩ := ih hne
      exact ⟨c, List.mem_cons_of_mem _ hc, hcu, hcv⟩

theorem exists_turn_of_offsetAt_ne {z : Zone} {u v : Int} (huv : u ≤ v)
    (hne : z.offsetAt u ≠ z.offsetAt v) : ∃ c ∈ z.turns, u < c.start ∧ c.start ≤ v :=
  exists_turnsFrom_of_offsetFrom_ne huv hne

/-- A local second that no clock shows from `from?` on, although clocks
show earlier ones there, is skipped by a turn. -/
theorem exists_skips_of_shownFrom_eq_empty (from? : Option Int) {l : Int} (hts : InOrder ts)
    (hfrom : ∀ b ∈ from?, ∀ t ∈ ts, b < t.start) (hbegin : ∀ b ∈ from?, b + current ≤ l)
    (hnone : shownFrom from? current ts l = ∅) : ∃ c ∈ turnsFrom current ts, c.Skips l := by
  induction ts generalizing from? current with
  | nil =>
    refine absurd ?_ (Set.eq_empty_iff_forall_notMem.mp hnone (l - current))
    refine ⟨fun b hb => ?_, by simp [offsetFrom]⟩
    have := hbegin b hb
    omega
  | cons t ts ih =>
    obtain ⟨ht, hts⟩ := List.pairwise_cons.mp hts
    have hstart : ∀ b ∈ from?, b < t.start := fun b hb => hfrom b hb t List.mem_cons_self
    rcases Int.lt_or_le l (t.start + current) with hl | hl
    · refine absurd ?_ (Set.eq_empty_iff_forall_notMem.mp hnone (l - current))
      refine ⟨fun b hb => ?_, ?_⟩
      · have := hbegin b hb
        omega
      · rw [offsetFrom_cons_of_lt (by omega)]
        omega
    · rcases Int.lt_or_le l (t.start + t.offset) with hskip | hafter
      · exact ⟨_, List.mem_cons_self, hl, hskip⟩
      · rw [shownFrom_cons hstart (by omega)] at hnone
        obtain ⟨c, hc, hskips⟩ := ih (some t.start) hts (by simpa using ht) (by simpa using hafter)
          hnone
        exact ⟨c, List.mem_cons_of_mem _ hc, hskips⟩

theorem exists_skips_of_not_shown {z : Zone} {l : Int} (h : ∀ u, z.localSecond u ≠ l) :
    ∃ c ∈ z.turns, c.Skips l := by
  refine exists_skips_of_shownFrom_eq_empty none z.inOrder (by simp) (by simp) ?_
  refine Set.eq_empty_iff_forall_notMem.mpr fun u hu => h u hu.2

/-- Near a turn the offset is the one that it ends or the one that it
brings, when all transitions are at least `width` apart. -/
theorem offsetFrom_near {width u : Int} {c : Turn}
    (hapart : ts.Pairwise fun s t => s.start + width ≤ t.start)
    (hc : c ∈ turnsFrom current ts) (hlow : c.start - width ≤ u) (hhigh : u < c.start + width) :
    offsetFrom current ts u = if u < c.start then c.before else c.after := by
  induction ts generalizing current with
  | nil => simp [turnsFrom] at hc
  | cons t ts ih =>
    obtain ⟨ht, hts⟩ := List.pairwise_cons.mp hapart
    rcases List.mem_cons.mp hc with rfl | hc
    · split
      · rename_i hu
        exact offsetFrom_cons_of_lt hu
      · rename_i hu
        rw [offsetFrom_cons_of_le (Int.not_lt.mp hu)]
        refine offsetFrom_of_lt fun s hs => ?_
        have := ht s hs
        simp only at hhigh
        omega
    · obtain ⟨s, hs, hstart, -⟩ := exists_transition_of_mem_turnsFrom hc
      have := ht s hs
      rw [offsetFrom_cons_of_le (by omega)]
      exact ih hts hc

theorem offsetFrom_eq_or (current : Int) (ts : List Transition) (u : Int) :
    offsetFrom current ts u = current ∨ ∃ t ∈ ts, offsetFrom current ts u = t.offset := by
  induction ts generalizing current with
  | nil => exact Or.inl rfl
  | cons t ts ih =>
    rcases Int.lt_or_le u t.start with hu | hu
    · exact Or.inl (offsetFrom_cons_of_lt hu)
    · rw [offsetFrom_cons_of_le hu]
      rcases ih t.offset with h | ⟨s, hs, h⟩
      · exact Or.inr ⟨t, List.mem_cons_self, h⟩
      · exact Or.inr ⟨s, List.mem_cons_of_mem _ hs, h⟩

/-- What holds of all offsets of a zone holds of the one in force. -/
theorem offsetAt_of_forall {z : Zone} {P : Int → Prop} (hinitial : P z.initial)
    (hoffset : ∀ t ∈ z.transitions, P t.offset) (u : Int) : P (z.offsetAt u) := by
  rcases offsetFrom_eq_or z.initial z.transitions u with h | ⟨t, ht, h⟩
  · rw [offsetAt, h]
    exact hinitial
  · rw [offsetAt, h]
    exact hoffset t ht

/-! ## Ordinary zones -/

namespace Ordinary

variable {z : Zone}

theorem offsetAt_lt (hz : z.Ordinary) (u : Int) : (z.offsetAt u).natAbs < 86400 :=
  offsetAt_of_forall (P := fun offset => offset.natAbs < 86400) hz.initial_lt
    (fun _ ht => (hz.transition ht).offset_lt) u

/-- What happens within 30 days of a turn happens in the calendar. -/
theorem inCalendar_of_near (hz : z.Ordinary) {c : Turn} (hc : c ∈ z.turns) {t : TimePoint}
    (hlow : c.start - 30 * 86400 ≤ t.seconds) (hhigh : t.seconds ≤ c.start + 30 * 86400) :
    t.InCalendar := by
  obtain ⟨s, hs, hstart, -⟩ := exists_transition_of_mem_turnsFrom hc
  have hfirst := (hz.transition hs).le_start
  have hlast := (hz.transition hs).start_lt
  have hyear : yearStart 0 = -62167219200 := by decide
  have hyear' : yearStart 10000 = 253402300800 := by decide
  simp only [TimePoint.InCalendar, firstDay, lastDay, secondsPerDay]
  omega

end Ordinary

/-! ## Regular zones -/

/-- The zone's offsets are strictly within 16 hours and change by 24 hours
at most, its transitions are at least 48 hours apart, and they lie in the
years from 1800 to 2100. -/
structure Regular (z : Zone) : Prop where
  initial_lt : z.initial.natAbs < 16 * 3600
  offset_lt : ∀ t ∈ z.transitions, t.offset.natAbs < 16 * 3600
  change_le : ∀ c ∈ z.turns, (c.after - c.before).natAbs ≤ 24 * 3600
  apart : z.transitions.IsChain fun s t => s.start + 48 * 3600 ≤ t.start
  first_le : ∀ t ∈ z.transitions, yearStart 1800 ≤ t.start
  lt_last : ∀ t ∈ z.transitions, t.start < yearStart 2101

theorem regular_iff {z : Zone} :
    z.Regular ↔ z.initial.natAbs < 16 * 3600 ∧
      (∀ t ∈ z.transitions, t.offset.natAbs < 16 * 3600) ∧
      (∀ c ∈ z.turns, (c.after - c.before).natAbs ≤ 24 * 3600) ∧
      (z.transitions.IsChain fun s t => s.start + 48 * 3600 ≤ t.start) ∧
      (∀ t ∈ z.transitions, yearStart 1800 ≤ t.start) ∧
      ∀ t ∈ z.transitions, t.start < yearStart 2101 :=
  ⟨fun ⟨h₁, h₂, h₃, h₄, h₅, h₆⟩ => ⟨h₁, h₂, h₃, h₄, h₅, h₆⟩,
    fun ⟨h₁, h₂, h₃, h₄, h₅, h₆⟩ => ⟨h₁, h₂, h₃, h₄, h₅, h₆⟩⟩

instance (z : Zone) : Decidable z.Regular :=
  decidable_of_iff _ regular_iff.symm

namespace Regular

variable {z : Zone} {c : Turn}

theorem offsetAt_lt (hz : z.Regular) (u : Int) : (z.offsetAt u).natAbs < 16 * 3600 :=
  offsetAt_of_forall (P := fun offset => offset.natAbs < 16 * 3600) hz.initial_lt hz.offset_lt u

theorem offsetAt_near (hz : z.Regular) (hc : c ∈ z.turns) {u : Int}
    (hlow : c.start - 48 * 3600 ≤ u) (hhigh : u < c.start + 48 * 3600) :
    z.offsetAt u = if u < c.start then c.before else c.after := by
  refine offsetFrom_near ?_ hc hlow hhigh
  have htrans : IsTrans Transition fun s t => s.start + 48 * 3600 ≤ t.start :=
    ⟨fun a b c hab hbc => by omega⟩
  exact List.isChain_iff_pairwise.mp hz.apart

theorem ordinary (hz : z.Regular) : z.Ordinary where
  initial_lt := Nat.lt_trans hz.initial_lt (by decide)
  transition {t} ht := by
    have hoffset := hz.offset_lt t ht
    have hfirst := hz.first_le t ht
    have hlast := hz.lt_last t ht
    have h1800 : yearStart 0 ≤ yearStart 1800 := by decide
    have h2101 : yearStart 2101 ≤ yearStart 10000 := by decide
    exact ⟨by omega, by omega, by omega⟩

/-- The offsets on the two sides of a turn. -/
theorem before_lt (hz : z.Regular) (hc : c ∈ z.turns) : c.before.natAbs < 16 * 3600 := by
  have h := hz.offsetAt_near hc (u := c.start - 1) (by omega) (by omega)
  rw [if_pos (by omega)] at h
  rw [← h]
  exact hz.offsetAt_lt _

theorem after_lt (hz : z.Regular) (hc : c ∈ z.turns) : c.after.natAbs < 16 * 3600 := by
  have h := hz.offsetAt_near hc (u := c.start) (by omega) (by omega)
  rw [if_neg (by omega)] at h
  rw [← h]
  exact hz.offsetAt_lt _

/-- A second that is skipped by a turn is shown by no clock. -/
theorem not_shown_of_skips (hz : z.Regular) (hc : c ∈ z.turns) {l : Int} (hl : c.Skips l)
    (u : Int) : z.localSecond u ≠ l := by
  obtain ⟨hlow, hhigh⟩ := hl
  intro hu
  have hoffset := hz.offsetAt_lt u
  have hbefore := hz.before_lt hc
  have hafter := hz.after_lt hc
  rw [localSecond] at hu
  have hnear := hz.offsetAt_near hc (u := u) (by omega) (by omega)
  split at hnear <;> omega

end Regular

end Zone

end DueTime
