/-
DueTime.Proofs.Zone.FirstShown — the lookup by local spans finds the first
second at which a clock shows a reading.

`Zone.localSecond` is what a clock in the zone shows at a second of UTC,
and every second of UTC counts, also one outside the calendar. The lookup
of `Zone.Localize` goes from span to span of the zone's offsets.
`offsetOfLocal?_eq_some_iff` and `offsetOfLocal?_eq_none_iff` say what it
finds without speaking of spans: the offset at the least second that shows
the reading, and nothing when no second shows it. They hold in every zone,
whatever its offsets are and however close its transitions stand.

The induction behind them carries the second from which the span of the
current offset begins. `shownFrom_cons` is its step: a span that does not
hold the reading has no second that shows it, so the transitions after it
decide.
-/
import DueTime.Zone.Localize
import DueTime.Proofs.Calendar.TimePoint
import Mathlib.Order.Bounds.Basic

namespace DueTime.Zone

/-! ## Offsets in force -/

variable {current : Int} {ts : List Transition}

theorem offsetFrom_of_lt {second : Int} (h : ∀ t ∈ ts, second < t.start) :
    offsetFrom current ts second = current := by
  cases ts with
  | nil => rfl
  | cons t ts =>
    have ht := h t List.mem_cons_self
    rw [offsetFrom, if_neg (by omega)]

/-- A second before the next transition has the current offset. -/
theorem offsetFrom_cons_of_lt {t : Transition} {second : Int} (h : second < t.start) :
    offsetFrom current (t :: ts) second = current := by
  rw [offsetFrom, if_neg (by omega)]

theorem offsetFrom_cons_of_le {t : Transition} {second : Int} (h : t.start ≤ second) :
    offsetFrom current (t :: ts) second = offsetFrom t.offset ts second := by
  rw [offsetFrom, if_pos h]

/-! ## Seconds that show a reading, span by span -/

/-- The seconds, not before `from?`, at which a clock shows the local
second `l`. -/
def shownFrom (from? : Option Int) (current : Int) (ts : List Transition) (l : Int) : Set Int :=
  {u | (∀ b ∈ from?, b ≤ u) ∧ u + offsetFrom current ts u = l}

theorem mem_shownFrom {from? : Option Int} {l u : Int} :
    u ∈ shownFrom from? current ts l ↔
      (∀ b ∈ from?, b ≤ u) ∧ u + offsetFrom current ts u = l :=
  Iff.rfl

theorem all_le_iff {from? : Option Int} {o l : Int} :
    from?.all (· + o ≤ l) = true ↔ ∀ b ∈ from?, b + o ≤ l := by
  cases from? <;> simp

/-- A local second outside the span of the current offset is shown only
from the next transition on. -/
theorem shownFrom_cons {from? : Option Int} {t : Transition} {l : Int}
    (hfrom : ∀ b ∈ from?, b < t.start)
    (hspan : ¬ ((∀ b ∈ from?, b + current ≤ l) ∧ l < t.start + current)) :
    shownFrom from? current (t :: ts) l = shownFrom (some t.start) t.offset ts l := by
  ext u
  rw [mem_shownFrom, mem_shownFrom]
  constructor
  · rintro ⟨hu, hl⟩
    rcases Int.lt_or_le u t.start with hlt | hle
    · rw [offsetFrom_cons_of_lt hlt] at hl
      refine absurd ⟨fun b hb => ?_, by omega⟩ hspan
      have := hu b hb
      omega
    · rw [offsetFrom_cons_of_le hle] at hl
      exact ⟨by simpa using hle, hl⟩
  · rintro ⟨hu, hl⟩
    have hle : t.start ≤ u := by simpa using hu
    rw [offsetFrom_cons_of_le hle]
    refine ⟨fun b hb => ?_, hl⟩
    have := hfrom b hb
    omega

/-- What the lookup says of the seconds that show a local second: the
first of them, or that there is none. -/
theorem spanOffset?_spec (from? : Option Int) (current l : Int) (hts : InOrder ts)
    (hfrom : ∀ b ∈ from?, ∀ t ∈ ts, b < t.start) :
    match spanOffset? from? current ts l with
    | some o => IsLeast (shownFrom from? current ts l) (l - o)
    | none => shownFrom from? current ts l = ∅ := by
  induction ts generalizing from? current with
  | nil =>
    simp only [spanOffset?, all_le_iff]
    split
    · rename_i hspan
      split at hspan
      · rename_i hb
        cases hspan
        refine ⟨⟨fun b hb' => ?_, by simp [offsetFrom]⟩, fun u hu => ?_⟩
        · have := hb b hb'
          omega
        · have := hu.2
          simp only [offsetFrom] at this
          omega
      · cases hspan
    · rename_i hspan
      split at hspan
      · cases hspan
      · rename_i hb
        refine Set.eq_empty_iff_forall_notMem.mpr fun u hu => hb fun b hb' => ?_
        have hshown := hu.2
        have := hu.1 b hb'
        simp only [offsetFrom] at hshown
        omega
  | cons t ts ih =>
    obtain ⟨ht, hts⟩ := List.pairwise_cons.mp hts
    have hstart : ∀ b ∈ from?, b < t.start := fun b hb => hfrom b hb t List.mem_cons_self
    simp only [spanOffset?, all_le_iff]
    by_cases hspan : (∀ b ∈ from?, b + current ≤ l) ∧ l < t.start + current
    · rw [if_pos hspan]
      have hlt : l - current < t.start := by omega
      refine ⟨⟨fun b hb => ?_, ?_⟩, fun u hu => ?_⟩
      · have := hspan.1 b hb
        omega
      · rw [offsetFrom_cons_of_lt hlt]
        omega
      · rcases Int.lt_or_le u t.start with hu' | hu'
        · have hl := hu.2
          rw [offsetFrom_cons_of_lt hu'] at hl
          omega
        · omega
    · rw [if_neg hspan, shownFrom_cons hstart hspan]
      exact ih (some t.start) t.offset hts (by simpa using ht)

/-! ## What a clock in a zone shows -/

/-- The local second that a clock in the zone shows at a second of UTC. -/
def localSecond (z : Zone) (second : Int) : Int :=
  second + z.offsetAt second

theorem reading_eq_iff {z : Zone} {i : Instant} {l : Reading} :
    z.reading i = l ↔ z.localSecond i.seconds = l.seconds ∧ i.nanos = l.nanos :=
  Reading.ext_iff

theorem offsetOfLocal?_spec (z : Zone) (l : Int) :
    match z.offsetOfLocal? l with
    | some o => IsLeast {u | z.localSecond u = l} (l - o)
    | none => {u | z.localSecond u = l} = ∅ := by
  have hshown : shownFrom none z.initial z.transitions l = {u | z.localSecond u = l} := by
    ext u
    simp [shownFrom, localSecond, offsetAt]
  have hspec := spanOffset?_spec none z.initial l z.inOrder (by simp)
  rwa [hshown] at hspec

/-- The offset that the lookup finds is the one at the first second that
shows the local second. -/
theorem offsetOfLocal?_eq_some_iff {z : Zone} {l o : Int} :
    z.offsetOfLocal? l = some o ↔ IsLeast {u | z.localSecond u = l} (l - o) := by
  have hspec := offsetOfLocal?_spec z l
  constructor
  · intro h
    rwa [h] at hspec
  · intro h
    cases hfound : z.offsetOfLocal? l with
    | none =>
      rw [hfound] at hspec
      have hmem := h.1
      rw [hspec] at hmem
      exact absurd hmem (Set.notMem_empty _)
    | some o' =>
      rw [hfound] at hspec
      have heq := hspec.unique h
      exact congrArg some (by omega)

theorem offsetOfLocal?_eq_none_iff {z : Zone} {l : Int} :
    z.offsetOfLocal? l = none ↔ ∀ u, z.localSecond u ≠ l := by
  have hspec := offsetOfLocal?_spec z l
  constructor
  · intro h u hu
    rw [h] at hspec
    have hmem : u ∈ {u | z.localSecond u = l} := hu
    rw [hspec] at hmem
    exact Set.notMem_empty _ hmem
  · intro h
    cases hfound : z.offsetOfLocal? l with
    | none => rfl
    | some o =>
      rw [hfound] at hspec
      exact absurd hspec.1 (h _)

/-- A local second that is shown at all is shown for a first time. -/
theorem exists_isLeast_localSecond {z : Zone} {l u : Int} (h : z.localSecond u = l) :
    ∃ first, IsLeast {u | z.localSecond u = l} first := by
  cases hfound : z.offsetOfLocal? l with
  | none => exact absurd h (offsetOfLocal?_eq_none_iff.mp hfound u)
  | some o => exact ⟨l - o, offsetOfLocal?_eq_some_iff.mp hfound⟩

/-! ## The first instant of a reading -/

/-- The instant is at the first second, in the calendar or not, at which a
clock in the zone shows the reading. -/
structure FirstShows (z : Zone) (l : Reading) (i : Instant) : Prop where
  reading_eq : z.reading i = l
  seconds_le : ∀ u, z.localSecond u = l.seconds → i.seconds ≤ u

theorem FirstShows.le {z : Zone} {l : Reading} {i j : Instant} (h : z.FirstShows l i)
    (hj : z.reading j = l) : i ≤ j := by
  have hij := h.seconds_le j.seconds (reading_eq_iff.mp hj).1
  have hnanos : i.nanos = j.nanos :=
    (reading_eq_iff.mp h.reading_eq).2.trans (reading_eq_iff.mp hj).2.symm
  rw [Instant.le_iff]
  omega

theorem FirstShows.isLeast {z : Zone} {l : Reading} {i : Instant} (h : z.FirstShows l i) :
    IsLeast {u | z.localSecond u = l.seconds} i.seconds :=
  ⟨(reading_eq_iff.mp h.reading_eq).1, h.seconds_le⟩

theorem FirstShows.unique {z : Zone} {l : Reading} {i j : Instant} (hi : z.FirstShows l i)
    (hj : z.FirstShows l j) : i = j :=
  Instant.ext (hi.isLeast.unique hj.isLeast)
    ((reading_eq_iff.mp hi.reading_eq).2.trans (reading_eq_iff.mp hj.reading_eq).2.symm)

theorem firstInstant?_eq_some_iff {z : Zone} {l : Reading} {i : Instant} :
    z.firstInstant? l = some i ↔ z.FirstShows l i := by
  simp only [firstInstant?, Option.bind_eq_bind, Option.bind_eq_some_iff,
    Instant.ofTimePoint?_eq_some_iff, TimePoint.ext_iff, TimePoint.relabel_seconds,
    TimePoint.relabel_nanos]
  constructor
  · rintro ⟨o, ho, hs, hn⟩
    have hleast := offsetOfLocal?_eq_some_iff.mp ho
    have hi : i.seconds = l.seconds - o := by omega
    refine ⟨reading_eq_iff.mpr ⟨?_, hn⟩, fun u hu => ?_⟩
    · rw [hi]
      exact hleast.1
    · rw [hi]
      exact hleast.2 hu
  · intro h
    refine ⟨l.seconds - i.seconds, offsetOfLocal?_eq_some_iff.mpr ?_, by omega,
      (reading_eq_iff.mp h.reading_eq).2⟩
    rw [show l.seconds - (l.seconds - i.seconds) = i.seconds by omega]
    exact h.isLeast

theorem firstInstant?_eq_none_iff {z : Zone} {l : Reading} :
    z.firstInstant? l = none ↔ ∀ i, ¬ z.FirstShows l i := by
  rw [Option.eq_none_iff_forall_ne_some]
  exact forall_congr' fun i => not_congr firstInstant?_eq_some_iff

/-- The first second that shows a reading makes an instant when it lies in
the calendar. -/
theorem exists_firstShows_of_isLeast {z : Zone} {l : Reading} {u : Int}
    (hu : IsLeast {u | z.localSecond u = l.seconds} u)
    (hcal : (l.relabel (u - l.seconds)).InCalendar) :
    ∃ i : Instant, z.FirstShows l i ∧ i.seconds = u := by
  have hseconds : l.seconds + (u - l.seconds) = u := by omega
  refine ⟨⟨l.relabel (u - l.seconds), hcal⟩, ⟨reading_eq_iff.mpr ⟨?_, rfl⟩, fun v hv => ?_⟩,
    hseconds⟩
  · rw [TimePoint.relabel_seconds, hseconds]
    exact hu.1
  · rw [TimePoint.relabel_seconds, hseconds]
    exact hu.2 hv

/-! ## The stand-in for a reading that is never had -/

/-- The instant for a reading past a gap is the reading under the offset of
an instant that shows the reading of six hours earlier. -/
theorem exists_of_instantPastGap? {z : Zone} {l : Reading} {i : Instant}
    (h : z.instantPastGap? l = some i) :
    ∃ v : Instant, z.localSecond v.seconds = (l.shift (-lookBack)).seconds ∧
      i.toTimePoint = l.shift (-z.offsetAt v.seconds) := by
  simp only [instantPastGap?] at h
  split at h
  · simp only [Option.bind_eq_bind, Option.bind_eq_some_iff, firstInstant?_eq_some_iff,
      Instant.ofTimePoint?_eq_some_iff] at h
    obtain ⟨v, hv, hi⟩ := h
    obtain ⟨hshown, -⟩ := reading_eq_iff.mp hv.reading_eq
    have hoffset : (l.shift (-lookBack)).seconds - v.seconds = z.offsetAt v.seconds := by
      rw [← hshown, localSecond]
      omega
    exact ⟨v, hshown, hoffset ▸ hi⟩
  · cases h

/-- Outside leap seconds, the instant for a reading past a gap comes six
hours after the first instant that shows the reading of six hours
earlier. -/
theorem instantPastGap?_eq_some_iff {z : Zone} {l : Reading} {i : Instant}
    (hl : l.nanos < nanosPerSecond) :
    z.instantPastGap? l = some i ↔
      (l.hoursEarlier 6).InCalendar ∧
        ∃ v, z.FirstShows (l.hoursEarlier 6) v ∧ i.toTimePoint = v.relabel (3600 * 6) := by
  have hback : l.relabel (-lookBack) = (l.hoursEarlier 6).toTimePoint := rfl
  simp only [instantPastGap?, TimePoint.shift_of_lt hl, hback, Option.bind_eq_bind]
  have hearlier : (l.hoursEarlier 6).seconds = l.seconds - 3600 * 6 := rfl
  split
  · rename_i hcal
    simp only [Option.bind_eq_some_iff, firstInstant?_eq_some_iff,
      Instant.ofTimePoint?_eq_some_iff, hcal, true_and]
    refine exists_congr fun v => and_congr_right fun hv => ?_
    have hnanos : v.nanos = l.nanos := (reading_eq_iff.mp hv.reading_eq).2
    simp only [TimePoint.ext_iff, TimePoint.relabel_seconds, TimePoint.relabel_nanos, hearlier,
      hnanos]
    exact and_congr_left fun _ => by omega
  · rename_i hcal
    simp [hcal]

/-! ## Both together -/

theorem localize?_of_firstShows {z : Zone} {l : Reading} {i : Instant} (h : z.FirstShows l i) :
    z.localize? l = some i := by
  rw [localize?, firstInstant?_eq_some_iff.mpr h]
  rfl

theorem localize?_of_not_firstShows {z : Zone} {l : Reading} (h : ∀ i, ¬ z.FirstShows l i) :
    z.localize? l = z.instantPastGap? l := by
  rw [localize?, firstInstant?_eq_none_iff.mpr h]
  rfl

end DueTime.Zone
