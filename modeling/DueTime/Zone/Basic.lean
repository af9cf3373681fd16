/-
DueTime.Zone.Basic — time zones as tables of offsets.

A zone has an offset from UTC that is in force at first, and transitions,
each of which brings a new offset into force from an instant on. The
transitions of a zone stand in the order of their instants, no two at
the same one; `Zone.insert` keeps them so.
-/
import DueTime.Calendar.TimePoint

namespace DueTime

/-- A change of a zone's offset. -/
structure Transition where
  /-- The second of UTC from which the offset is in force. -/
  start : Int
  /-- The seconds that local clocks are ahead of UTC from then on. -/
  offset : Int
  deriving Repr, DecidableEq, Inhabited

/-- The transitions stand in the order of their instants. -/
def InOrder (transitions : List Transition) : Prop :=
  transitions.Pairwise (·.start < ·.start)

/-- A time zone. -/
structure Zone where
  name : String
  /-- The offset before the first transition. -/
  initial : Int
  transitions : List Transition
  inOrder : InOrder transitions

/-! ## Building the table -/

namespace Transition

/-- Puts a transition in its place. A transition at the same instant
gives way to it. -/
def insert (t : Transition) : List Transition → List Transition
  | [] => [t]
  | u :: us =>
    if t.start < u.start then t :: u :: us
    else if t.start = u.start then t :: us
    else u :: insert t us

theorem mem_insert {t v : Transition} {us : List Transition} (h : v ∈ insert t us) :
    v = t ∨ v ∈ us := by
  induction us with
  | nil => simpa [insert] using h
  | cons u us ih =>
    unfold insert at h
    split at h
    · simpa using h
    · split at h
      · rcases List.mem_cons.mp h with h | h
        · exact Or.inl h
        · exact Or.inr (List.mem_cons_of_mem _ h)
      · rcases List.mem_cons.mp h with h | h
        · exact Or.inr (h ▸ List.mem_cons_self)
        · exact (ih h).imp_right (List.mem_cons_of_mem _)

theorem insert_inOrder (t : Transition) {us : List Transition} (h : InOrder us) :
    InOrder (insert t us) := by
  induction us with
  | nil => simp [insert, InOrder]
  | cons u us ih =>
    obtain ⟨hu, hus⟩ := List.pairwise_cons.mp h
    unfold insert
    split
    · refine List.pairwise_cons.mpr ⟨fun v hv => ?_, h⟩
      rcases List.mem_cons.mp hv with rfl | hv
      · assumption
      · have := hu v hv
        omega
    · split
      · refine List.pairwise_cons.mpr ⟨fun v hv => ?_, hus⟩
        have := hu v hv
        omega
      · refine List.pairwise_cons.mpr ⟨fun v hv => ?_, ih hus⟩
        rcases mem_insert hv with rfl | hv
        · omega
        · exact hu v hv

/-- The transitions put in order. -/
def sorted (ts : List Transition) : List Transition :=
  ts.foldr insert []

theorem mem_of_mem_sorted {t : Transition} {ts : List Transition} (h : t ∈ sorted ts) :
    t ∈ ts := by
  induction ts with
  | nil => exact h
  | cons u us ih =>
    rcases mem_insert h with rfl | h
    · exact List.mem_cons_self
    · exact List.mem_cons_of_mem _ (ih h)

theorem sorted_inOrder (ts : List Transition) : InOrder (sorted ts) := by
  induction ts with
  | nil => exact List.Pairwise.nil
  | cons t ts ih => exact insert_inOrder t ih

end Transition

namespace Zone

/-- The zone with the given transitions, which may come in any order. -/
def ofTransitions (name : String) (initial : Int) (ts : List Transition) : Zone :=
  ⟨name, initial, Transition.sorted ts, Transition.sorted_inOrder ts⟩

/-- The zone whose offset never changes. -/
def fixed (name : String) (offset : Int) : Zone :=
  ⟨name, offset, [], List.Pairwise.nil⟩

/-- Coordinated Universal Time. -/
def utc : Zone :=
  fixed "UTC" 0

/-- The zone under another name. -/
def rename (z : Zone) (name : String) : Zone :=
  { z with name }

/-! ## From instants to readings -/

/-- The offset in force at a second of UTC, when `current` is in force
before the transitions: the offset of the last transition that is not
later. -/
def offsetFrom (current : Int) : List Transition → Int → Int
  | [], _ => current
  | t :: ts, second => if t.start ≤ second then offsetFrom t.offset ts second else current

/-- The offset in force at a second of UTC. -/
def offsetAt (z : Zone) (second : Int) : Int :=
  offsetFrom z.initial z.transitions second

/-- What a clock in the zone shows at an instant. -/
def reading (z : Zone) (i : Instant) : Reading :=
  ⟨i.relabel (z.offsetAt i.seconds)⟩

/-! ## Zones of the world -/

/-- The second of UTC at which a year begins. -/
def yearStart (year : Int) : Int :=
  CivilDate.dayNumber ⟨year, 1, 1⟩ * secondsPerDay

end Zone

/-- The offset is less than a day, and it comes into force in a year of
four digits. -/
structure Transition.Ordinary (t : Transition) : Prop where
  offset_lt : t.offset.natAbs < 86400
  le_start : Zone.yearStart 0 ≤ t.start
  start_lt : t.start < Zone.yearStart 10000

/-- Clocks in the zone are less than a day from UTC, and are put forward and
back in years of four digits only. -/
structure Zone.Ordinary (z : Zone) : Prop where
  initial_lt : z.initial.natAbs < 86400
  transition {t : Transition} : t ∈ z.transitions → t.Ordinary

namespace Zone

theorem Ordinary.rename {z : Zone} (h : z.Ordinary) (name : String) : (z.rename name).Ordinary :=
  ⟨h.initial_lt, h.transition⟩

theorem ordinary_fixed (name : String) {offset : Int} (h : offset.natAbs < 86400) :
    (fixed name offset).Ordinary :=
  ⟨h, nofun⟩

theorem ordinary_ofTransitions (name : String) {initial : Int} {ts : List Transition}
    (hinitial : initial.natAbs < 86400) (hts : ∀ t ∈ ts, t.Ordinary) :
    (ofTransitions name initial ts).Ordinary :=
  ⟨hinitial, fun ht => hts _ (Transition.mem_of_mem_sorted ht)⟩

end Zone

end DueTime
