/-
DueTime.Proofs.Zone.Known — what the zones of the table have in common.

Every zone of the table is regular, under each of its names. Three of them
crossed the date line eastwards and left out a day (`skippedDays`); all
other gaps are shorter than six hours. And in all but five zones
(`zonesPastMidnight`) a reading that is moved out of a gap stays on its
day. All of this is looked up in one pass over the table, since the
transitions have to be put in order for it.
-/
import DueTime.Proofs.Zone.Regular
import DueTime.Zone.Named

namespace DueTime

/-! ## Gaps and days -/

namespace Turn

/-- The gap of the turn is one day of the local calendar. -/
def SkipsDay (c : Turn) (day : CivilDate) : Prop :=
  c.start + c.before = day.dayNumber * secondsPerDay ∧ c.after - c.before = secondsPerDay

instance (c : Turn) (day : CivilDate) : Decidable (c.SkipsDay day) :=
  inferInstanceAs (Decidable (_ ∧ _))

/-- The gap of the turn, if it makes one, and as long a time after it, lie
on one day. -/
def KeepsDay (c : Turn) : Prop :=
  c.before < c.after →
    (c.start + c.before) / secondsPerDay =
      (c.start + c.after + (c.after - c.before) - 1) / secondsPerDay

instance (c : Turn) : Decidable c.KeepsDay :=
  inferInstanceAs (Decidable (_ → _))

/-- Then no reading leaves its day when it is moved out of the gap. -/
theorem KeepsDay.moved_eq {c : Turn} (hc : c.KeepsDay) {s : Int} (hs : c.Skips s) :
    (s + (c.after - c.before)) / secondsPerDay = s / secondsPerDay := by
  obtain ⟨hlow, hhigh⟩ := hs
  have hday := hc (by omega)
  simp only [secondsPerDay] at hday ⊢
  omega

end Turn

namespace Zone

/-! ## The zones of the table -/

/-- The days that zones of the table left out when they crossed the date
line. -/
def skippedDays : List (String × CivilDate) :=
  [("Pacific/Apia", ⟨2011, 12, 30⟩), ("Pacific/Kwajalein", ⟨1993, 8, 21⟩),
   ("Pacific/Kiritimati", ⟨1994, 12, 31⟩)]

/-- The zones of the table with a gap that readings leave past midnight. -/
def zonesPastMidnight : List String :=
  ["Europe/Berlin", "America/St_Johns", "Pacific/Apia", "Pacific/Kwajalein", "Pacific/Kiritimati"]

theorem zonesPastMidnight_of_skippedDays : ∀ entry ∈ skippedDays, entry.1 ∈ zonesPastMidnight := by
  decide

theorem ofDayNumber_skippedDays :
    ∀ entry ∈ skippedDays, CivilDate.ofDayNumber entry.2.dayNumber = entry.2 := by
  decide +kernel

theorem known_checked : ∀ z ∈ known, z.Regular ∧ ∀ c ∈ z.turns,
    (6 * 3600 ≤ c.after - c.before →
      ∃ entry ∈ skippedDays, entry.1 = z.name ∧ c.SkipsDay entry.2) ∧
    (c.KeepsDay ∨ z.name ∈ zonesPastMidnight) := by
  decide +kernel

/-- Every zone of the table is regular. -/
theorem regular_of_mem_known : ∀ z ∈ known, z.Regular :=
  fun z hz => (known_checked z hz).1

theorem exists_skipsDay_of_mem_known : ∀ z ∈ known, ∀ entry ∈ skippedDays, entry.1 = z.name →
    ∃ c ∈ z.turns, c.SkipsDay entry.2 := by
  decide +kernel

/-! ## Names -/

/-- A zone goes by the name that it is asked for. It is a zone of the
table, under its first name if it has one of the gaps above. -/
theorem exists_known_of_named? {name : String} {z : Zone} (h : named? name = some z) :
    ∃ zone ∈ known, z = zone.rename name ∧
      (zone.name = name ∨ zone.name ∉ zonesPastMidnight ∧ name ∉ zonesPastMidnight) := by
  rcases mem_of_named? h with ⟨hmem, rfl⟩ | ⟨entry, hentry, rfl, rfl⟩
  · exact ⟨z, hmem, rfl, Or.inl rfl⟩
  · have hknown : ∀ entry ∈ aliases, entry.2 ∈ known := by simp [aliases, known]
    have hplain : ∀ entry ∈ aliases,
        entry.2.name ∉ zonesPastMidnight ∧ entry.1 ∉ zonesPastMidnight := by decide +kernel
    exact ⟨entry.2, hknown _ hentry, rfl, Or.inr (hplain _ hentry)⟩

theorem Regular.rename {z : Zone} (hz : z.Regular) (name : String) : (z.rename name).Regular :=
  ⟨hz.initial_lt, hz.offset_lt, hz.change_le, hz.apart, hz.first_le, hz.lt_last⟩

section
variable {name : String} {z : Zone} (h : named? name = some z)
include h

theorem regular_of_named? : z.Regular := by
  obtain ⟨zone, hzone, rfl, -⟩ := exists_known_of_named? h
  exact (regular_of_mem_known zone hzone).rename name

/-- A gap of six hours or more is a skipped day. -/
theorem skipsDay_of_named? {c : Turn} (hc : c ∈ z.turns) (hlong : 6 * 3600 ≤ c.after - c.before) :
    ∃ day, (name, day) ∈ skippedDays ∧ c.SkipsDay day := by
  obtain ⟨zone, hzone, rfl, hname⟩ := exists_known_of_named? h
  obtain ⟨entry, hentry, hzoneName, hday⟩ := ((known_checked zone hzone).2 c hc).1 hlong
  rcases hname with hname | ⟨hplain, -⟩
  · have hpair : entry = (name, entry.2) := by rw [← hname, ← hzoneName]
    exact ⟨entry.2, hpair ▸ hentry, hday⟩
  · have hpast := zonesPastMidnight_of_skippedDays entry hentry
    rw [hzoneName] at hpast
    exact absurd hpast hplain

theorem exists_skipsDay_of_named? {day : CivilDate} (hday : (name, day) ∈ skippedDays) :
    ∃ c ∈ z.turns, c.SkipsDay day := by
  obtain ⟨zone, hzone, rfl, hname⟩ := exists_known_of_named? h
  rcases hname with hname | ⟨-, hplain⟩
  · exact exists_skipsDay_of_mem_known zone hzone (name, day) hday hname.symm
  · exact absurd (zonesPastMidnight_of_skippedDays (name, day) hday) hplain

theorem keepsDay_of_named? (hname : name ∉ zonesPastMidnight) : ∀ c ∈ z.turns, c.KeepsDay := by
  obtain ⟨zone, hzone, rfl, hsame⟩ := exists_known_of_named? h
  intro c hc
  refine ((known_checked zone hzone).2 c hc).2.resolve_right ?_
  rcases hsame with hsame | hplain
  · rwa [hsame]
  · exact hplain.1

end

end Zone

end DueTime
