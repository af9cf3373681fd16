/-
DueTime.Zone.Named — zones by their names.

Names are matched letter for letter. Some zones have further names; a
zone asked for by one of those goes by it.
-/
import DueTime.Zone.Africa
import DueTime.Zone.America
import DueTime.Zone.Antarctica
import DueTime.Zone.Asia
import DueTime.Zone.Europe
import DueTime.Zone.Pacific

namespace DueTime.Zone

/-- The zone twelve hours behind UTC. -/
def twelveBehind : Zone :=
  .fixed "Etc/GMT+12" (-43200)

/-- The zone fourteen hours ahead of UTC. -/
def fourteenAhead : Zone :=
  .fixed "Etc/GMT-14" 50400

/-- All zones, each under its first name. -/
def known : List Zone :=
  [utc, berlin, london, newYork, stJohns, saoPaulo, havana, kolkata, kathmandu, lordHowe, apia,
   kwajalein, kiritimati, chatham, monrovia, troll, twelveBehind, fourteenAhead]

/-- The further names of zones. -/
def aliases : List (String × Zone) :=
  [("GB", london), ("US/Eastern", newYork), ("Asia/Calcutta", kolkata), ("GMT", utc),
   ("Zulu", utc)]

/-- The zone of a name. -/
def named? (name : String) : Option Zone :=
  known.find? (·.name == name) <|>
    (aliases.find? (·.1 == name)).map fun (name, zone) => zone.rename name

/-- A zone that has the name is one of the table, or one of the table under a
further name. -/
theorem mem_of_named? {name : String} {z : Zone} (h : named? name = some z) :
    z ∈ known ∧ z.name = name ∨
      ∃ entry ∈ aliases, entry.1 = name ∧ z = entry.2.rename name := by
  cases hknown : known.find? (·.name == name) with
  | some zone =>
    rw [named?, hknown] at h
    cases h
    have hname := List.find?_some hknown
    exact Or.inl ⟨List.mem_of_find?_eq_some hknown, eq_of_beq hname⟩
  | none =>
    rw [named?, hknown] at h
    obtain ⟨entry, hfind, rfl⟩ := Option.map_eq_some_iff.mp h
    have hname := List.find?_some hfind
    obtain rfl : entry.1 = name := eq_of_beq hname
    exact Or.inr ⟨entry, List.mem_of_find?_eq_some hfind, rfl, rfl⟩

end DueTime.Zone
