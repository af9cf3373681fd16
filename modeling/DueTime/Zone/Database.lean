/-
DueTime.Zone.Database — zones to choose from.

Which zones there are is not for the program to say: it looks them up, and
any database will do whose zones are like those of the world
(`Zone.Ordinary`) and go by proper names (`Zone.isName`). `known` is the
database of the zones in the table.
-/
import DueTime.Zone.Named

namespace DueTime.Zone

/-- The text can name a zone: it begins with a letter and goes on with
letters, digits and marks between words. -/
def isName (text : String) : Bool :=
  match text.toList with
  | [] => false
  | c :: cs => c.isAlpha && cs.all fun c => c.isAlphanum || ['/', '_', '+', '-'].contains c

/-! ## Databases -/

/-- A database of zones. -/
structure Database where
  /-- The zone of a name. -/
  find? : String → Option Zone
  /-- A zone goes by the name that it was asked for. -/
  name_eq {name : String} {z : Zone} : find? name = some z → z.name = name
  isName {name : String} {z : Zone} : find? name = some z → Zone.isName name
  ordinary {name : String} {z : Zone} : find? name = some z → z.Ordinary
  /-- It has the zone that is taken when no other is asked for. -/
  find?_utc : find? "UTC" = some utc

theorem ordinary_of_mem_known : ∀ z ∈ known, z.Ordinary := by
  simp only [known, List.forall_mem_cons]
  -- The first zone and the last two are fixed.
  refine ⟨ordinary_fixed _ (by decide), ?_, ?_, ?_, ?_, ?_, ?_, ?_, ?_, ?_, ?_, ?_, ?_, ?_, ?_, ?_,
    ordinary_fixed _ (by decide), ordinary_fixed _ (by decide), nofun⟩
  all_goals exact ordinary_ofChanges (by decide) (by decide +kernel)

/-- The zones of the table. -/
def Database.known : Database where
  find? := named?
  name_eq h := by
    rcases mem_of_named? h with ⟨-, hname⟩ | ⟨entry, -, -, rfl⟩
    · exact hname
    · rfl
  isName h := by
    have hknown : ∀ z ∈ Zone.known, Zone.isName z.name := by decide +kernel
    have haliases : ∀ entry ∈ aliases, Zone.isName entry.1 := by decide +kernel
    rcases mem_of_named? h with ⟨hmem, rfl⟩ | ⟨entry, hmem, rfl, -⟩
    · exact hknown _ hmem
    · exact haliases entry hmem
  ordinary h := by
    have haliases : ∀ entry ∈ aliases, entry.2 ∈ Zone.known := by simp [aliases, Zone.known]
    rcases mem_of_named? h with ⟨hmem, -⟩ | ⟨entry, hmem, -, rfl⟩
    · exact ordinary_of_mem_known _ hmem
    · exact (ordinary_of_mem_known _ (haliases entry hmem)).rename _
  find?_utc := rfl

end DueTime.Zone
