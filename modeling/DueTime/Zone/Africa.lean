/-
DueTime.Zone.Africa — the zones of Africa.

Monrovia, whose offset was not a whole number of minutes until 1972.
-/
import DueTime.Zone.Change

namespace DueTime.Zone

/-- The zone of Monrovia. -/
def monrovia : Zone :=
  .ofChanges "Africa/Monrovia" (-2588)
    [.once ⟨1919, 3, 1⟩ ⟨0, 43, 8⟩ (-2670),
     .once ⟨1972, 1, 7⟩ ⟨0, 44, 30⟩ 0]

end DueTime.Zone
