/-
DueTime.Zone.Antarctica — the zones of Antarctica.

Troll, which changes its clocks by two hours.
-/
import DueTime.Zone.Change

namespace DueTime.Zone

/-- The zone of Troll. -/
def troll : Zone :=
  .ofChanges "Antarctica/Troll" 0
    [.yearly 2005 2099 .sunday 3 25 ⟨1, 0, 0⟩ 7200,
     .yearly 2005 2099 .sunday 10 25 ⟨1, 0, 0⟩ 0]

end DueTime.Zone
