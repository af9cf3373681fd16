/-
DueTime.Zone.Asia — the zones of Asia.

Kolkata and Kathmandu, whose offsets are not whole hours.
-/
import DueTime.Zone.Change

namespace DueTime.Zone

/-- The zone of Kolkata. -/
def kolkata : Zone :=
  .ofChanges "Asia/Kolkata" 21208
    [.once ⟨1854, 6, 27⟩ ⟨18, 6, 32⟩ 21200,
     .once ⟨1869, 12, 31⟩ ⟨18, 6, 40⟩ 19270,
     .once ⟨1905, 12, 31⟩ ⟨18, 38, 50⟩ 19800,
     .once ⟨1941, 9, 30⟩ ⟨18, 30, 0⟩ 23400,
     .once ⟨1942, 5, 14⟩ ⟨17, 30, 0⟩ 19800,
     .once ⟨1942, 8, 31⟩ ⟨18, 30, 0⟩ 23400,
     .once ⟨1945, 10, 14⟩ ⟨17, 30, 0⟩ 19800]

/-- The zone of Kathmandu. -/
def kathmandu : Zone :=
  .ofChanges "Asia/Kathmandu" 20476
    [.once ⟨1919, 12, 31⟩ ⟨18, 18, 44⟩ 19800,
     .once ⟨1985, 12, 31⟩ ⟨18, 30, 0⟩ 20700]

end DueTime.Zone
