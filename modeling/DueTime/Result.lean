/-
DueTime.Result — how a computation ends.

It comes to a value, or to an error that its caller can handle. Or it
breaks off: then there is nothing to hand back, and whoever asked for the
value breaks off as well.
-/
namespace DueTime

/-- How a computation that may break off has ended. -/
inductive Result (ε α : Type)
  | ok (value : α)
  | error (reason : ε)
  | crash
  deriving Repr, DecidableEq, Inhabited

namespace Result

variable {ε ε' α β : Type}

/-- Goes on with the value. -/
def map (f : α → β) : Result ε α → Result ε β
  | ok a => ok (f a)
  | error e => error e
  | crash => crash

/-- Puts the error another way. -/
def mapError (f : ε → ε') : Result ε α → Result ε' α
  | ok a => ok a
  | error e => error (f e)
  | crash => crash

/-- There is a value. -/
def isOk : Result ε α → Bool
  | ok _ => true
  | error _ | crash => false

/-- The value, if there is one. -/
def toOption : Result ε α → Option α
  | ok a => some a
  | error _ | crash => none

/-- The value or the error, of a computation that did not break off. -/
def settled? : Result ε α → Option (Except ε α)
  | ok a => some (.ok a)
  | error e => some (.error e)
  | crash => none

theorem isOk_iff {x : Result ε α} : x.isOk ↔ ∃ a, x = ok a := by
  cases x with
  | ok a => simp [isOk]
  | error e => simp [isOk]
  | crash => simp [isOk]

theorem toOption_eq_some_iff {x : Result ε α} {a : α} : x.toOption = some a ↔ x = ok a := by
  cases x with
  | ok a' => simp [toOption]
  | error e => simp [toOption]
  | crash => simp [toOption]

section
variable {x : Result ε α}

theorem exists_settled? (h : x ≠ crash) : ∃ r, x.settled? = some r := by
  cases x with
  | ok a => exact ⟨_, rfl⟩
  | error e => exact ⟨_, rfl⟩
  | crash => exact absurd rfl h

theorem settled?_eq_ok_iff {a : α} : x.settled? = some (.ok a) ↔ x = ok a := by
  cases x with
  | ok a' => simp [settled?]
  | error e => simp [settled?]
  | crash => simp [settled?]

theorem settled?_eq_error_iff {e : ε} : x.settled? = some (.error e) ↔ x = error e := by
  cases x with
  | ok a => simp [settled?]
  | error e' => simp [settled?]
  | crash => simp [settled?]

end

/-! ## How a result that was put another way came about -/

section
variable {x : Result ε α} {f : α → β} {g : ε → ε'}

theorem map_eq_ok_iff {b : β} : x.map f = ok b ↔ ∃ a, x = ok a ∧ f a = b := by
  cases x with
  | ok a => simp [map]
  | error e => simp [map]
  | crash => simp [map]

theorem map_eq_error_iff {e : ε} : x.map f = error e ↔ x = error e := by
  cases x with
  | ok a => simp [map]
  | error e => simp [map]
  | crash => simp [map]

theorem map_eq_crash_iff : x.map f = crash ↔ x = crash := by
  cases x with
  | ok a => simp [map]
  | error e => simp [map]
  | crash => simp [map]

theorem mapError_eq_ok_iff {a : α} : x.mapError g = ok a ↔ x = ok a := by
  cases x with
  | ok a => simp [mapError]
  | error e => simp [mapError]
  | crash => simp [mapError]

theorem mapError_eq_error_iff {e' : ε'} :
    x.mapError g = error e' ↔ ∃ e, x = error e ∧ g e = e' := by
  cases x with
  | ok a => simp [mapError]
  | error e => simp [mapError]
  | crash => simp [mapError]

theorem mapError_eq_crash_iff : x.mapError g = crash ↔ x = crash := by
  cases x with
  | ok a => simp [mapError]
  | error e => simp [mapError]
  | crash => simp [mapError]

end

end Result

end DueTime
