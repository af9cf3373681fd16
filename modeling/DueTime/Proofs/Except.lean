/-
DueTime.Proofs.Except — one result after another.

Where a stage needs the result of the one before it, the two come to a value
if both do, and to an error if either does.
-/
namespace DueTime

variable {ε ε' α β : Type} {x : Except ε α}

theorem bind_eq_ok_iff {f : α → Except ε β} {b : β} :
    (x >>= f) = .ok b ↔ ∃ a, x = .ok a ∧ f a = .ok b := by
  cases x with
  | ok a => simp [bind, Except.bind]
  | error e => simp [bind, Except.bind]

theorem bind_eq_error_iff {f : α → Except ε β} {e : ε} :
    (x >>= f) = .error e ↔ x = .error e ∨ ∃ a, x = .ok a ∧ f a = .error e := by
  cases x with
  | ok a => simp [bind, Except.bind]
  | error e => simp [bind, Except.bind]

theorem mapError_eq_ok_iff {f : ε → ε'} {a : α} : x.mapError f = .ok a ↔ x = .ok a := by
  cases x with
  | ok a' =>
    have hmap : (.ok a' : Except ε α).mapError f = .ok a' := rfl
    simp [hmap]
  | error e =>
    have hmap : (.error e : Except ε α).mapError f = .error (f e) := rfl
    simp [hmap]

theorem mapError_eq_error_iff {f : ε → ε'} {e' : ε'} :
    x.mapError f = .error e' ↔ ∃ e, x = .error e ∧ e' = f e := by
  cases x with
  | ok a =>
    have hmap : (.ok a : Except ε α).mapError f = .ok a := rfl
    simp [hmap]
  | error e =>
    have hmap : (.error e : Except ε α).mapError f = .error (f e) := rfl
    simp [hmap, eq_comm]

end DueTime
