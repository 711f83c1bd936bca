import Mathlib

/-!
# Computations that may fail

When a computation that is put together from others succeeds or fails is read off its parts.
-/

namespace CallReplay

variable {ε α β : Type} {x : Except ε α} {e : ε} {b : β}

/-- Two steps succeed if the first does and leads to a success of the second. -/
lemma bind_eq_ok_iff {f : α → Except ε β} : x >>= f = .ok b ↔ ∃ a, x = .ok a ∧ f a = .ok b := by
  cases x <;> simp [bind, Except.bind]

/-- Two steps fail if the first does or leads to a failure of the second. -/
lemma bind_eq_error_iff {f : α → Except ε β} :
    x >>= f = .error e ↔ x = .error e ∨ ∃ a, x = .ok a ∧ f a = .error e := by
  cases x <;> simp [bind, Except.bind]

/-- A result that is changed is a value if it was one. -/
lemma map_eq_ok_iff {f : α → β} : x.map f = .ok b ↔ ∃ a, x = .ok a ∧ f a = b := by
  cases x <;> simp [Except.map]

/-- Changing the value of a result changes no error. -/
lemma map_eq_error_iff {f : α → β} : x.map f = .error e ↔ x = .error e := by
  cases x <;> simp [Except.map]

/-- Changing the error of a result changes no value. -/
lemma mapError_eq_ok_iff {ε' : Type} {f : ε → ε'} {a : α} : x.mapError f = .ok a ↔ x = .ok a := by
  cases x <;> simp [Except.mapError]

end CallReplay
