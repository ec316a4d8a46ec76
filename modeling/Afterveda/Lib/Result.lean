import Mathlib.Logic.Basic

/-!
# Fallible computations

How a computation in `Except` that succeeded comes apart.
-/

namespace Except

universe u v

variable {ε : Type u} {α β : Type v}

/-- A sequence of two computations succeeds when both do. -/
theorem exists_of_bind_eq_ok {x : Except ε α} {f : α → Except ε β} {b : β}
    (h : x >>= f = .ok b) : ∃ a, x = .ok a ∧ f a = .ok b := by
  cases x with
  | error e => cases h
  | ok a => exact ⟨a, rfl, h⟩

theorem exists_of_map_eq_ok {x : Except ε α} {f : α → β} {b : β} (h : x.map f = .ok b) :
    ∃ a, x = .ok a ∧ f a = b := by
  cases x with
  | error e => cases h
  | ok a => exact ⟨a, rfl, ok.inj h⟩

end Except
