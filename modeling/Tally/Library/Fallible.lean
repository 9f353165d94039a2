/-!
# Steps that may fail

A sequence of two steps has a result if the first step has one and the second has one of it.
-/

set_option autoImplicit false

namespace Library

variable {ε α β : Type} {x : Except ε α} {f : α → Except ε β}

theorem bind_eq_ok {b : β} : x >>= f = .ok b ↔ ∃ a, x = .ok a ∧ f a = .ok b := by
  cases x with
  | error e => simp [bind, Except.bind]
  | ok a => simp [bind, Except.bind]

/-- A step that has a result goes on with it. -/
theorem bind_of_eq_ok {a : α} (h : x = .ok a) : x >>= f = f a := by
  rw [h]
  rfl

end Library
