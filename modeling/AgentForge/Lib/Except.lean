import Mathlib.Logic.Basic

/-!
# Sequences of checks

Inversion of a successful sequence of fallible steps.
-/

set_option autoImplicit false

namespace AgentForge.Lib

variable {ε α β : Type}

/-- A sequence succeeds exactly when each of its steps does. -/
theorem bind_eq_ok {x : Except ε α} {f : α → Except ε β} {b : β} :
    (x >>= f) = .ok b ↔ ∃ a, x = .ok a ∧ f a = .ok b := by
  cases x with
  | error e => simp [bind, Except.bind]
  | ok a => simp [bind, Except.bind]

/-- A failed check ends the sequence. -/
@[simp] theorem throw_bind (e : ε) (f : α → Except ε β) : (throw e >>= f) = .error e := rfl

/-- Passing a guard of a sequence means that its condition is false. -/
theorem guard_eq_ok {c : Prop} [Decidable c] {e : ε} {f : PUnit → Except ε β} {b : β} :
    (if c then throw e >>= f else f ⟨⟩) = .ok b ↔ ¬c ∧ f ⟨⟩ = .ok b := by
  by_cases h : c <;> simp [h]

theorem toOption_eq_some {x : Except ε α} {a : α} : x.toOption = some a ↔ x = .ok a := by
  cases x <;> simp [Except.toOption]

end AgentForge.Lib
