import Mathlib.Init

/-!
# Computations that may fail

How a sequence of computations with errors succeeds, whatever the errors are.
-/

namespace Outcome

variable {ε α β : Type}

theorem ok_bind (value : α) (next : α → Except ε β) :
    (Except.ok value >>= next) = next value :=
  rfl

theorem bind_eq_ok {first : Except ε α} {rest : α → Except ε β} {result : β}
    (success : first >>= rest = .ok result) :
    ∃ value, first = .ok value ∧ rest value = .ok result := by
  cases first with
  | error error => cases success
  | ok value => exact ⟨value, rfl, success⟩

theorem eq_ok_of_toOption_eq_some {outcome : Except ε α} {value : α}
    (isValue : outcome.toOption = some value) : outcome = .ok value := by
  cases outcome with
  | error error => simp [Except.toOption] at isValue
  | ok other => exact congrArg Except.ok (Option.some.inj isValue)

end Outcome
