import Mathlib.Tactic
import Agenda.Error

/-! # Answers and refusals

A computation that may refuse is taken apart at its binds, here once for all of them.
-/

namespace Agenda.Error

variable {ε α β : Type}

theorem bind_eq_ok_iff {x : Except ε α} {next : α → Except ε β} {b : β} :
    x >>= next = .ok b ↔ ∃ a, x = .ok a ∧ next a = .ok b := by
  cases x with
  | error => simp [bind, Except.bind]
  | ok a => simp [bind, Except.bind]

theorem bind_eq_error_iff {x : Except ε α} {next : α → Except ε β} {refusal : ε} :
    x >>= next = .error refusal ↔
      x = .error refusal ∨ ∃ a, x = .ok a ∧ next a = .error refusal := by
  cases x with
  | error => simp [bind, Except.bind]
  | ok a => simp [bind, Except.bind]

theorem bind_pure_eq_error_iff {x : Except ε α} {f : α → β} {refusal : ε} :
    (x >>= fun a => pure (f a)) = .error refusal ↔ x = .error refusal := by
  cases x with
  | error => simp [bind, Except.bind]
  | ok a => simp [bind, Except.bind, pure, Except.pure]

theorem whenNone_eq_ok_iff {error : Error} {answer : Option α} {a : α} :
    error.whenNone answer = .ok a ↔ answer = some a := by
  cases answer <;> simp [whenNone]

theorem whenNone_eq_error_iff {error refusal : Error} {answer : Option α} :
    error.whenNone answer = .error refusal ↔ refusal = error ∧ answer = none := by
  cases answer <;> simp [whenNone, eq_comm]

end Agenda.Error
