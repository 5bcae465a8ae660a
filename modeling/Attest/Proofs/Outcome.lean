/-!
# Results that may fail

When a step and what follows it succeed, both do, with the value that is handed on.  Rewording a
failure changes no success.
-/

namespace Attest

universe u

variable {ε ε' α β : Type u}

theorem bind_eq_ok_iff {step : Except ε α} {next : α → Except ε β} {result : β} :
    step >>= next = .ok result ↔ ∃ value, step = .ok value ∧ next value = .ok result := by
  cases step with
  | error fault => simp [bind, Except.bind]
  | ok value => simp [bind, Except.bind]

theorem toOption_eq_some_iff {step : Except ε α} {value : α} :
    step.toOption = some value ↔ step = .ok value := by
  cases step with
  | error fault => simp [Except.toOption]
  | ok found => simp [Except.toOption]

theorem mapError_eq_ok_iff {step : Except ε α} {reword : ε → ε'} {value : α} :
    step.mapError reword = .ok value ↔ step = .ok value := by
  cases step with
  | error fault =>
    change Except.error (reword fault) = .ok value ↔ _
    simp only [reduceCtorEq]
  | ok found =>
    change Except.ok found = .ok value ↔ _
    simp only [Except.ok.injEq]

theorem mapError_eq_error_iff {step : Except ε α} {reword : ε → ε'} {fault : ε'} :
    step.mapError reword = .error fault ↔ ∃ cause, step = .error cause ∧ reword cause = fault := by
  cases step with
  | error cause =>
    change Except.error (reword cause) = .error fault ↔ _
    simp only [Except.error.injEq, exists_eq_left']
  | ok found =>
    change Except.ok found = .error fault ↔ _
    simp only [reduceCtorEq, false_and, exists_false]

end Attest
