import Mathlib.Data.List.Basic

/-!
# Chains of checks

A computation that may be refused is a value of `Except`, and a chain of checks
reaches its end when each of them passes.
-/

namespace Vex.Library

variable {ε α β : Type}

variable {checked : Except ε α} {next : α → Except ε β} {result : β}

theorem bind_eq_ok : (checked >>= next) = .ok result ↔
      ∃ value, checked = .ok value ∧ next value = .ok result := by
  cases checked with
  | error failure => simp [bind, Except.bind]
  | ok value => simp [bind, Except.bind]

variable {failure : ε}

theorem bind_eq_error : (checked >>= next) = .error failure ↔
      checked = .error failure ∨ ∃ value, checked = .ok value ∧ next value = .error failure := by
  cases checked with
  | error other => simp [bind, Except.bind]
  | ok value => simp [bind, Except.bind]

theorem ok_bind (value : α) (next : α → Except ε β) :
    ((.ok value : Except ε α) >>= next) = next value := rfl

variable {value : α}

theorem toOption_eq_some {result : Except ε α} :
    result.toOption = some value ↔ result = .ok value := by
  cases result with
  | error failure => simp [Except.toOption]
  | ok other => simp [Except.toOption]

theorem join_toOption_eq_some {result : Except ε (Option α)} :
    result.toOption.join = some value ↔ result = .ok (some value) :=
  Option.join_eq_some_iff.trans toOption_eq_some

theorem map_eq_ok {make : α → β} :
    checked.map make = .ok result ↔ ∃ value, checked = .ok value ∧ make value = result := by
  cases checked with
  | error failure => simp [Except.map]
  | ok value => simp [Except.map]

theorem mapError_eq_ok {ε' : Type} {rename : ε → ε'} :
    checked.mapError rename = .ok value ↔ checked = .ok value := by
  cases checked with
  | error failure => simp [Except.mapError]
  | ok other => simp [Except.mapError]

/-- The check that refuses with `failure` when the condition holds. -/
def refuseIf (condition : Prop) [Decidable condition] (failure : ε) : Except ε Unit :=
  if condition then .error failure else .ok ()

@[simp] theorem refuseIf_eq_ok {condition : Prop} [Decidable condition] {u : Unit} :
    refuseIf condition failure = .ok u ↔ ¬ condition := by
  by_cases holds : condition
  · simp [refuseIf, holds]
  · simp [refuseIf, holds]

@[simp] theorem refuseIf_eq_error {condition : Prop} [Decidable condition] {other : ε} :
    refuseIf condition failure = .error other ↔ condition ∧ failure = other := by
  by_cases holds : condition
  · simp [refuseIf, holds]
  · simp [refuseIf, holds]

end Vex.Library
