import Vex.Library.JsString

/-!
# Guarded updates of the wallet's rows

Both stores of wallet intents move a row by one `UPDATE … WHERE … RETURNING`,
which matches the row or misses it. What it writes has to satisfy the checks of
the table, or the statement throws and the transaction is rolled back.
-/

namespace Vex.Wallet

/-- A moment, in milliseconds. `NOW()` is the moment a transaction began. -/
abbrev Instant := Int

inductive CheckViolation where
  | violated
  deriving DecidableEq

/-- `casRow`: the row the statement returns, none where it missed. -/
def casRow {ρ : Type} (guard : Prop) [Decidable guard] (checks : ρ → Bool) (written : ρ) :
    Except CheckViolation (Option ρ) :=
  if guard then if checks written then .ok (some written) else .error .violated else .ok none

theorem casRow_eq_some {ρ : Type} {guard : Prop} [Decidable guard] {checks : ρ → Bool}
    {written row : ρ} :
    casRow guard checks written = .ok (some row) ↔ guard ∧ checks written = true ∧ written = row := by
  unfold casRow
  split_ifs with matched admitted
  · simp [matched, admitted]
  · simp [admitted]
  · simp [matched]

/-- The row after a statement: what it wrote, and the row itself where it missed or threw. -/
def after {ρ : Type} (row : ρ) (result : Except CheckViolation (Option ρ)) : ρ :=
  match result with
  | .ok (some written) => written
  | _ => row

theorem after_cases {ρ : Type} (row : ρ) (result : Except CheckViolation (Option ρ)) :
    after row result = row ∨ result = .ok (some (after row result)) := by
  match result with
  | .ok (some _) => exact Or.inr rfl
  | .ok none => exact Or.inl rfl
  | .error _ => exact Or.inl rfl

end Vex.Wallet
