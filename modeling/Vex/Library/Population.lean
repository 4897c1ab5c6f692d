import Vex.Library.Runs

/-!
# Rows under statements

A table is a list of rows. A row is inserted, or a statement runs over all of
them: it matches some and leaves the others. What every inserted row has and
every statement keeps, every row of the table has (`forall_insert`,
`forall_statement`).

A statement that matches writes a state that can be told from its arguments
(`WritesState`). So a row stays outside a set of states as long as the statements
that write one of them miss it (`outside_of_misses`).
-/

namespace Vex.Library

variable {ρ α σ : Type*}

/-- What happens to a table. -/
inductive Traffic (ρ α : Type*) where
  | insert (row : ρ)
  | statement (op : α)

/-- The table after it. -/
def traffic (step : ρ → α → ρ) (rows : List ρ) : Traffic ρ α → List ρ
  | .insert row => rows ++ [row]
  | .statement op => rows.map fun row => step row op

variable {rows : List ρ} {holds : ρ → Prop}

theorem forall_insert (all : ∀ row ∈ rows, holds row) {fresh : ρ} (inserted : holds fresh) :
    ∀ row ∈ rows ++ [fresh], holds row := by
  intro row member
  rcases List.mem_append.1 member with old | new
  · exact all row old
  · rw [List.mem_singleton.1 new]
    exact inserted

variable {op : α}

theorem forall_statement {step : ρ → α → ρ} (all : ∀ row ∈ rows, holds row)
    (kept : ∀ row ∈ rows, holds row → holds (step row op)) :
    ∀ row ∈ traffic step rows (.statement op), holds row := by
  intro row member
  obtain ⟨old, oldMember, rfl⟩ := List.mem_map.1 member
  exact kept old oldMember (all old oldMember)

/-- A statement that matches leaves the row in the state it writes, or in its own where it writes
none. -/
def WritesState (applied : ρ → α → Option ρ) (state : ρ → σ) (target : α → Option σ) : Prop :=
  ∀ row op row', applied row op = some row' → state row' = (target op).getD (state row)

theorem outside_of_misses {applied : ρ → α → Option ρ} {state : ρ → σ} {target : α → Option σ}
    (writes : WritesState applied state target) {inside : σ → Prop} {row : ρ}
    (misses : ∀ found, target op = some found → inside found → applied row op = none)
    (outside : ¬ inside (state row)) : ¬ inside (state (orStay applied row op)) := by
  rcases orStay_cases applied row op with same | took
  · rwa [same]
  · rw [writes row op _ took]
    cases written : target op with
    | none => exact outside
    | some found =>
      intro reached
      have missed := misses found written reached
      rw [missed] at took
      cases took

end Vex.Library
