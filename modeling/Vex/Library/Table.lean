import Mathlib.Data.List.Nodup
import Mathlib.Algebra.BigOperators.Group.List.Basic
import Mathlib.Algebra.Ring.Nat

/-!
# Tables with a unique key

A table is a list of rows in which no two rows have the same key: the
uniqueness is a field, so a table that breaks it cannot be built. There are the
two ways a statement changes such a table. `rewrite` updates every row in place
and keeps its key; `put` replaces the row of a key, or adds one where there is
none.

* `find?_rewrite`, `find?_put` — the row of a key after a change;
* `total_put` — a sum over a table after `put` is the sum over the other rows
  with the new row counted once.
-/

namespace Vex.Library

variable {κ ρ : Type*}

/-- Rows with pairwise different keys. -/
structure Table (key : ρ → κ) where
  rows : List ρ
  unique : (rows.map key).Nodup

namespace Table

variable {key : ρ → κ}

/-- The table without rows. -/
def empty : Table key := ⟨[], List.nodup_nil⟩

/-- Update every row in place. -/
def rewrite (table : Table key) (change : ρ → ρ) (keeps : ∀ row, key (change row) = key row) :
    Table key where
  rows := table.rows.map change
  unique := by
    have same : key ∘ change = key := funext keeps
    rw [List.map_map, same]
    exact table.unique

theorem eq_of_key {table : Table key} {row other : ρ} (member : row ∈ table.rows)
    (memberOther : other ∈ table.rows) (same : key row = key other) : row = other :=
  List.inj_on_of_nodup_map table.unique member memberOther same

section Lookup

variable [DecidableEq κ]

/-- The row of a key. -/
def find? (table : Table key) (k : κ) : Option ρ := table.rows.find? fun row => key row = k

variable {table : Table key} {k : κ} {row : ρ}

theorem find?_eq_some : table.find? k = some row ↔ row ∈ table.rows ∧ key row = k := by
  constructor
  · intro found
    exact ⟨List.mem_of_find?_eq_some found, by simpa using List.find?_some found⟩
  · rintro ⟨member, rfl⟩
    cases found : table.find? (key row) with
    | none =>
      have := List.find?_eq_none.mp found row member
      simp at this
    | some other =>
      have foundKey : key other = key row := by simpa using List.find?_some found
      rw [eq_of_key (List.mem_of_find?_eq_some found) member foundKey]

@[simp] theorem find?_rewrite (table : Table key) (change : ρ → ρ)
    (keeps : ∀ row, key (change row) = key row) (k : κ) :
    (table.rewrite change keeps).find? k = (table.find? k).map change := by
  simp only [find?, rewrite, List.find?_map, Function.comp_def, keeps]

/-- Replace the row with the key of this one, or add it. -/
def put (table : Table key) (row : ρ) : Table key where
  rows := table.rows.filter (fun other => key other ≠ key row) ++ [row]
  unique := by
    rw [List.map_append, List.nodup_append]
    refine ⟨table.unique.sublist (List.filter_sublist.map key), List.nodup_singleton _, ?_⟩
    intro k member k' memberLast same
    rw [List.map_singleton, List.mem_singleton] at memberLast
    obtain ⟨other, memberOther, rfl⟩ := List.mem_map.mp member
    have different := (List.mem_filter.mp memberOther).2
    simp [same, memberLast] at different

theorem mem_put {other : ρ} :
    other ∈ (table.put row).rows ↔ other = row ∨ other ∈ table.rows ∧ key other ≠ key row := by
  simp [put, or_comm]

@[simp] theorem find?_put_self (table : Table key) (row : ρ) :
    (table.put row).find? (key row) = some row :=
  find?_eq_some.mpr ⟨mem_put.mpr (.inl rfl), rfl⟩

theorem find?_put_of_ne (other : k ≠ key row) : (table.put row).find? k = table.find? k := by
  refine Option.ext fun found => ?_
  rw [find?_eq_some, find?_eq_some, mem_put]
  constructor
  · rintro ⟨rfl | ⟨member, -⟩, rfl⟩
    · exact absurd rfl other
    · exact ⟨member, rfl⟩
  · rintro ⟨member, rfl⟩
    exact ⟨.inr ⟨member, other⟩, rfl⟩

end Lookup

/-! ## Sums over the rows of a kind -/

/-- The sum of an amount over the rows that meet a condition. -/
def total (table : Table key) (counted : ρ → Bool) (amount : ρ → Nat) : Nat :=
  ((table.rows.filter counted).map amount).sum

variable {counted : ρ → Bool}

variable (table : Table key)

theorem total_congr {counted' : ρ → Bool} (agree : ∀ row ∈ table.rows, counted row = counted' row)
    (amount : ρ → Nat) : table.total counted amount = table.total counted' amount := by
  rw [total, total, List.filter_congr agree]

variable {rows : List ρ} {change : ρ → ρ} {amount : ρ → Nat}

theorem total_map_le {counted' : ρ → Bool}
    (counts : ∀ row ∈ rows, counted' (change row) → counted row)
    (amounts : ∀ row ∈ rows, amount (change row) = amount row) :
    (((rows.map change).filter counted').map amount).sum ≤
      ((rows.filter counted).map amount).sum := by
  induction rows with
  | nil => exact Nat.le_refl 0
  | cons row rest ih =>
    have rest_le := ih (fun other member => counts other (List.mem_cons_of_mem row member))
      (fun other member => amounts other (List.mem_cons_of_mem row member))
    have counts := counts row List.mem_cons_self
    have amounts := amounts row List.mem_cons_self
    rw [List.map_cons, List.filter_cons, List.filter_cons]
    split
    · rename_i counts'
      rw [if_pos (counts counts')]
      simp only [List.map_cons, List.sum_cons, amounts]
      omega
    · split
      · simp only [List.map_cons, List.sum_cons]
        omega
      · exact rest_le

theorem total_le {counted' : ρ → Bool} (counts : ∀ row ∈ table.rows, counted' row → counted row)
    (amount : ρ → Nat) : table.total counted' amount ≤ table.total counted amount := by
  have unchanged := total_map_le counts fun row _ => (rfl : amount row = amount row)
  rwa [List.map_id'] at unchanged

theorem total_map_eq (counts : ∀ row ∈ rows, counted (change row) = counted row)
    (amounts : ∀ row ∈ rows, amount (change row) = amount row) :
    (((rows.map change).filter counted).map amount).sum = ((rows.filter counted).map amount).sum := by
  rw [List.filter_map, List.map_map]
  have same : rows.filter (counted ∘ change) = rows.filter counted :=
    List.filter_congr counts
  rw [same]
  refine congrArg List.sum (List.map_congr_left fun row member => ?_)
  exact amounts row (List.mem_of_mem_filter member)

theorem total_put [DecidableEq κ] (row : ρ) (counted : ρ → Bool) (amount : ρ → Nat) :
    (table.put row).total counted amount =
      table.total (fun other => counted other && decide (key other ≠ key row)) amount +
        if counted row then amount row else 0 := by
  simp only [total, put, List.filter_append, List.filter_filter, List.map_append, List.sum_append]
  cases counts : counted row with
  | true => simp [counts]
  | false => simp [counts]

end Table

end Vex.Library
