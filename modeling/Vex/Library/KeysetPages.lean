import Mathlib.Data.List.Nodup
import Mathlib.Order.Lattice

/-!
# Pages behind a cursor that forgets

Rows in the order of their keys are read page by page, each page behind the last row of the one
before. A row that was visited leaves the selection, unless it stays, and the cursor keeps no more
than `blur` of the key it was taken from. Where `blur` loses something, rows that stay can stand
behind the cursor again. `run_visits_once_iff` says that every row is visited once exactly where
no such row is there at the end of a page that is full.
-/

namespace Vex.Library.Keyset

/-- How a list of rows is read by pages. -/
structure Scan (ρ κ : Type) where
  key : ρ → κ
  /-- What a cursor keeps of a key. -/
  blur : κ → κ
  /-- The row is selected even after it was visited. -/
  stays : ρ → Bool
  size : ℕ

namespace Scan

variable {ρ κ : Type} (scan : Scan ρ κ) (rows : List ρ)

/-- The cursor behind the rows. -/
def cursor (visited : List ρ) : Option κ := visited.getLast?.map fun row => scan.blur (scan.key row)

variable {scan rows}

theorem page_cases {k : ℕ} (within : k * scan.size ≤ rows.length) :
    let page := (rows.drop (k * scan.size)).take scan.size
    (page.length < scan.size ∧ rows.length < (k + 1) * scan.size
        ∧ rows.take (k * scan.size) ++ page = rows)
      ∨ (page.length = scan.size ∧ (k + 1) * scan.size ≤ rows.length
        ∧ rows.take (k * scan.size) ++ page = rows.take ((k + 1) * scan.size)) := by
  intro page
  have size : page.length = min scan.size (rows.length - k * scan.size) := by
    rw [List.length_take, List.length_drop]
  have joined : rows.take (k * scan.size) ++ page = rows.take ((k + 1) * scan.size) := by
    rw [Nat.add_mul, Nat.one_mul, List.take_add]
  rw [joined]
  rw [Nat.add_mul, Nat.one_mul] at *
  by_cases full : k * scan.size + scan.size ≤ rows.length
  · exact .inr ⟨by omega, full, rfl⟩
  · exact .inl ⟨by omega, by omega, List.take_of_length_le (by omega)⟩

theorem cursor_page (positive : 0 < scan.size) {visited page : List ρ} (full : page.length = scan.size) :
    scan.cursor page = scan.cursor (visited ++ page) := by
  have some_ : page ≠ [] := by
    rintro rfl
    exact absurd full (Nat.ne_of_lt positive)
  unfold cursor
  rw [List.getLast?_append_of_ne_nil _ some_]

variable [LinearOrder κ] (scan rows)

/-- The rows behind the cursor that are selected when those of the log were visited. -/
def selected [DecidableEq ρ] (log : List ρ) (cursor : Option κ) : List ρ :=
  rows.filter fun row => (row ∉ log ∨ scan.stays row) ∧ ∀ after ∈ cursor, after < scan.key row

/-- The rows that are visited, in order. -/
def run [DecidableEq ρ] : ℕ → Option κ → List ρ → List ρ
  | 0, _, log => log
  | pages + 1, cursor, log =>
    let page := (scan.selected rows log cursor).take scan.size
    if page.length < scan.size then log ++ page
    else run pages (scan.cursor page) (log ++ page)

/-- No row that was visited and stays is behind the cursor of the first `m` rows. -/
def ClearAt (m : ℕ) : Prop :=
  ∀ row ∈ rows.take m, scan.stays row → ∀ after ∈ scan.cursor (rows.take m), scan.key row ≤ after

/-- The end of every full page but the last is clear. -/
def Clear (pages : ℕ) : Prop :=
  ∀ k, 0 < k → k < pages → k * scan.size ≤ rows.length → scan.ClearAt rows (k * scan.size)

variable {scan rows}

theorem run_extends [DecidableEq ρ] (pages : ℕ) (cursor : Option κ) (log : List ρ) :
    log <+: scan.run rows pages cursor log := by
  induction pages generalizing cursor log with
  | zero => exact List.prefix_refl log
  | succ pages ih =>
    unfold run
    dsimp only
    split
    · exact List.prefix_append log _
    · exact (List.prefix_append log _).trans (ih _ _)

theorem run_subset [DecidableEq ρ] (pages : ℕ) {cursor : Option κ} {log : List ρ}
    (within : log ⊆ rows) : scan.run rows pages cursor log ⊆ rows := by
  induction pages generalizing cursor log with
  | zero => exact within
  | succ pages ih =>
    have more : log ++ (scan.selected rows log cursor).take scan.size ⊆ rows :=
      List.append_subset.mpr ⟨within, fun row member =>
        (List.mem_filter.mp (List.mem_of_mem_take member)).1⟩
    unfold run
    dsimp only
    split
    · exact more
    · exact ih more

section Sorted

variable (sorted : rows.Pairwise fun row later => scan.key row < scan.key later)
  (forgets : ∀ k, scan.blur k ≤ k) (positive : 0 < scan.size)

include sorted in
theorem nodup_rows : rows.Nodup :=
  sorted.imp fun {row later} before same => by
    subst same
    exact lt_irrefl _ before

include sorted forgets in
theorem cursor_lt {m : ℕ} {row : ρ} (ahead : row ∈ rows.drop m) :
    ∀ after ∈ scan.cursor (rows.take m), after < scan.key row := by
  intro after cut
  obtain ⟨last, ends, rfl⟩ := Option.map_eq_some_iff.mp cut
  rw [← List.take_append_drop m rows, List.pairwise_append] at sorted
  exact lt_of_le_of_lt (forgets _) (sorted.2.2 last (List.mem_of_getLast? ends) row ahead)

include sorted forgets in
theorem selected_eq [DecidableEq ρ] (m : ℕ) :
    scan.selected rows (rows.take m) (scan.cursor (rows.take m)) = (rows.take m).filter (fun row =>
          scan.stays row ∧ ∀ after ∈ scan.cursor (rows.take m), after < scan.key row)
        ++ rows.drop m := by
  have apart : ∀ row ∈ rows.drop m, row ∉ rows.take m := fun row ahead behind => by
    have nodup := nodup_rows sorted
    rw [← List.take_append_drop m rows] at nodup
    exact (List.nodup_append.mp nodup).2.2 row behind row ahead rfl
  have split : scan.selected rows (rows.take m) (scan.cursor (rows.take m))
      = scan.selected (rows.take m ++ rows.drop m) (rows.take m) (scan.cursor (rows.take m)) := by
    rw [List.take_append_drop]
  rw [split]
  unfold selected
  rw [List.filter_append]
  congr 1
  · refine List.filter_congr fun row member => ?_
    simp [member]
  · refine List.filter_eq_self.mpr fun row ahead => ?_
    exact decide_eq_true ⟨.inl (apart row ahead), cursor_lt sorted forgets ahead⟩

include sorted forgets in
theorem selected_of_clear [DecidableEq ρ] {m : ℕ} (clear : scan.ClearAt rows m) :
    scan.selected rows (rows.take m) (scan.cursor (rows.take m)) = rows.drop m := by
  rw [selected_eq sorted forgets, List.filter_eq_nil_iff.mpr, List.nil_append]
  intro row member passes
  obtain ⟨stays, behind⟩ := of_decide_eq_true passes
  cases cut : scan.cursor (rows.take m) with
  | none =>
    rw [cursor, Option.map_eq_none_iff, List.getLast?_eq_none_iff] at cut
    simp [cut] at member
  | some after => exact absurd (behind after cut) (not_lt.mpr (clear row member stays after cut))

include sorted forgets in
theorem selected_of_not_clear [DecidableEq ρ] {m : ℕ} (blocked : ¬ scan.ClearAt rows m) :
    ∃ row ∈ rows.take m, ∃ rest,
      scan.selected rows (rows.take m) (scan.cursor (rows.take m)) = row :: rest := by
  unfold ClearAt at blocked
  push Not at blocked
  obtain ⟨row, member, stays, after, cut, behind⟩ := blocked
  have again : row ∈ (rows.take m).filter (fun row =>
      scan.stays row ∧ ∀ after ∈ scan.cursor (rows.take m), after < scan.key row) := by
    refine List.mem_filter.mpr ⟨member, decide_eq_true ⟨stays, fun other same => ?_⟩⟩
    rwa [← Option.some.inj (cut.symm.trans same)]
  rw [selected_eq sorted forgets]
  cases found : (rows.take m).filter (fun row =>
      scan.stays row ∧ ∀ after ∈ scan.cursor (rows.take m), after < scan.key row) with
  | nil =>
    rw [found] at again
    exact absurd again List.not_mem_nil
  | cons first rest =>
    have member' : first ∈ rows.take m :=
      (List.mem_filter.mp (found ▸ List.mem_cons_self : first ∈ (rows.take m).filter _)).1
    exact ⟨first, member', rest ++ rows.drop m, rfl⟩

include sorted forgets positive in
theorem run_of_clear [DecidableEq ρ] {pages k : ℕ} (within : k * scan.size ≤ rows.length)
    (enough : rows.length ≤ (k + pages) * scan.size)
    (clear : ∀ j, k ≤ j → j < k + pages → j * scan.size ≤ rows.length →
      scan.ClearAt rows (j * scan.size)) :
    scan.run rows pages (scan.cursor (rows.take (k * scan.size))) (rows.take (k * scan.size))
      = rows := by
  induction pages generalizing k with
  | zero => exact List.take_of_length_le enough
  | succ pages ih =>
    unfold run
    dsimp only
    rw [selected_of_clear sorted forgets (clear k (Nat.le_refl k) (by omega) within)]
    obtain ⟨short, -, whole⟩ | ⟨full, onward, joined⟩ := page_cases within
    · rw [if_pos short, whole]
    · rw [if_neg (Nat.not_lt.mpr (Nat.le_of_eq full.symm)), cursor_page positive full, joined]
      exact ih onward (by rw [Nat.add_right_comm]; exact enough)
        fun j later early => clear j (by omega) (by omega)

include sorted forgets positive in
theorem clear_of_run [DecidableEq ρ] {pages k : ℕ} (within : k * scan.size ≤ rows.length)
    (once : ∀ row ∈ rows, (scan.run rows pages (scan.cursor (rows.take (k * scan.size)))
      (rows.take (k * scan.size))).count row = 1) :
    ∀ j, k ≤ j → j < k + pages → j * scan.size ≤ rows.length →
      scan.ClearAt rows (j * scan.size) := by
  induction pages generalizing k with
  | zero =>
    intro j later early
    omega
  | succ pages ih =>
    -- A page that starts with a visited row visits it again.
    have here : scan.ClearAt rows (k * scan.size) := by
      by_contra blocked
      obtain ⟨row, member, rest, repeats⟩ := selected_of_not_clear sorted forgets blocked
      have twice : rows.take (k * scan.size) ++ [row] <+:
          scan.run rows (pages + 1) (scan.cursor (rows.take (k * scan.size)))
            (rows.take (k * scan.size)) := by
        have first : [row] <+: (row :: rest).take scan.size := by
          obtain ⟨size, same⟩ := Nat.exists_eq_succ_of_ne_zero (Nat.pos_iff_ne_zero.mp positive)
          rw [same, List.take_succ_cons]
          exact ⟨_, rfl⟩
        have onward := (List.prefix_append_right_inj (rows.take (k * scan.size))).mpr first
        unfold run
        dsimp only
        rw [repeats]
        split
        · exact onward
        · exact onward.trans (run_extends _ _ _)
      have counts := twice.sublist.count_le row
      rw [once row (List.mem_of_mem_take member), List.count_append, List.count_singleton_self]
        at counts
      have seen := List.count_pos_iff.mpr member
      omega
    intro j later early bounded
    obtain rfl | after := Nat.eq_or_lt_of_le later
    · exact here
    unfold run at once
    dsimp only at once
    rw [selected_of_clear sorted forgets here] at once
    obtain ⟨-, beyond, -⟩ | ⟨full, onward, joined⟩ := page_cases within
    · have reach : (k + 1) * scan.size ≤ j * scan.size := Nat.mul_le_mul_right _ after
      omega
    · rw [if_neg (Nat.not_lt.mpr (Nat.le_of_eq full.symm)), cursor_page positive full, joined] at once
      exact ih onward once j after (by omega) bounded

include sorted forgets positive in
/-- Each row is visited once exactly where the ends of the full pages are clear, and then the
visits are the rows in order. -/
theorem run_visits_once_iff [DecidableEq ρ] {pages : ℕ} (enough : rows.length ≤ pages * scan.size) :
    ((∀ row ∈ rows, (scan.run rows pages none []).count row = 1) ↔ scan.Clear rows pages)
      ∧ (scan.Clear rows pages → scan.run rows pages none [] = rows) := by
  have start : scan.ClearAt rows (0 * scan.size) := by
    intro row member
    simp at member
  have begins : scan.run rows pages none []
      = scan.run rows pages (scan.cursor (rows.take (0 * scan.size))) (rows.take (0 * scan.size)) := by
    simp [cursor]
  have whole (clear : scan.Clear rows pages) : scan.run rows pages none [] = rows := by
    rw [begins]
    refine run_of_clear sorted forgets positive (by simp) (by simpa using enough)
      fun j _ early bounded => ?_
    rcases Nat.eq_zero_or_pos j with rfl | later
    · exact start
    · exact clear j later (by omega) bounded
  refine ⟨⟨fun once k _ early bounded => ?_, fun clear row member => ?_⟩, whole⟩
  · rw [begins] at once
    exact clear_of_run sorted forgets positive (by simp) once k (Nat.zero_le k) (by omega) bounded
  · rw [whole clear]
    exact List.count_eq_one_of_mem (nodup_rows sorted) member

end Sorted

end Scan

end Vex.Library.Keyset
