import Mathlib.Data.List.Rotate

/-!
# Taking turns around a list

A list and a cursor are a rotation: turns are given from the cursor on and around, to the first
member that wants one, and the cursor then stands behind it. Read from the cursor, a member that
had its turn is last, and what stands ahead of it stays ahead of it when a member joins at the end
of the list, when another has its turn, and when a member leaves from behind the cursor. A member
that leaves from before the cursor shifts the rest under it, and the one at the cursor becomes the
last.
-/

namespace Vex.Library

variable {α : Type*} {l : List α} {n : ℕ} {a x y : α}

/-- In this order, `y` has its turn before `x`. -/
def Ahead (y x : α) (l : List α) : Prop := [y, x].Sublist l

theorem Ahead.mono {l' : List α} (ahead : Ahead y x l) (sub : l.Sublist l') : Ahead y x l' :=
  List.Sublist.trans ahead sub

theorem ahead_last (member : y ∈ l) : Ahead y x (l ++ [x]) :=
  (List.singleton_sublist.mpr member).append (List.Sublist.refl [x])

theorem Ahead.of_append {f rest : List α} (ahead : Ahead y x (f ++ rest))
    (absent : y ∉ f) : Ahead y x rest := by
  induction f with
  | nil => exact ahead
  | cons head f ih =>
    obtain ⟨other, behind⟩ : y ≠ head ∧ y ∉ f := by simpa using absent
    have later : [y, x].Sublist (f ++ rest) := by
      cases ahead with
      | cons _ later => exact later
      | cons_cons _ _ => exact absurd rfl other
    exact ih later behind

/-! ## The list changes -/

theorem rotate_join (within : n ≤ l.length) (a : α) :
    (l ++ [a]).rotate n = l.drop n ++ a :: l.take n := by
  rw [List.rotate_eq_drop_append_take (by simp; omega), List.drop_append_of_le_length within,
    List.take_append_of_le_length within, List.append_assoc, List.singleton_append]

theorem Ahead.join (ahead : Ahead y x (l.rotate n)) (within : n ≤ l.length) (a : α) :
    Ahead y x ((l ++ [a]).rotate n) := by
  rw [rotate_join within]
  rw [List.rotate_eq_drop_append_take within] at ahead
  exact ahead.mono ((List.Sublist.refl _).append (List.sublist_cons_self a _))

section Leaving

variable [DecidableEq α]

theorem Ahead.erase (ahead : Ahead y x l) (notFirst : y ≠ a) (notSecond : x ≠ a) :
    Ahead y x (l.erase a) := by
  have both : [y, x].erase a = [y, x] := List.erase_of_not_mem (by simp [notFirst.symm, notSecond.symm])
  have erased := List.Sublist.erase a ahead
  rwa [both] at erased

theorem rotate_erase_of_notMem_take (member : a ∈ l) (behind : a ∉ l.take n) :
    (l.erase a).rotate (n % (l.erase a).length) = (l.rotate n).erase a := by
  have within : n < l.length := by
    by_contra beyond
    rw [List.take_of_length_le (Nat.le_of_not_lt beyond)] at behind
    exact behind member
  have split : l.erase a = l.take n ++ (l.drop n).erase a := by
    conv_lhs => rw [← List.take_append_drop n l]
    exact List.erase_append_right _ behind
  have size : (l.take n).length = n := List.length_take_of_le within.le
  have there : a ∈ l.drop n := by
    have either := member
    rw [← List.take_append_drop n l, List.mem_append] at either
    exact either.resolve_left behind
  rw [List.rotate_mod, List.rotate_eq_drop_append_take within.le, List.erase_append_left _ there, split,
    List.rotate_eq_drop_append_take (by simp [size]), List.drop_append_of_le_length size.ge,
    List.take_append_of_le_length size.ge, List.drop_of_length_le size.le,
    List.take_of_length_le size.le, List.nil_append]

theorem rotate_erase_of_mem_take {next : α} {rest : List α} (before : a ∈ l.take n)
    (cursor : l.drop n = next :: rest) :
    (l.erase a).rotate (n % (l.erase a).length) = rest ++ ((l.take n).erase a ++ [next]) := by
  have within : n < l.length := by
    by_contra beyond
    rw [List.drop_of_length_le (Nat.le_of_not_lt beyond)] at cursor
    cases cursor
  have size : ((l.take n).erase a ++ [next]).length = n := by
    have shorter := List.length_erase_of_mem before
    have positive := List.length_pos_of_mem before
    rw [List.length_take_of_le within.le] at shorter positive
    rw [List.length_append, shorter]
    simp only [List.length_singleton]
    omega
  have split : l.erase a = ((l.take n).erase a ++ [next]) ++ rest := by
    conv_lhs => rw [← List.take_append_drop n l]
    rw [List.erase_append_left _ before, cursor, List.append_assoc, List.singleton_append]
  have turned := List.rotate_append_length_eq ((l.take n).erase a ++ [next]) rest
  rw [size] at turned
  rw [List.rotate_mod, split]
  exact turned

/-- A member leaves, and the order of two others stays if the first of them is not the one that
the cursor loses. -/
theorem Ahead.leave (ahead : Ahead y x (l.rotate n)) (nodup : l.Nodup) (within : n < l.length)
    (member : a ∈ l) (notFirst : y ≠ a) (notSecond : x ≠ a)
    (kept : a ∈ l.take n → l[n]? ≠ some y) :
    Ahead y x ((l.erase a).rotate (n % (l.erase a).length)) := by
  by_cases before : a ∈ l.take n
  · obtain ⟨next, rest, cursor⟩ := List.exists_cons_of_ne_nil
      (List.ne_nil_of_length_pos (by simp; omega) : l.drop n ≠ [])
    have other : y ≠ next := by
      rintro rfl
      refine kept before ?_
      rw [← List.head?_drop, cursor, List.head?_cons]
    rw [rotate_erase_of_mem_take before cursor, ← List.append_assoc]
    rw [List.rotate_eq_drop_append_take within.le, cursor] at ahead
    have later : Ahead y x (rest ++ l.take n) :=
      Ahead.of_append (f := [next]) ahead (by simpa using other)
    have once : a ∉ rest := by
      intro again
      refine List.disjoint_take_drop nodup le_rfl before ?_
      rw [cursor]
      exact List.mem_cons_of_mem next again
    have erased := later.erase notFirst notSecond
    rw [List.erase_append_right _ once] at erased
    exact erased.mono (List.sublist_append_left _ _)
  · rw [rotate_erase_of_notMem_take member before]
    exact ahead.erase notFirst notSecond

end Leaving

/-! ## A turn -/

theorem rotate_turn {p : α → Bool} {index : ℕ}
    (found : ((List.range l.length).map fun i => (n + i) % l.length).find?
      (fun index => l[index]?.any p) = some index) :
    ∃ front z behind, l.rotate n = front ++ z :: behind ∧ l[index]? = some z ∧ p z = true ∧
      (∀ y ∈ front, p y = false) ∧ l.rotate (index + 1) = behind ++ (front ++ [z]) := by
  rw [List.find?_map] at found
  obtain ⟨i, first, rfl⟩ := Option.map_eq_some_iff.mp found
  obtain ⟨chosen, inside, earlier⟩ := List.find?_range_eq_some.mp first
  have short : i < l.length := List.mem_range.mp inside
  have read : ∀ j, j < l.length → (l.rotate n)[j]? = l[(n + j) % l.length]? := by
    intro j short
    rw [List.getElem?_rotate short, Nat.add_comm]
  have size : i < (l.rotate n).length := by rwa [List.length_rotate]
  have split : l.rotate n = (l.rotate n).take i ++ (l.rotate n)[i] :: (l.rotate n).drop (i + 1) := by
    rw [← List.drop_eq_getElem_cons size, List.take_append_drop]
  have at_ : l[(n + i) % l.length]? = some (l.rotate n)[i] := by
    rw [← read i short, List.getElem?_eq_getElem size]
  refine ⟨(l.rotate n).take i, (l.rotate n)[i], (l.rotate n).drop (i + 1), split, at_, ?_, ?_, ?_⟩
  · simp only [Function.comp_apply, at_] at chosen
    exact chosen
  · intro y member
    obtain ⟨j, before, rfl⟩ := List.mem_iff_getElem.mp member
    rw [List.length_take_of_le size.le] at before
    have skipped := earlier j before
    have there : l[(n + j) % l.length]? = some ((l.rotate n).take i)[j] := by
      rw [← read j (before.trans short), List.getElem_take, List.getElem?_eq_getElem]
    simp only [Function.comp_apply, there] at skipped
    simpa using skipped
  · have turned : l.rotate ((n + i) % l.length + 1) = (l.rotate n).rotate (i + 1) := by
      rw [List.rotate_rotate, ← List.rotate_mod l ((n + i) % l.length + 1), Nat.mod_add_mod,
        List.rotate_mod, Nat.add_assoc]
    rw [turned]
    conv_lhs => rw [split]
    have length : ((l.rotate n).take i ++ [(l.rotate n)[i]]).length = i + 1 := by
      simp [List.length_take_of_le size.le]
    have cut := List.rotate_append_length_eq ((l.rotate n).take i ++ [(l.rotate n)[i]])
      ((l.rotate n).drop (i + 1))
    rw [length, List.append_assoc, List.singleton_append] at cut
    exact cut

theorem Ahead.turn {front behind : List α} {z : α} (ahead : Ahead y x (front ++ z :: behind))
    (absent : y ∉ front) (other : y ≠ z) : Ahead y x (behind ++ (front ++ [z])) := by
  have later : Ahead y x (z :: behind) := ahead.of_append absent
  have rest : Ahead y x behind :=
    Ahead.of_append (f := [z]) later (by simpa using other)
  exact rest.mono (List.sublist_append_left _ _)

end Vex.Library
