import Mathlib.Data.List.Infix

/-!
# Lines of a stream

A stream is a list over any alphabet with a terminator. Its lines are what ends with a terminator;
what comes after the last terminator is not a line yet.

* `takeLine` — the first line and what follows it, as a reader takes it;
* `lines_append` — the lines of a stream that arrives in two pieces.
-/

namespace Vex.Library

variable {α : Type*} [DecidableEq α]

/-- The first line, without its terminator, and what follows the terminator. -/
def takeLine (terminator : α) : List α → Option (List α × List α)
  | [] => none
  | a :: rest =>
    if a = terminator then some ([], rest)
    else (takeLine terminator rest).map fun taken => (a :: taken.1, taken.2)

theorem takeLine_append {terminator : α} {first : List α}
    (unfinished : takeLine terminator first = none) (second : List α) :
    takeLine terminator (first ++ second) =
      (takeLine terminator second).map fun taken => (first ++ taken.1, taken.2) := by
  induction first with
  | nil => simp
  | cons a rest ih =>
    rw [takeLine] at unfinished
    split at unfinished
    · cases unfinished
    · rename_i other
      have tail := ih (by simpa using unfinished)
      rw [List.cons_append, takeLine, if_neg other, tail, Option.map_map]
      rfl

/-- All the lines, and what comes after the last of them. -/
def lines (terminator : α) : List α → List (List α) × List α
  | [] => ([], [])
  | a :: rest =>
    if a = terminator then ([] :: (lines terminator rest).1, (lines terminator rest).2)
    else
      match (lines terminator rest).1 with
      | [] => ([], a :: (lines terminator rest).2)
      | line :: more => ((a :: line) :: more, (lines terminator rest).2)

variable {terminator : α}

theorem lines_of_takeLine_none {stream : List α} (none' : takeLine terminator stream = none) :
    lines terminator stream = ([], stream) := by
  induction stream with
  | nil => rfl
  | cons a rest ih =>
    rw [takeLine] at none'
    split at none'
    · cases none'
    · rename_i other
      have tail := ih (by simpa using none')
      rw [lines, if_neg other, tail]

theorem lines_of_takeLine_some {stream line rest : List α}
    (taken : takeLine terminator stream = some (line, rest)) :
    lines terminator stream = (line :: (lines terminator rest).1, (lines terminator rest).2) := by
  induction stream generalizing line with
  | nil => cases taken
  | cons a tail ih =>
    rw [takeLine] at taken
    split at taken
    · rename_i same
      cases taken
      rw [lines, if_pos same]
    · rename_i other
      obtain ⟨⟨first, after⟩, found, same⟩ := Option.map_eq_some_iff.mp taken
      cases same
      rw [lines, if_neg other, ih found]

theorem takeLine_length {stream line rest : List α}
    (taken : takeLine terminator stream = some (line, rest)) : rest.length < stream.length := by
  induction stream generalizing line with
  | nil => cases taken
  | cons a tail ih =>
    rw [takeLine] at taken
    split at taken
    · cases taken
      exact Nat.lt_succ_self _
    · obtain ⟨⟨first, after⟩, found, same⟩ := Option.map_eq_some_iff.mp taken
      cases same
      exact Nat.lt_succ_of_lt (ih found)

theorem takeLine_rest (stream : List α) : takeLine terminator (lines terminator stream).2 = none := by
  induction stream with
  | nil => rfl
  | cons a rest ih =>
    rw [lines]
    split
    · exact ih
    · rename_i other
      split
      · rw [takeLine, if_neg other, ih]
        rfl
      · exact ih

theorem lines_append (first second : List α) : lines terminator (first ++ second) =
    ((lines terminator first).1 ++ (lines terminator ((lines terminator first).2 ++ second)).1,
      (lines terminator ((lines terminator first).2 ++ second)).2) := by
  induction first with
  | nil => rfl
  | cons a rest ih =>
    rw [List.cons_append, lines, lines]
    split
    · rw [ih, List.cons_append]
    · rename_i other
      rw [ih]
      cases found : (lines terminator rest).1 with
      | nil =>
        dsimp only
        rw [List.nil_append, List.cons_append, lines, if_neg other, List.nil_append]
      | cons line more => rfl

end Vex.Library
