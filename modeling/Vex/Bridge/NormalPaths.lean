import Vex.Bridge.Lexical
import Vex.Library.ResolvedPaths

/-!
# What the bridge's normalised paths look like

The dot-counting loop resolves the segments of a path one by one, and so its result
is a resolved path: normalising it again changes nothing, between two of its
separators stands a name, and below a root nothing rises (`normalized_once`). A
single dot is left only where nothing else is.
-/

namespace Vex.Bridge.Lexical

open Vex.Library.PosixPath

/-- The segments that stand between two separators. -/
def innerSegments (text : List UInt8) : List (List UInt8) := ((text.splitOn 47).drop 1).dropLast

theorem splitOn_framed_bytes {allowAboveRoot : Bool} {stack : List (List UInt8)}
    (resolved : Resolved byteMarks allowAboveRoot stack) (some' : stack ≠ [])
    (absolute trailing : Bool) :
    (framed byteMarks absolute trailing (written byteMarks stack)).splitOn 47
      = (if absolute then [[]] else []) ++ stack.reverse ++ if trailing then [[]] else [] := by
  have split := splitOn_framed (m := byteMarks) absolute trailing (written byteMarks stack)
  rw [resolved.splitOn_written some'] at split
  exact split

theorem mem_of_mem_innerSegments {stack : List (List UInt8)} {absolute trailing : Bool}
    {text segment : List UInt8}
    (split : text.splitOn 47
      = (if absolute then [[]] else []) ++ stack.reverse ++ if trailing then [[]] else [])
    (member : segment ∈ innerSegments text) : segment ∈ stack := by
  unfold innerSegments at member
  rw [split] at member
  rw [← List.mem_reverse]
  generalize stack.reverse = segments at member ⊢
  cases absolute with
  | true =>
    cases trailing with
    | true => simpa using member
    | false =>
      rw [if_pos rfl, if_neg Bool.false_ne_true, List.append_nil, List.singleton_append,
        List.drop_one, List.tail_cons] at member
      exact List.mem_of_mem_dropLast member
  | false =>
    cases trailing with
    | true =>
      rw [if_neg Bool.false_ne_true, List.nil_append, if_pos rfl, List.drop_one] at member
      cases segments with
      | nil => simp at member
      | cons first others =>
        rw [List.cons_append, List.tail_cons, List.dropLast_concat] at member
        exact List.mem_cons_of_mem _ member
    | false =>
      rw [if_neg Bool.false_ne_true, List.append_nil, List.nil_append] at member
      exact List.mem_of_mem_drop (List.mem_of_mem_dropLast member)

/-- `normalizeSegments` resolves the segments of any bytes, and what `normalizePosix` makes of
them is normal: it stays as it is, holds no empty segment and no single dot between separators,
none at all but alone, and no two dots where it begins at the root. -/
theorem normalized_once (value : List UInt8) :
    (∀ allowAboveRoot, normalizeSegments value allowAboveRoot 47 isPosixSep
      = written byteMarks (resolve byteMarks allowAboveRoot (value.splitOn 47))) ∧
    normalizePosix (normalizePosix value) = normalizePosix value ∧
    (∀ segment ∈ innerSegments (normalizePosix value), segment ≠ [] ∧ segment ≠ [46]) ∧
    ([46] ∈ (normalizePosix value).splitOn 47 →
      normalizePosix value = [46] ∨ normalizePosix value = [46, 47]) ∧
    ((normalizePosix value)[0]? = some 47 → [46, 46] ∉ (normalizePosix value).splitOn 47) := by
  refine ⟨normalizeSegments_eq value, ?_, ?_⟩
  · rw [normalizePosix_eq, normalizePosix_eq, normalize_normalize]
  · rw [normalizePosix_eq]
    rcases normalize_shape (m := byteMarks) value with root | here | below | ⟨absolute, trailing,
      stack, resolved, some', shape⟩
    · rw [root]
      decide
    · rw [here]
      decide
    · rw [below]
      decide
    · have split := splitOn_framed_bytes resolved some' absolute trailing
      have first : isAbsolute byteMarks (framed byteMarks absolute trailing (written byteMarks stack)) =
          absolute := isAbsolute_framed resolved some'
      have member : ∀ segment : List UInt8, segment ≠ [] →
          segment ∈ (framed byteMarks absolute trailing (written byteMarks stack)).splitOn 47 →
          segment ∈ stack := by
        intro segment present
        rw [split]
        cases absolute <;> cases trailing <;> simp [present]
      rw [shape]
      refine ⟨?_, ?_, ?_⟩
      · intro segment inner
        obtain ⟨present, notDot, -⟩ := resolved.named segment (mem_of_mem_innerSegments split inner)
        exact ⟨present, notDot⟩
      · intro dot
        exact absurd rfl (resolved.named [46] (member [46] (List.cons_ne_nil _ _) dot)).2.1
      · intro begins dots
        rw [isAbsolute, List.head?_eq_getElem?, byteMarks_sep, begins] at first
        have rises := resolved.rises [46, 46] (member [46, 46] (List.cons_ne_nil _ _) dots) rfl
        rw [← first] at rises
        exact absurd rises (by decide)

/-- Names that begin or end in dots are names, and a kept pair of dots is not taken back. -/
example : normalizePosix (".//../..//..a/x.../y../../...".toUTF8.toList)
    = "../../..a/x.../...".toUTF8.toList := by
  decide +kernel

end Vex.Bridge.Lexical
