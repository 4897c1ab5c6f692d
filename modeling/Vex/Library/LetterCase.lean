import Vex.Library.JsString

/-!
# Letter case

`toLowerCase` follows the case tables of Unicode, which are no part of a program. It is a
parameter here, with what every program relies on: ASCII letters are lowered one by one,
what is lower case stays as it is, and lowering the letters of a trimmed string leaves
nothing to trim.
-/

namespace Vex.Library

/-- The method `toLowerCase` of strings. -/
structure LowerCase where
  toLowerCase : JsString → JsString
  ofAscii : ∀ value : JsString, (∀ unit ∈ value, unit < 128) →
    toLowerCase value = value.map JsString.lowerAscii
  idempotent : ∀ value, toLowerCase (toLowerCase value) = toLowerCase value
  trimmed : ∀ value : JsString, (toLowerCase value.trim).trim = toLowerCase value.trim

namespace LowerCase

variable (cases : LowerCase)

/-- `value.trim().toLowerCase()`. -/
def normalize (value : JsString) : JsString := cases.toLowerCase value.trim

@[simp] theorem normalize_normalize (value : JsString) :
    cases.normalize (cases.normalize value) = cases.normalize value := by
  rw [normalize, normalize, cases.trimmed, cases.idempotent]

/-! ## A table with the ASCII letters alone -/

theorem upper_bounds {unit : UInt16} (upper : JsString.isUpperAscii unit = true) :
    65 ≤ unit.toNat ∧ unit.toNat ≤ 90 ∧ (unit + 32).toNat = unit.toNat + 32 := by
  simp only [JsString.isUpperAscii, Bool.and_eq_true, decide_eq_true_eq,
    UInt16.le_iff_toNat_le] at upper
  have above : 65 ≤ unit.toNat := upper.1
  have below : unit.toNat ≤ 90 := upper.2
  refine ⟨above, below, ?_⟩
  simp only [UInt16.toNat_add, UInt16.reduceToNat]
  omega

theorem isWhiteSpace_of_letter {unit : UInt16} (above : 65 ≤ unit.toNat)
    (below : unit.toNat ≤ 122) : JsString.isWhiteSpace unit = false := by
  simp only [JsString.isWhiteSpace, Bool.or_eq_false_iff, Bool.and_eq_false_iff,
    decide_eq_false_iff_not, beq_eq_false_iff_ne, ne_eq, ← UInt16.toNat_inj,
    UInt16.le_iff_toNat_le, UInt16.reduceToNat]
  omega

theorem isWhiteSpace_lowerAscii (unit : UInt16) :
    JsString.isWhiteSpace (JsString.lowerAscii unit) = JsString.isWhiteSpace unit := by
  unfold JsString.lowerAscii
  split
  · rename_i upper
    obtain ⟨above, below, lowered⟩ := upper_bounds upper
    rw [isWhiteSpace_of_letter (by omega) (by omega), isWhiteSpace_of_letter (by omega) (by omega)]
  · rfl

theorem lowerAscii_lowerAscii (unit : UInt16) :
    JsString.lowerAscii (JsString.lowerAscii unit) = JsString.lowerAscii unit := by
  by_cases upper : JsString.isUpperAscii unit = true
  · have lower : JsString.isUpperAscii (unit + 32) = false := by
      obtain ⟨above, below, lowered⟩ := upper_bounds upper
      simp only [JsString.isUpperAscii, UInt16.le_iff_toNat_le, lowered, UInt16.reduceToNat,
        Bool.and_eq_false_iff, decide_eq_false_iff_not]
      omega
    simp only [JsString.lowerAscii, upper, lower, if_true, Bool.false_eq_true, if_false]
  · simp only [JsString.lowerAscii, upper, Bool.false_eq_true, if_false]

theorem trim_map_lowerAscii (value : JsString) :
    JsString.trim (value.map JsString.lowerAscii) = value.trim.map JsString.lowerAscii := by
  have same : JsString.isWhiteSpace ∘ JsString.lowerAscii = JsString.isWhiteSpace := by
    funext unit
    exact isWhiteSpace_lowerAscii unit
  rw [JsString.trim, JsString.trim, List.dropWhile_map, same, List.rdropWhile, ← List.map_reverse,
    List.dropWhile_map, same, ← List.map_reverse, List.rdropWhile]

/-- The table that lowers the ASCII letters and leaves every other unit alone. -/
def ascii : LowerCase where
  toLowerCase value := value.map JsString.lowerAscii
  ofAscii _ _ := rfl
  idempotent value := by
    rw [List.map_map]
    congr 1
    funext unit
    exact lowerAscii_lowerAscii unit
  trimmed value := by
    rw [trim_map_lowerAscii, JsString.trim_trim]

end LowerCase

/-! ## Searches for a text -/

namespace JsString

/-- `value.startsWith(text)`. -/
def startsWith (value text : JsString) : Bool := text.isPrefixOf value

/-- `value.includes(text)`. -/
def includes (value text : JsString) : Bool := value.tails.any fun rest => text.isPrefixOf rest

theorem includes_of_startsWith {value text front : JsString} (starts : value.startsWith text)
    (begins : front <+: text) : value.includes front := by
  refine List.any_eq_true.2 ⟨value, (List.mem_tails _ _).2 (List.suffix_refl value), ?_⟩
  exact List.isPrefixOf_iff_prefix.2 (begins.trans (List.isPrefixOf_iff_prefix.1 starts))

end JsString

end Vex.Library
