import Vex.Lighter.OrderPreviewSafety

/-!
# Decimal strings and the integers of the wire

`decimalToLighterInteger` and `formatInteger` are inverse to each other at every scale that Lighter
has: what is written is read back, and what is read is written in its canonical form, without the
zeros behind its last digit.
-/

namespace Vex.Lighter.OrderPreview

open Vex.Library Vex.Library.JsString
open Vex.Lighter.CapitalShare (padEnd decimalValue_padEnd)

/-- A decimal string without the zeros behind its last digit. -/
def canonicalForm (value : JsString) : JsString :=
  match matchFraction value with
  | none => value
  | some (whole, fraction) =>
    whole ++ (if stripZeros fraction = [] then [] else 46 :: stripZeros fraction)

theorem stripZeros_padEnd (fraction : JsString) (length : ℕ) :
    stripZeros (padEnd (stripZeros fraction) length) = stripZeros fraction := by
  rw [padEnd]
  generalize length - (stripZeros fraction).length = n
  induction n with
  | zero =>
    rw [List.replicate_zero, List.append_nil]
    exact List.rdropWhile_idempotent _ _
  | succ n ih =>
    rw [List.replicate_succ', ← List.append_assoc, stripZeros, List.rdropWhile_concat_pos _ _ _ rfl]
    exact ih

theorem canonicalForm_of_parts {whole fraction : JsString} {decimals : ℕ}
    (canonical : isCanonicalDecimal whole = true) (digits : fraction.all isDigit)
    (fits : (stripZeros fraction).length ≤ decimals) :
    formatScaled (decimalValue (whole ++ padEnd (stripZeros fraction) decimals)) decimals =
      whole ++ (if stripZeros fraction = [] then [] else 46 :: stripZeros fraction) := by
  have long : (padEnd (stripZeros fraction) decimals).length = decimals := by
    simp [padEnd, fits]
  have padDigits : (padEnd (stripZeros fraction) decimals).all isDigit = true := by
    rw [padEnd, List.all_append, all_isDigit_zeros, Bool.and_true, List.all_eq_true]
    exact fun unit member =>
      List.all_eq_true.1 digits unit ((List.rdropWhile_prefix _ _).mem member)
  have raw := padded_of_parts canonical padDigits
  have stripped := stripZeros_padEnd fraction decimals
  generalize padEnd (stripZeros fraction) decimals = behind at *
  unfold formatScaled
  split_ifs with unscaled none_ none_
  · have nothing : behind = [] := List.eq_nil_of_length_eq_zero (long.trans unscaled)
    rw [nothing, List.append_nil, ofNat_decimalValue canonical]
  · rw [unscaled] at fits
    exact absurd (List.eq_nil_of_length_eq_zero (Nat.le_zero.1 fits)) none_
  all_goals
    rw [long] at raw
    have cut : (whole ++ behind).length - decimals = whole.length := by
      rw [List.length_append, long, Nat.add_sub_cancel]
    simp only [raw, cut, List.take_left, List.drop_left, stripped, none_, if_true, if_false]

theorem matchFraction_canonical {value whole fraction : JsString}
    (matched : matchFraction value = some (whole, fraction)) :
    isCanonicalDecimal whole = true ∧ fraction.all isDigit = true := by
  unfold matchFraction at matched
  split at matched
  · cases matched
  · next parts =>
      split_ifs at matched with canonical
      obtain ⟨rfl, rfl⟩ := Prod.mk.inj (Option.some.inj matched)
      exact ⟨canonical.1, (matchDecimal_digits parts).2⟩

/-- Up to the 18 decimals that Lighter has, an integer that is written is read back, a zero where
zeros are taken; and an integer that is read is the value of the string at its scale, exactly, and
is written as the string in its canonical form. -/
theorem conversion_is_exact :
    (∀ {integer decimals : ℕ} {field : JsString} {allowZero : Bool}, decimals ≤ 18 →
      (0 < integer ∨ allowZero = true) →
        decimalToLighterInteger (formatInteger integer decimals) decimals field allowZero
          = .ok integer) ∧
    ∀ {value field : JsString} {decimals : Int} {allowZero : Bool} {integer : ℕ},
      decimalToLighterInteger value decimals field allowZero = .ok integer →
        Denotes value (integer / 10 ^ decimals.toNat) ∧
          formatInteger integer decimals.toNat = canonicalForm value.trim := by
  have written (integer decimals : ℕ) :
      formatInteger integer decimals = formatScaled integer decimals := by simp [formatInteger]
  constructor
  · intro integer decimals field allowZero few positive
    obtain ⟨whole, fraction, matched, number, short⟩ := matchFraction_formatScaled integer decimals
    have fits : (stripZeros fraction).length ≤ decimals :=
      (List.rdropWhile_prefix _ _).length_le.trans short
    have exactly : decimalValue (whole ++ padEnd (stripZeros fraction) decimals) = integer := by
      have scaled := decimalValue_padEnd whole fits
      rw [decimalRat_stripZeros, number, div_mul_cancel₀ _ (by positivity)] at scaled
      exact_mod_cast scaled
    rw [decimalToLighterInteger, written, trim_formatScaled, matched]
    have scale : refuseIf ((decimals : Int) < 0 ∨ 18 < (decimals : Int))
        (field ++ (" decimals must be an integer from 0 to 18." : JsString)) = .ok () :=
      refuseIf_eq_ok.2 (by omega)
    have nonzero : ¬ (integer = 0 ∧ allowZero = false) := by
      rintro ⟨rfl, rfl⟩
      simp at positive
    simp only [scale, ok_bind, Int.toNat_natCast, exactly, if_neg nonzero]
    rw [if_neg (by omega)]
  · intro value field decimals allowZero integer read
    obtain ⟨-, denoted, -⟩ := decimalToLighterInteger_spec read
    refine ⟨denoted, ?_⟩
    rw [decimalToLighterInteger, bind_eq_ok] at read
    obtain ⟨-, -, read⟩ := read
    split at read
    · cases read
    · next whole fraction matched =>
        dsimp only at read
        split_ifs at read with long zero
        obtain rfl := Except.ok.inj read
        obtain ⟨canonical, digits⟩ := matchFraction_canonical matched
        rw [written, canonicalForm, matched]
        exact canonicalForm_of_parts canonical digits (by omega)

theorem conversion_is_exact_price :
    decimalToLighterInteger (formatInteger 12500 4) 4 ("price" : JsString) false = .ok 12500 ∧
      formatInteger 12500 4 = canonicalForm ("1.2500" : JsString).trim :=
  ⟨conversion_is_exact.1 (by decide) (.inl (by decide)),
    (conversion_is_exact.2 (by rfl : decimalToLighterInteger ("1.2500" : JsString) 4
      ("price" : JsString) false = .ok 12500)).2⟩

/-- At nineteen decimals an integer is written, and no string is read. -/
theorem nineteen_decimals_are_not_read :
    decimalToLighterInteger (formatInteger 5 19) 19 ("price" : JsString) true =
      .error ("price decimals must be an integer from 0 to 18." : JsString) := by
  decide

end Vex.Lighter.OrderPreview
