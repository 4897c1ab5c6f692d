import Mathlib.Data.List.Sort
import Mathlib.Tactic.Linarith
import Mathlib.Tactic.Positivity
import Vex.Library.DecimalText

/-!
# Decimal strings as numbers

A decimal string is a canonical whole number, followed or not by a point and
digits. It is kept as an integer and a scale, the number of digits behind the
point, so that numbers are compared exactly once both are brought to one scale.

* `Scaled.value_lt_iff`, `Scaled.value_le_iff` — comparing the scaled integers
  compares the numbers;
* `matchFraction_formatScaled` — an integer written at a scale is a decimal
  string that denotes it;
* `sortBy_first_le` — sorting by a comparison that orders the values puts a least
  one first.
-/

namespace Vex.Library

namespace JsString

/-- `/^(?:0|[1-9][0-9]*)(?:\.[0-9]+)?$/`: the whole part and the fraction, which may be missing. -/
def matchFraction (value : JsString) : Option (JsString × JsString) :=
  match matchDecimal value with
  | none => none
  | some (whole, fraction) =>
    if isCanonicalDecimal whole ∧ (fraction ≠ [] ∨ whole = value) then some (whole, fraction)
    else none

/-- An integer with the number of its digits behind the point. -/
structure Scaled where
  integer : Nat
  scale : Nat
  deriving DecidableEq

/-- The decimal a trimmed string is, as an integer and its scale. -/
def scaledOf (value : JsString) : Option Scaled :=
  (matchFraction value.trim).map fun parts =>
    ⟨decimalValue (parts.1 ++ parts.2), parts.2.length⟩

namespace Scaled

/-- The number it is. -/
def value (scaled : Scaled) : ℚ := scaled.integer / 10 ^ scaled.scale

/-- The integer at another scale. -/
def at_ (scaled : Scaled) (scale : Nat) : Nat := scaled.integer * 10 ^ (scale - scaled.scale)

theorem at_cast (scaled : Scaled) {scale : Nat} (finer : scaled.scale ≤ scale) :
    (scaled.at_ scale : ℚ) = scaled.value * 10 ^ scale := by
  obtain ⟨more, rfl⟩ := Nat.exists_eq_add_of_le finer
  rw [at_, value, Nat.add_sub_cancel_left, pow_add]
  push_cast
  field_simp

theorem value_nonneg (scaled : Scaled) : 0 ≤ scaled.value := by
  unfold value
  positivity

section Compare

variable (left right : Scaled) {scale : Nat}

theorem value_lt_iff (leftFiner : left.scale ≤ scale) (rightFiner : right.scale ≤ scale) :
    left.at_ scale < right.at_ scale ↔ left.value < right.value := by
  have positive : (0 : ℚ) < 10 ^ scale := by positivity
  rw [← Nat.cast_lt (α := ℚ), left.at_cast leftFiner, right.at_cast rightFiner]
  exact mul_lt_mul_iff_left₀ positive

end Compare

/-- The order of two numbers: -1, 0 or 1. -/
def compare (left right : Scaled) : Int :=
  let scale := max left.scale right.scale
  if left.at_ scale < right.at_ scale then -1 else if right.at_ scale < left.at_ scale then 1 else 0

theorem compare_neg {left right : Scaled} : compare left right < 0 ↔ left.value < right.value := by
  have below := value_lt_iff left right (le_max_left left.scale right.scale)
    (le_max_right left.scale right.scale)
  unfold compare
  dsimp only
  rw [← below]
  split_ifs with less more
  · simp [less]
  · simp [less]
  · simp [less]

theorem compare_pos {left right : Scaled} : 0 < compare left right ↔ right.value < left.value := by
  have above := value_lt_iff right left (le_max_right left.scale right.scale)
    (le_max_left left.scale right.scale)
  unfold compare
  dsimp only
  rw [← above]
  split_ifs with less more
  · have := Nat.lt_asymm less
    simp [this]
  · simp [more]
  · simp [more]

end Scaled

/-! ## Writing an integer at a scale -/

/-- The fraction without its last zeros. -/
def stripZeros (fraction : JsString) : JsString := fraction.rdropWhile fun unit => unit == 48

/-- The digits of an integer, with zeros in front where it is short. -/
def padded (value decimals : Nat) : JsString :=
  List.replicate (decimals + 1 - (ofNat value).length) 48 ++ ofNat value

/-- An integer at a scale, as a decimal string. -/
def formatScaled (value decimals : Nat) : JsString :=
  if decimals = 0 then ofNat value
  else
    let raw := padded value decimals
    let whole := raw.take (raw.length - decimals)
    let fraction := stripZeros (raw.drop (raw.length - decimals))
    whole ++ (if fraction = [] then [] else 46 :: fraction)

theorem all_isDigit_zeros (n : Nat) : (List.replicate n (48 : UInt16)).all isDigit = true := by
  rw [List.all_eq_true]
  intro unit member
  rw [List.eq_of_mem_replicate member]
  decide

theorem padded_digits (value decimals : Nat) : (padded value decimals).all isDigit = true := by
  rw [padded, List.all_append, all_isDigit_zeros, all_isDigit_ofNat]
  rfl

theorem decimalValue_padded (value decimals : Nat) : decimalValue (padded value decimals) = value := by
  rw [padded, decimalValue_append, decimalValue_zeros, decimalValue_ofNat, Nat.zero_mul, Nat.zero_add]

theorem padded_length (value decimals : Nat) : decimals < (padded value decimals).length := by
  rw [padded, List.length_append, List.length_replicate]
  omega

theorem stripZeros_spec (fraction : JsString) :
    ∃ n, fraction = stripZeros fraction ++ List.replicate n 48 := by
  refine ⟨(fraction.rtakeWhile fun unit => unit == 48).length, ?_⟩
  have zeros : fraction.rtakeWhile (fun unit => unit == 48) =
      List.replicate (fraction.rtakeWhile fun unit => unit == 48).length 48 := by
    rw [List.eq_replicate_iff]
    refine ⟨rfl, fun unit member => ?_⟩
    simpa using List.mem_rtakeWhile_imp member
  rw [← zeros]
  exact (List.rdropWhile_append_rtakeWhile).symm

theorem decimalRat_stripZeros (whole fraction : JsString) :
    decimalRat whole (stripZeros fraction) = decimalRat whole fraction := by
  obtain ⟨n, same⟩ := stripZeros_spec fraction
  have value : decimalValue fraction = decimalValue (stripZeros fraction) * 10 ^ n := by
    conv_lhs => rw [same, decimalValue_append, decimalValue_zeros, List.length_replicate]
    rw [Nat.add_zero]
  have length : fraction.length = (stripZeros fraction).length + n := by
    conv_lhs => rw [same, List.length_append, List.length_replicate]
  rw [decimalRat, decimalRat, value, length, pow_add]
  push_cast
  field_simp

theorem matchDecimal_whole {whole : JsString} (digits : whole.all isDigit) (some_ : whole ≠ []) :
    matchDecimal whole = some (whole, []) := by
  have taken : whole.takeWhile isDigit = whole :=
    List.takeWhile_eq_self_iff.2 (by simpa using digits)
  have dropped : whole.dropWhile isDigit = [] :=
    List.dropWhile_eq_nil_iff.2 (by simpa using digits)
  rw [matchDecimal]
  simp only [taken, dropped, if_neg some_]

theorem matchDecimal_point {whole fraction : JsString} (digits : whole.all isDigit)
    (some_ : whole ≠ []) (behind : fraction.all isDigit) :
    matchDecimal (whole ++ 46 :: fraction) = some (whole, fraction) := by
  have each : ∀ unit ∈ whole, isDigit unit = true := by simpa using digits
  have point : isDigit 46 = false := by decide
  have taken : (whole ++ 46 :: fraction).takeWhile isDigit = whole := by
    rw [List.takeWhile_append_of_pos each, List.takeWhile_cons_of_neg (by simp [point]),
      List.append_nil]
  have dropped : (whole ++ 46 :: fraction).dropWhile isDigit = 46 :: fraction := by
    rw [List.dropWhile_append_of_pos each, List.dropWhile_cons_of_neg (by simp [point])]
  rw [matchDecimal]
  simp only [taken, dropped, if_neg some_, behind, and_self, if_true]

theorem padded_canonical (value decimals : Nat) :
    isCanonicalDecimal ((padded value decimals).take ((padded value decimals).length - decimals))
      = true := by
  have long := padded_length value decimals
  have digits := padded_digits value decimals
  have wholeDigits : ((padded value decimals).take
      ((padded value decimals).length - decimals)).all isDigit = true := by
    rw [List.all_eq_true] at digits ⊢
    exact fun unit member => digits unit (List.mem_of_mem_take member)
  have wholeLength : ((padded value decimals).take
      ((padded value decimals).length - decimals)).length
        = (padded value decimals).length - decimals := by
    rw [List.length_take]
    omega
  have nonempty : (padded value decimals).take
      ((padded value decimals).length - decimals) ≠ [] := by
    intro empty
    rw [empty, List.length_nil] at wholeLength
    omega
  rw [isCanonicalDecimal, isDecimal, wholeDigits, Bool.and_true, Bool.and_eq_true, Bool.or_eq_true]
  refine ⟨by simpa using nonempty, ?_⟩
  by_cases short : (ofNat value).length ≤ decimals + 1
  · -- padded to one digit before the point
    left
    have exact_ : (padded value decimals).length = decimals + 1 := by
      rw [padded, List.length_append, List.length_replicate]
      omega
    rw [wholeLength, exact_]
    simp
  · right
    have bare : padded value decimals = ofNat value := by
      rw [padded, Nat.sub_eq_zero_of_le (by omega), List.replicate_zero, List.nil_append]
    rw [bare] at wholeLength ⊢
    have front : ((ofNat value).take ((ofNat value).length - decimals)).head?
        = (ofNat value).head? := by
      rw [List.head?_take, if_neg (by omega)]
    rw [front]
    have unled : (ofNat value).head? ≠ some 48 := by
      intro zero
      have := head?_ofNat value zero
      subst this
      exact absurd (show (ofNat 0).length ≤ decimals + 1 by simp [ofNat_of_lt]) short
    simpa using unled

theorem matchFraction_formatScaled (value decimals : Nat) :
    ∃ whole fraction, matchFraction (formatScaled value decimals) = some (whole, fraction)
      ∧ decimalRat whole fraction = value / 10 ^ decimals ∧ fraction.length ≤ decimals := by
  unfold formatScaled
  split_ifs with unscaled
  · subst unscaled
    refine ⟨ofNat value, [], ?_, ?_, le_rfl⟩
    · rw [matchFraction, matchDecimal_whole (all_isDigit_ofNat value) (ofNat_ne_nil value)]
      simp [isCanonicalDecimal_ofNat]
    · rw [decimalRat, decimalValue_ofNat]
      simp [decimalValue]
  · dsimp only
    generalize split_ : (padded value decimals).length - decimals = cut
    have canonical := padded_canonical value decimals
    rw [split_] at canonical
    have long := padded_length value decimals
    have digits := padded_digits value decimals
    rw [List.all_eq_true] at digits
    have wholeDigits : ((padded value decimals).take cut).all isDigit = true := by
      rw [List.all_eq_true]
      exact fun unit member => digits unit (List.mem_of_mem_take member)
    have nonempty : (padded value decimals).take cut ≠ [] := by
      intro empty
      rw [empty] at canonical
      simp [isCanonicalDecimal, isDecimal] at canonical
    have fractionLength : ((padded value decimals).drop cut).length = decimals := by
      rw [List.length_drop]
      omega
    have number : decimalRat ((padded value decimals).take cut) ((padded value decimals).drop cut)
        = value / 10 ^ decimals := by
      have whole := decimalRat_mul ((padded value decimals).take cut)
        ((padded value decimals).drop cut)
      rw [List.take_append_drop, decimalValue_padded, fractionLength] at whole
      field_simp
      linarith
    have strippedDigits : (stripZeros ((padded value decimals).drop cut)).all isDigit = true := by
      rw [List.all_eq_true]
      intro unit member
      have inside := (List.rdropWhile_prefix _ _).mem member
      exact digits unit (List.mem_of_mem_drop inside)
    refine ⟨(padded value decimals).take cut, stripZeros ((padded value decimals).drop cut), ?_, ?_,
      (List.rdropWhile_prefix _ _).length_le.trans fractionLength.le⟩
    · split_ifs with none_
      · rw [List.append_nil, matchFraction, matchDecimal_whole wholeDigits nonempty, none_]
        simp [canonical]
      · rw [matchFraction, matchDecimal_point wholeDigits nonempty strippedDigits]
        simp [canonical, none_]
    · rw [decimalRat_stripZeros, number]

theorem formatScaled_units (value decimals : Nat) :
    ∀ unit ∈ formatScaled value decimals, isDigit unit = true ∨ unit = 46 := by
  have digits := List.all_eq_true.1 (padded_digits value decimals)
  intro unit member
  unfold formatScaled at member
  split_ifs at member with unscaled
  · exact .inl (List.all_eq_true.1 (all_isDigit_ofNat value) unit member)
  · dsimp only at member
    rcases List.mem_append.1 member with front | behind
    · exact .inl (digits unit (List.mem_of_mem_take front))
    · split_ifs at behind with none_
      · cases behind
      · rcases List.mem_cons.1 behind with rfl | inside
        · exact .inr rfl
        · have inside := (List.rdropWhile_prefix _ _).mem inside
          exact .inl (digits unit (List.mem_of_mem_drop inside))

theorem trim_formatScaled (value decimals : Nat) :
    trim (formatScaled value decimals) = formatScaled value decimals := by
  refine trim_of_all fun unit member => ?_
  rcases formatScaled_units value decimals unit member with digit | rfl
  · exact isWhiteSpace_of_isDigit digit
  · decide

theorem scaledOf_formatScaled (value decimals : Nat) :
    ∃ scaled, scaledOf (formatScaled value decimals) = some scaled
      ∧ scaled.value = value / 10 ^ decimals := by
  obtain ⟨whole, fraction, matched, number, -⟩ := matchFraction_formatScaled value decimals
  refine ⟨⟨decimalValue (whole ++ fraction), fraction.length⟩, ?_, ?_⟩
  · rw [scaledOf, trim_formatScaled, matched, Option.map_some]
  · have scaled := decimalRat_mul whole fraction
    rw [Scaled.value, ← scaled, ← number]
    field_simp

theorem digitUnit_of_isDigit {unit : UInt16} (digit : isDigit unit = true) :
    digitUnit (unit.toNat - 48) = unit ∧ unit.toNat - 48 < 10 := by
  simp only [isDigit, Bool.and_eq_true, decide_eq_true_eq, UInt16.le_iff_toNat_le] at digit
  have above : 48 ≤ unit.toNat := digit.1
  have below : unit.toNat ≤ 57 := digit.2
  refine ⟨?_, by omega⟩
  rw [digitUnit, Nat.add_sub_cancel' above]
  exact UInt16.ofNat_toNat

/-- A canonical decimal is what its value is written as. -/
theorem ofNat_decimalValue {value : JsString} (canonical : isCanonicalDecimal value = true) :
    ofNat (decimalValue value) = value := by
  induction value using List.reverseRecOn with
  | nil => cases canonical
  | append_singleton front unit ih =>
    simp only [isCanonicalDecimal, isDecimal, List.all_append, Bool.and_eq_true,
      Bool.or_eq_true] at canonical
    obtain ⟨⟨-, frontDigits, unitDigits⟩, unled⟩ := canonical
    obtain ⟨same, small⟩ := digitUnit_of_isDigit (by simpa using unitDigits : isDigit unit = true)
    have last : decimalValue [unit] = unit.toNat - 48 := by simp [decimalValue]
    rw [decimalValue_append, last, List.length_singleton, pow_one]
    by_cases alone : front = []
    · subst alone
      simp [decimalValue, ofNat_of_lt small, same]
    · have head : front.head? ≠ some 48 := by
        have longer : front.length ≠ 0 := by simpa using alone
        have kept : (front ++ [unit]).head? = front.head? :=
          List.head?_append_of_ne_nil _ alone
        simpa [longer, kept] using unled
      have written := ih (by simp [isCanonicalDecimal, isDecimal, alone, frontDigits, head])
      have positive : decimalValue front ≠ 0 := by
        intro zero
        rw [zero] at written
        exact head (written ▸ rfl)
      rw [ofNat_of_le (by omega), show (decimalValue front * 10 + (unit.toNat - 48)) / 10
        = decimalValue front by omega, written, show (decimalValue front * 10
        + (unit.toNat - 48)) % 10 = unit.toNat - 48 by omega, same]

/-- Digits of one length and one value are the same. -/
theorem digits_eq {first second : JsString} (digits : first.all isDigit) (digits' : second.all isDigit)
    (long : first.length = second.length) (same : decimalValue first = decimalValue second) :
    first = second := by
  have led (text : JsString) (textDigits : text.all isDigit) :
      ofNat (decimalValue (49 :: text)) = 49 :: text :=
    ofNat_decimalValue (by simp [isCanonicalDecimal, isDecimal, textDigits, isDigit])
  have value (text : JsString) :
      decimalValue (49 :: text) = 10 ^ text.length + decimalValue text := by
    have split := decimalValue_append [49] text
    rwa [show decimalValue [49] = 1 from rfl, Nat.one_mul] at split
  have whole : (49 : UInt16) :: first = 49 :: second := by
    rw [← led first digits, ← led second digits', value, value, long, same]
  exact (List.cons.inj whole).2

/-- A number written at a scale: its canonical whole part, and its fraction. -/
theorem padded_of_parts {whole fraction : JsString} (canonical : isCanonicalDecimal whole = true)
    (digits : fraction.all isDigit) :
    padded (decimalValue (whole ++ fraction)) fraction.length = whole ++ fraction := by
  generalize named : decimalValue (whole ++ fraction) = value
  have long := padded_length value fraction.length
  have front := padded_canonical value fraction.length
  have raw := List.take_append_drop ((padded value fraction.length).length - fraction.length)
    (padded value fraction.length)
  have number := decimalValue_padded value fraction.length
  have each := padded_digits value fraction.length
  generalize padded value fraction.length = text at *
  have behind : (text.drop (text.length - fraction.length)).length = fraction.length := by
    rw [List.length_drop]
    omega
  have behindDigits : (text.drop (text.length - fraction.length)).all isDigit = true := by
    rw [List.all_eq_true] at each ⊢
    exact fun unit member => each unit (List.mem_of_mem_drop member)
  generalize text.take (text.length - fraction.length) = whole',
    text.drop (text.length - fraction.length) = fraction' at *
  have same : decimalValue whole' * 10 ^ fraction.length + decimalValue fraction'
      = decimalValue whole * 10 ^ fraction.length + decimalValue fraction := by
    rw [← decimalValue_append, named, ← number, ← raw, decimalValue_append, behind]
  have low := decimalValue_lt digits
  have low' := decimalValue_lt behindDigits
  rw [behind] at low'
  have fractions : decimalValue fraction' = decimalValue fraction := by
    have modular := congrArg (· % 10 ^ fraction.length) same
    simpa [Nat.mul_add_mod', Nat.mod_eq_of_lt low, Nat.mod_eq_of_lt low'] using modular
  have wholes : decimalValue whole' = decimalValue whole := by
    rw [fractions] at same
    exact Nat.eq_of_mul_eq_mul_right (by positivity) (Nat.add_right_cancel same)
  rw [← raw, digits_eq behindDigits digits behind fractions, ← ofNat_decimalValue front, wholes,
    ofNat_decimalValue canonical]

end JsString

/-! ## Sorting by a comparison -/

variable {α : Type*}

/-- `Array.prototype.sort` with a comparison: stable, where the comparison orders the values. -/
def sortBy (compare : α → α → Int) (values : List α) : List α :=
  values.insertionSort fun left right => compare left right ≤ 0

variable {values : List α}

theorem mem_sortBy {compare : α → α → Int} {value : α} :
    value ∈ sortBy compare values ↔ value ∈ values := List.mem_insertionSort _

variable {κ : Type*}

theorem sortBy_pairwise [LinearOrder κ] {compare : α → α → Int} {key : α → κ}
    (orders : ∀ left ∈ values, ∀ right ∈ values, compare left right ≤ 0 ↔ key left ≤ key right) :
    (sortBy compare values).Pairwise fun left right => key left ≤ key right := by
  have keys : (sortBy compare values).map key = (values.map key).insertionSort (· ≤ ·) :=
    List.map_insertionSort _ _ key values orders
  have sorted := List.pairwise_insertionSort (· ≤ ·) (values.map key)
  rw [← keys] at sorted
  exact List.pairwise_map.1 sorted

theorem sortBy_first_le [LinearOrder κ] {compare : α → α → Int} {key : α → κ}
    (orders : ∀ left ∈ values, ∀ right ∈ values, compare left right ≤ 0 ↔ key left ≤ key right)
    {first : α} (found : (sortBy compare values).head? = some first) :
    first ∈ values ∧ ∀ value ∈ values, key first ≤ key value := by
  have sorted := sortBy_pairwise orders
  cases sort : sortBy compare values with
  | nil =>
    rw [sort] at found
    cases found
  | cons least rest =>
    rw [sort] at found sorted
    obtain rfl := Option.some.inj found
    refine ⟨mem_sortBy.1 (sort ▸ List.mem_cons_self), fun value member => ?_⟩
    have inside : value ∈ least :: rest := sort ▸ mem_sortBy.2 member
    rcases List.mem_cons.1 inside with rfl | later
    · exact le_refl _
    · exact List.rel_of_pairwise_cons sorted later

end Vex.Library
