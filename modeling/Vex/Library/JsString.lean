import Mathlib.Algebra.Order.Field.Rat
import Mathlib.Data.List.DropRight
import Mathlib.Data.List.Infix
import Mathlib.Tactic.FieldSimp
import Mathlib.Tactic.Ring

/-!
# Strings of JavaScript

A string is the list of its UTF-16 code units, so its length is the length the
language reports and a lone surrogate is a string like any other. The classes
of code units below are those of the language's regular expressions without
flags, and the searches are the ones such expressions are used for: a run of
units of a class, and a word between word boundaries in either case.
-/

namespace Vex.Library

/-- A string as the language has it: its UTF-16 code units. -/
abbrev JsString := List UInt16

instance : LawfulBEq JsString := inferInstance

namespace JsString

/-- The units of a scalar value: one in the basic plane, a surrogate pair above it. -/
def unitsOfScalar (scalar : Nat) : List UInt16 :=
  if scalar < 0x10000 then [scalar.toUInt16]
  else [(0xD800 + (scalar - 0x10000) / 0x400).toUInt16,
        (0xDC00 + (scalar - 0x10000) % 0x400).toUInt16]

/-- A literal of the source. -/
def ofString (text : String) : JsString :=
  text.toList.flatMap fun character => unitsOfScalar character.toNat

instance : Coe String JsString := ⟨ofString⟩

/-! ## Classes of code units -/

/-- `\d`. -/
def isDigit (unit : UInt16) : Bool := 48 ≤ unit && unit ≤ 57

/-- `[a-z]`. -/
def isLowerAscii (unit : UInt16) : Bool := 97 ≤ unit && unit ≤ 122

/-- `[A-Z]`. -/
def isUpperAscii (unit : UInt16) : Bool := 65 ≤ unit && unit ≤ 90

/-- `[a-fA-F0-9]`. -/
def isHexDigit (unit : UInt16) : Bool :=
  isDigit unit || (97 ≤ unit && unit ≤ 102) || (65 ≤ unit && unit ≤ 70)

/-- `\w`. -/
def isWordUnit (unit : UInt16) : Bool :=
  isDigit unit || isLowerAscii unit || isUpperAscii unit || unit == 95

/-- `\s`, which is also what `trim` removes. -/
def isWhiteSpace (unit : UInt16) : Bool :=
  (9 ≤ unit && unit ≤ 13) || unit == 0x20 || unit == 0xA0 || unit == 0x1680 ||
    (0x2000 ≤ unit && unit ≤ 0x200A) || unit == 0x2028 || unit == 0x2029 || unit == 0x202F ||
    unit == 0x205F || unit == 0x3000 || unit == 0xFEFF

/-- Folding of case by the `i` flag, for the ASCII letters. -/
def lowerAscii (unit : UInt16) : UInt16 := if isUpperAscii unit then unit + 32 else unit

/-! ## Trimming -/

/-- `value.trim()`. -/
def trim (value : JsString) : JsString :=
  (value.dropWhile isWhiteSpace).rdropWhile isWhiteSpace

theorem trim_trim (value : JsString) : trim (trim value) = trim value := by
  have noneInFront : (trim value).dropWhile isWhiteSpace = trim value := by
    cases trimmed : trim value with
    | nil => rfl
    | cons unit rest =>
      obtain ⟨later, equal⟩ : trim value <+: value.dropWhile isWhiteSpace :=
        List.rdropWhile_prefix _ _
      rw [trimmed, List.cons_append] at equal
      have inFront := List.head?_dropWhile_not isWhiteSpace value
      rw [← equal] at inFront
      simp only [List.head?_cons] at inFront
      rw [List.dropWhile_cons_of_neg (by simpa using inFront)]
  rw [trim, noneInFront, trim, List.rdropWhile_idempotent]

/-! ## Searches -/

/-- A match of one of the words at the front of the string, ending at a word boundary. -/
def wordAtFront (words : List JsString) (value : JsString) : Bool :=
  words.any fun word =>
    word.isPrefixOf (value.map lowerAscii) &&
      ((value.drop word.length).head?.elim true fun next => !isWordUnit next)

/-- `/\b(?:w₁|…|wₙ)\b/i` for words made of word units; `afterWord` says that the
unit before the string is a word unit, so that no boundary stands in front. -/
def containsWordAfter (words : List JsString) : Bool → JsString → Bool
  | _, [] => false
  | afterWord, unit :: rest =>
    (!afterWord && wordAtFront words (unit :: rest)) ||
      containsWordAfter words (isWordUnit unit) rest

/-- `/\b(?:w₁|…|wₙ)\b/i`. -/
def containsWord (words : List JsString) (value : JsString) : Bool :=
  containsWordAfter words false value

/-- `/(?:w₁|…|wₙ)/i`. -/
def containsAny (words : List JsString) (value : JsString) : Bool :=
  value.tails.any fun rest => words.any fun word => word.isPrefixOf (rest.map lowerAscii)

/-- `/[a-fA-F0-9]{n}/`. -/
def containsHexRun (n : Nat) (value : JsString) : Bool :=
  value.tails.any fun rest => (rest.take n).length == n && (rest.take n).all isHexDigit

/-! ## Length in UTF-8 -/

/-- A high surrogate, the first unit of a pair. -/
def isHighSurrogate (unit : UInt16) : Bool := 0xD800 ≤ unit && unit ≤ 0xDBFF

/-- A low surrogate, the second unit of a pair. -/
def isLowSurrogate (unit : UInt16) : Bool := 0xDC00 ≤ unit && unit ≤ 0xDFFF

/-- `Buffer.byteLength(value, "utf8")`: a lone surrogate is written as U+FFFD. -/
def byteLength : JsString → Nat
  | [] => 0
  | [unit] => if unit < 0x80 then 1 else if unit < 0x800 then 2 else 3
  | unit :: next :: rest =>
    if isHighSurrogate unit && isLowSurrogate next then byteLength rest + 4
    else (if unit < 0x80 then 1 else if unit < 0x800 then 2 else 3) + byteLength (next :: rest)

/-! ## Decimal numbers -/

/-- `/^\d+$/`. -/
def isDecimal (value : JsString) : Bool := value ≠ [] && value.all isDigit

/-- `/^(0|[1-9]\d*)$/`. -/
def isCanonicalDecimal (value : JsString) : Bool :=
  value.isDecimal && (value.length == 1 || value.head? != some 48)

/-- `BigInt(value)` for a string of decimal digits. -/
def decimalValue (value : JsString) : Nat :=
  value.foldl (fun sum unit => sum * 10 + (unit.toNat - 48)) 0

theorem foldl_decimal (value : JsString) (sum : Nat) :
    value.foldl (fun sum unit => sum * 10 + (unit.toNat - 48)) sum =
      sum * 10 ^ value.length + decimalValue value := by
  induction value generalizing sum with
  | nil => simp [decimalValue]
  | cons unit rest ih =>
    have tail : decimalValue (unit :: rest) =
        (unit.toNat - 48) * 10 ^ rest.length + decimalValue rest := by
      rw [decimalValue, List.foldl_cons, ih, Nat.zero_mul, Nat.zero_add]
    rw [List.foldl_cons, ih, tail, List.length_cons, pow_succ]
    ring

theorem decimalValue_append (value rest : JsString) :
    decimalValue (value ++ rest) = decimalValue value * 10 ^ rest.length + decimalValue rest := by
  rw [decimalValue, List.foldl_append, foldl_decimal]
  rfl

theorem decimalValue_zeros (n : Nat) : decimalValue (List.replicate n 48) = 0 := by
  induction n with
  | zero => rfl
  | succ n ih =>
    rw [List.replicate_succ', decimalValue_append, ih]
    rfl

theorem decimalValue_lt {value : JsString} (digits : value.all isDigit) :
    decimalValue value < 10 ^ value.length := by
  induction value using List.reverseRecOn with
  | nil => simp [decimalValue]
  | append_singleton rest unit ih =>
    rw [List.all_append, Bool.and_eq_true] at digits
    have unitDigit : isDigit unit := by simpa using digits.2
    have small : unit.toNat - 48 ≤ 9 := by
      simp only [isDigit, Bool.and_eq_true, decide_eq_true_eq] at unitDigit
      have bound : unit.toNat ≤ 57 := UInt16.le_iff_toNat_le.mp unitDigit.2
      omega
    have one : decimalValue [unit] = unit.toNat - 48 := by simp [decimalValue]
    have := ih digits.1
    rw [decimalValue_append, one, List.length_append, List.length_singleton, pow_one, pow_succ]
    omega

/-! ## Decimal fractions -/

/-- `/^(\d+)(?:\.(\d*))?$/`: the whole part and the fraction, which may be missing. -/
def matchDecimal (value : JsString) : Option (JsString × JsString) :=
  let whole := value.takeWhile isDigit
  if whole = [] then none
  else
    match value.dropWhile isDigit with
    | [] => some (whole, [])
    | unit :: fraction => if unit = 46 ∧ fraction.all isDigit then some (whole, fraction) else none

/-- `/^(-?)(\d+)(?:\.(\d*))?$/`. -/
def matchSignedDecimal : JsString → Option (Bool × JsString × JsString)
  | 45 :: rest => (matchDecimal rest).map (Prod.mk true)
  | value => (matchDecimal value).map (Prod.mk false)

theorem matchDecimal_digits {value whole fraction : JsString}
    (matched : matchDecimal value = some (whole, fraction)) :
    whole.all isDigit ∧ fraction.all isDigit := by
  unfold matchDecimal at matched
  have taken : (value.takeWhile isDigit).all isDigit := List.all_takeWhile
  dsimp only at matched
  split at matched
  · cases matched
  split at matched
  · cases matched
    exact ⟨taken, rfl⟩
  · split at matched
    · rename_i point
      cases matched
      exact ⟨taken, point.2⟩
    · cases matched

/-- The number a whole part and a fraction denote. -/
def decimalRat (whole fraction : JsString) : ℚ :=
  decimalValue whole + decimalValue fraction / 10 ^ fraction.length

theorem decimalRat_mul (whole fraction : JsString) :
    decimalRat whole fraction * 10 ^ fraction.length = decimalValue (whole ++ fraction) := by
  rw [decimalValue_append, decimalRat]
  push_cast
  field_simp

end JsString

end Vex.Library
