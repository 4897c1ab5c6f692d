import Vex.Library.Checks
import Vex.Library.JsString

/-!
# What the stores of the trading integration share

The environments, the clocks a database statement reads, the result of a
guarded update, and the checks of the parameters that the intent stores pass to
their statements, with their error texts.
-/

namespace Vex.Lighter

open Vex.Library

/-- `LighterEnvironment`. -/
inductive Environment where
  | core
  | rhc
  deriving DecidableEq

abbrev Instant := Int

/-- The two clocks of a statement: `NOW()` is the start of its transaction and
`clock_timestamp()` the time at which the statement reads it. -/
structure StatementTime where
  now : Instant
  clockTimestamp : Instant
  deriving DecidableEq

/-- The approval statuses both intent stores record. -/
inductive ApprovalStatus where
  | approvalPending
  | approved
  | rejected
  | expired
  deriving DecidableEq

def ApprovalStatus.text : ApprovalStatus → String
  | .approvalPending => "approval_pending"
  | .approved => "approved"
  | .rejected => "rejected"
  | .expired => "expired"

inductive Decision where
  | approved
  | rejected
  | expired
  deriving DecidableEq

def Decision.status : Decision → ApprovalStatus
  | .approved => .approved
  | .rejected => .rejected
  | .expired => .expired

/-- `UPDATE … SET … WHERE … RETURNING …` on one row. A statement throws, matches
no row, or leaves the row it returns. -/
def updateWhere {Row : Type} (guard : Prop) [Decidable guard] (row : Row) :
    Except String (Option Row) :=
  .ok (if guard then some row else none)

theorem updateWhere_eq_some {Row : Type} {guard : Prop} [Decidable guard] {row row' : Row} :
    updateWhere guard row = .ok (some row') ↔ guard ∧ row = row' := by
  simp only [updateWhere, Except.ok.injEq, Option.ite_none_right_eq_some, Option.some.injEq]

/-! ## Parameters

The intent stores check their parameters alike; each prefixes its error texts
with its own name. -/

namespace Params

def maxSafeInteger : Int := 2 ^ 53 - 1

def uint48Max : Nat := 2 ^ 48 - 1

variable (store : String)

def requiredNonNegativeDecimal (value : JsString) (field : String) : Except String Nat :=
  if value.isDecimal then .ok value.decimalValue
  else .error (store ++ ": " ++ field ++ " must be a non-negative decimal integer")

def requiredUint48Decimal (value : JsString) (field : String) : Except String Nat := do
  let decimal ← requiredNonNegativeDecimal store value field
  if decimal > uint48Max then throw (store ++ ": " ++ field ++ " must fit uint48")
  return decimal

def requiredNonNegativeInt (value : Int) (field : String) : Except String Nat :=
  if 0 ≤ value ∧ value ≤ maxSafeInteger then .ok value.toNat
  else .error (store ++ ": " ++ field ++ " must be a safe non-negative integer")

/-- The units `/[{}"]/`. -/
def isBraceOrQuote (unit : UInt16) : Bool := unit == 0x7B || unit == 0x7D || unit == 0x22

def requiredSafeId (value : JsString) (field : String) : Except String JsString :=
  let trimmed := value.trim
  if trimmed.length = 0 ∨ trimmed.length > 160 ∨
      trimmed.any fun unit => JsString.isWhiteSpace unit || isBraceOrQuote unit then
    .error (store ++ ": " ++ field ++ " must be a safe structural id")
  else .ok trimmed

def optionalSafeId (value : Option JsString) (field : String) : Except String (Option JsString) :=
  match value with
  | none => .ok none
  | some value =>
    if value.trim.length = 0 then .ok none
    else some <$> requiredSafeId store value.trim field

def signedPayloadWords : List JsString :=
  ["tx_info", "sig", "signature", "private", "secret", "payload"].map JsString.ofString

def assertNoSignedPayloadShape (value : JsString) (field : String) : Except String Unit :=
  if value.containsWord signedPayloadWords || value.containsHexRun 64 then
    .error (store ++ ": " ++ field ++ " must not contain signed payload material")
  else .ok ()

def safeText (value : JsString) (field : String) : Except String JsString := do
  if value.length > 240 ∨ value.any isBraceOrQuote then
    throw (store ++ ": " ++ field ++ " must be bounded structural text")
  assertNoSignedPayloadShape store value field
  return value

def requiredSafeText (value : JsString) (field : String) : Except String JsString :=
  let trimmed := value.trim
  if trimmed.length = 0 then .error (store ++ ": " ++ field ++ " is required")
  else safeText store trimmed field

def optionalSafeText (value : Option JsString) (field : String) : Except String (Option JsString) :=
  match value with
  | none => .ok none
  | some value =>
    let trimmed := value.trim
    if trimmed.length = 0 then .ok none else some <$> safeText store trimmed field

end Params

end Vex.Lighter
