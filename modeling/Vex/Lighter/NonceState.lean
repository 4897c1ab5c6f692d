import Vex.Lighter.Basic

/-!
# The nonce state

The rows of `lighter_nonce_state`, one for each environment, account and trading key,
and the five statements that move them. The table's check constraint lets a row carry a
reserved nonce and a reservation exactly when its status is not `observed`, so the two
are one optional `Hold` here, and a row that violates the constraint cannot be built.

Decimal texts are the numbers they denote. The source of an observation is one constant
and is left out.
-/

namespace Vex.Lighter.NonceState

open Vex.Library

structure Key where
  environment : Environment
  accountIndex : Nat
  apiKeyIndex : Nat
  deriving DecidableEq

/-- The statuses of a row whose nonce is taken. -/
inductive HeldStatus where
  | reserved
  | submitted
  | ambiguous
  deriving DecidableEq

/-- A nonce that is taken, and by which reservation. -/
structure Hold where
  status : HeldStatus
  reservedNonce : Nat
  reservationId : JsString
  deriving DecidableEq

/-- `LighterNonceStateRow`; a row without a hold is `observed`. -/
structure Row where
  providerNonce : Nat
  publicKey : JsString
  providerTransactionTime : Option Nat
  hold : Option Hold
  observedAt : Instant
  updatedAt : Instant
  deriving DecidableEq

def Row.ReservedBy (row : Row) (reservationId : JsString) : Prop :=
  (row.hold.map fun hold => (hold.status, hold.reservationId)) = some (.reserved, reservationId)

instance (row : Row) (reservationId : JsString) : Decidable (row.ReservedBy reservationId) :=
  inferInstanceAs (Decidable (_ = _))

/-! ## Parameters -/

def exactSafeIntegerString (value : Int) (field : String) : Except String Nat :=
  if 0 ≤ value ∧ value ≤ Params.maxSafeInteger then .ok value.toNat
  else .error ("lighter_nonce_state: " ++ field ++ " must be a safe non-negative integer")

/-- `RecordObservedLighterNonceInput`. -/
structure ObservedInput where
  key : Key
  nonce : Int
  publicKey : JsString
  transactionTime : Option Int
  observedAt : Option Instant

structure Observation where
  nonce : Nat
  publicKey : JsString
  transactionTime : Option Nat
  observedAt : Instant

def ObservedInput.checked (time : StatementTime) (input : ObservedInput) :
    Except String Observation := do
  let nonce ← exactSafeIntegerString input.nonce "nonce"
  let transactionTime ← input.transactionTime.mapM fun transactionTime =>
    exactSafeIntegerString transactionTime "transactionTime"
  if input.publicKey.trim.length = 0 then
    throw "lighter_nonce_state: publicKey is required"
  return ⟨nonce, input.publicKey, transactionTime, input.observedAt.getD time.now⟩

def Observation.row (time : StatementTime) (observation : Observation) : Row where
  providerNonce := observation.nonce
  publicKey := observation.publicKey
  providerTransactionTime := observation.transactionTime
  hold := none
  observedAt := observation.observedAt
  updatedAt := time.now

/-- `ReleaseReservedLighterNonceInput`. -/
structure ReleaseInput where
  key : Key
  reservationId : JsString
  providerNonce : Int
  deriving DecidableEq

/-- The input of `releaseUnsubmittedReservation`. -/
structure ReleaseUnsubmittedInput where
  key : Key
  reservationId : JsString
  nonceValue : Nat
  deriving DecidableEq

/-! ## Statements

Each takes the row of its key, if there is one, to the row it writes, if it writes one. -/

/-- A row that is held is left alone. -/
def recordObserved (time : StatementTime) (input : ObservedInput) (found : Option Row) :
    Except String (Option Row) := do
  let observation ← input.checked time
  return match found with
    | none => some (observation.row time)
    | some row => if row.hold = none then some (observation.row time) else none

/-- A row that is held is taken over only by a nonce beyond the one it holds; an observed
row is overwritten by any. -/
def recordExecutionObserved (time : StatementTime) (input : ObservedInput)
    (found : Option Row) : Except String (Option Row) := do
  let observation ← input.checked time
  return match found with
    | none => some (observation.row time)
    | some row =>
      match row.hold with
      | none => some (observation.row time)
      | some hold =>
        if observation.nonce > hold.reservedNonce then some (observation.row time) else none

def reserveObserved (time : StatementTime) (reservationId : JsString) (found : Option Row) :
    Except String (Option Row) :=
  .ok (found.bind fun row =>
    if row.hold = none then
      some { row with
        hold := some ⟨.reserved, row.providerNonce, reservationId⟩
        updatedAt := time.now }
    else none)

/-- The nonce that the provider reports becomes the observed one. -/
def releaseReservation (time : StatementTime) (input : ReleaseInput) (found : Option Row) :
    Except String (Option Row) := do
  let providerNonce ← exactSafeIntegerString input.providerNonce "providerNonce"
  return found.bind fun row =>
    if row.ReservedBy input.reservationId then
      some { row with
        providerNonce := providerNonce
        hold := none
        observedAt := time.now
        updatedAt := time.now }
    else none

/-- The reserved nonce becomes the observed one again. The statements that end an intent
unsubmitted release its reservation in the same way. -/
def releaseUnsubmittedReservation (time : StatementTime) (input : ReleaseUnsubmittedInput)
    (found : Option Row) : Except String (Option Row) :=
  .ok (found.bind fun row =>
    if row.hold = some ⟨.reserved, input.nonceValue, input.reservationId⟩ then
      some { row with hold := none, updatedAt := time.clockTimestamp }
    else none)

/-! ## Reservations of intents -/

inductive Holder where
  | order (intentId : JsString)
  | lifecycle (intentId : JsString)
  deriving DecidableEq

/-- `lighterOrderNonceReservationId`, and the reservation of a lifecycle intent. -/
def Holder.reservationId : Holder → JsString
  | .order intentId => "lighter-order:" ++ intentId
  | .lifecycle intentId => "lighter-lifecycle:" ++ intentId

end Vex.Lighter.NonceState
