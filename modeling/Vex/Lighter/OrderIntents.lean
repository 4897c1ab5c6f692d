import Vex.Lighter.Basic

/-!
# Order execution intents

The rows of `lighter_order_execution_intents` and the guarded updates that move
them. A row is the durable record of one approved create order: it is written
when the approval is asked for, and every later statement of the repository is
one `UPDATE` whose `WHERE` names the states it may start from.

Columns that no statement of the repository reads or writes after the insert
(the previewed order itself, the credential reference) are left out.
-/

namespace Vex.Lighter.OrderIntents

open Vex.Library

/-- `LighterOrderExecutionIntentState`. -/
inductive ExecutionState where
  | expiredUnsubmitted
  | previewed
  | approvalPending
  | signed
  | submitted
  | apiAccepted
  | sequencerPending
  | open_
  | partiallyFilled
  | filled
  | canceled
  | rejected
  | ambiguous
  deriving DecidableEq

def ExecutionState.text : ExecutionState → String
  | .expiredUnsubmitted => "expired_unsubmitted"
  | .previewed => "previewed"
  | .approvalPending => "approval_pending"
  | .signed => "signed"
  | .submitted => "submitted"
  | .apiAccepted => "api_accepted"
  | .sequencerPending => "sequencer_pending"
  | .open_ => "open"
  | .partiallyFilled => "partially_filled"
  | .filled => "filled"
  | .canceled => "canceled"
  | .rejected => "rejected"
  | .ambiguous => "ambiguous"

/-- `LighterProviderOutcomeSource`. -/
inductive ProviderOutcomeSource where
  | activeOrder
  | inactiveOrder
  | accountTrade
  | notFound
  deriving DecidableEq

/-- `LighterProviderOutcomeExecutionState`. -/
inductive ProviderOutcomeState where
  | sequencerPending
  | open_
  | partiallyFilled
  | filled
  | canceled
  | rejected
  deriving DecidableEq

def ProviderOutcomeState.executionState : ProviderOutcomeState → ExecutionState
  | .sequencerPending => .sequencerPending
  | .open_ => .open_
  | .partiallyFilled => .partiallyFilled
  | .filled => .filled
  | .canceled => .canceled
  | .rejected => .rejected

/-- `LighterOrderExecutionIntentRow`. Decimal strings are the numbers they
denote, and JSON columns are their texts. -/
structure Row where
  intentId : JsString
  sessionId : JsString
  environment : Environment
  accountIndex : Nat
  apiKeyIndex : Nat
  approvalId : Option JsString
  approvalStatus : ApprovalStatus
  executionState : ExecutionState
  decisionReason : Option JsString
  decidedAt : Option Instant
  nonceReservationId : Option JsString
  nonceValue : Option Nat
  clientOrderIndex : Option Nat
  signerTxHash : Option JsString
  submittedTxHash : Option JsString
  submitCode : Option Nat
  submitMessage : Option JsString
  predictedExecutionTimeMs : Option Nat
  volumeQuotaRemaining : Option Nat
  ambiguousReason : Option JsString
  signedAt : Option Instant
  submittedAt : Option Instant
  sendAttemptStartedAt : Option Instant
  apiAcceptedAt : Option Instant
  ambiguousAt : Option Instant
  providerOrderId : Option JsString
  providerOrderStatus : Option JsString
  providerOutcomeSource : Option ProviderOutcomeSource
  providerOutcomeJson : Option JsString
  providerOutcomeCheckedAt : Option Instant
  preSubmitRevalidationJson : Option JsString
  preSubmitRevalidatedAt : Option Instant
  createdAt : Instant
  updatedAt : Instant
  expiresAt : Instant

/-! ## Parameters -/

/-- The name the error texts of the repository start with. -/
def repository : String := "lighter_order_execution_intents"

/-- `assertProviderOutcomeJson`, on the text of the object. -/
def assertProviderOutcomeJson (encoded : JsString) : Except String JsString :=
  if encoded.length > 2000 ∨ encoded.containsWord
      (["tx_info", "private", "secret", "signature", "payload"].map JsString.ofString) then
    .error (repository ++ ": providerOutcomeJson must be bounded non-secret evidence")
  else .ok encoded

/-- `assertPreSubmitRevalidationEvidence`, on the text of the object. -/
def assertPreSubmitRevalidationEvidence (encoded : JsString) : Except String JsString :=
  if encoded.length > 2000 ∨ encoded.containsAny
      (["auth", "token", "tx_info", "private", "secret", "signature", "payload"].map
        JsString.ofString) then
    .error (repository ++ ": pre-submit revalidation evidence must be bounded and non-secret")
  else .ok encoded

/-! ## Creating an intent -/

/-- What the insert reads of `LighterOrderPreviewRow`. -/
structure Preview where
  sessionId : JsString
  environment : Environment
  accountIndex : Nat
  apiKeyIndex : Option Nat

structure NonceScope where
  environment : Environment
  accountIndex : Nat
  apiKeyIndex : Nat
  deriving DecidableEq

/-- `CreateLighterOrderExecutionIntentInput`. -/
structure CreateInput where
  intentId : JsString
  preview : Preview
  nonceScope : NonceScope
  expiresAt : Instant
  approvalId : Option JsString

/-- `assertCredentialMatchesPreview`; it leaves the key index that matched. -/
def assertCredentialMatchesPreview (preview : Preview) (scope : NonceScope) : Except String Nat :=
  match preview.apiKeyIndex with
  | none => .error (repository ++ ": preview must include a trading apiKeyIndex")
  | some apiKeyIndex =>
    if preview.environment ≠ scope.environment ∨ preview.accountIndex ≠ scope.accountIndex ∨
        apiKeyIndex ≠ scope.apiKeyIndex then
      .error (repository ++ ": credential readiness must match preview environment/account/api-key")
    else .ok apiKeyIndex

/-- `createApprovalPending`: the row the insert writes, with the defaults of the table. -/
def createApprovalPending (time : StatementTime) (input : CreateInput) : Except String Row := do
  let apiKeyIndex ← assertCredentialMatchesPreview input.preview input.nonceScope
  return {
    intentId := input.intentId, sessionId := input.preview.sessionId
    environment := input.preview.environment, accountIndex := input.preview.accountIndex
    apiKeyIndex := apiKeyIndex, approvalId := input.approvalId
    approvalStatus := .approvalPending, executionState := .approvalPending
    decisionReason := none, decidedAt := none, nonceReservationId := none, nonceValue := none
    clientOrderIndex := none, signerTxHash := none, submittedTxHash := none, submitCode := none
    submitMessage := none, predictedExecutionTimeMs := none, volumeQuotaRemaining := none
    ambiguousReason := none, signedAt := none, submittedAt := none, sendAttemptStartedAt := none
    apiAcceptedAt := none, ambiguousAt := none, providerOrderId := none
    providerOrderStatus := none, providerOutcomeSource := none, providerOutcomeJson := none
    providerOutcomeCheckedAt := none, preSubmitRevalidationJson := none
    preSubmitRevalidatedAt := none, createdAt := time.now, updatedAt := time.now
    expiresAt := input.expiresAt }

/-- An intent of session `s` on account 7. -/
def intentInput : CreateInput :=
  ⟨"i", ⟨"s", .core, 7, some 4⟩, ⟨.core, 7, 4⟩, 1000, none⟩

def intentRow : Row :=
  { intentId := "i", sessionId := "s", environment := .core, accountIndex := 7, apiKeyIndex := 4
    approvalId := none, approvalStatus := .approvalPending, executionState := .approvalPending
    decisionReason := none, decidedAt := none, nonceReservationId := none, nonceValue := none
    clientOrderIndex := none, signerTxHash := none, submittedTxHash := none, submitCode := none
    submitMessage := none, predictedExecutionTimeMs := none, volumeQuotaRemaining := none
    ambiguousReason := none, signedAt := none, submittedAt := none, sendAttemptStartedAt := none
    apiAcceptedAt := none, ambiguousAt := none, providerOrderId := none
    providerOrderStatus := none, providerOutcomeSource := none, providerOutcomeJson := none
    providerOutcomeCheckedAt := none, preSubmitRevalidationJson := none
    preSubmitRevalidatedAt := none, createdAt := 0, updatedAt := 0, expiresAt := 1000 }

example : createApprovalPending ⟨0, 0⟩ intentInput = .ok intentRow := rfl

/-! ## Guarded updates -/

/-- `MarkLighterOrderApprovalDecisionInput`. -/
structure ApprovalDecisionInput where
  intentId : JsString
  decision : Decision
  approvalId : Option JsString
  reason : Option JsString

def markApprovalDecision (time : StatementTime) (input : ApprovalDecisionInput) (row : Row) :
    Except String (Option Row) :=
  updateWhere (row.intentId = input.intentId ∧ row.approvalStatus = .approvalPending) { row with
      approvalStatus := input.decision.status
      approvalId := input.approvalId <|> row.approvalId
      decisionReason := input.reason
      decidedAt := some time.now
      updatedAt := time.now }

/-- `MarkLighterOrderPreSubmitRevalidatedInput`. -/
structure PreSubmitRevalidatedInput where
  intentId : JsString
  sessionId : JsString
  environment : Environment
  evidence : JsString

def markPreSubmitRevalidated (time : StatementTime) (input : PreSubmitRevalidatedInput)
    (row : Row) : Except String (Option Row) := do
  let evidence ← assertPreSubmitRevalidationEvidence input.evidence
  updateWhere (row.intentId = input.intentId ∧ row.sessionId = input.sessionId ∧
      row.environment = input.environment ∧ row.approvalStatus = .approved ∧
      row.executionState = .approvalPending ∧ row.nonceReservationId = none ∧
      row.nonceValue = none)
    { row with
      preSubmitRevalidationJson := some evidence
      preSubmitRevalidatedAt := some time.now
      updatedAt := time.now }

/-- `AttachLighterOrderNonceReservationInput`. -/
structure AttachNonceReservationInput where
  intentId : JsString
  sessionId : JsString
  environment : Environment
  accountIndex : Nat
  apiKeyIndex : Nat
  reservationId : JsString
  nonceValue : JsString

def attachNonceReservation (time : StatementTime) (input : AttachNonceReservationInput)
    (row : Row) : Except String (Option Row) :=
  if input.reservationId.trim.length = 0 then
    .error (repository ++ ": reservationId is required")
  else do
    let nonceValue ← Params.requiredNonNegativeDecimal repository input.nonceValue "nonceValue"
    updateWhere (row.intentId = input.intentId ∧ row.sessionId = input.sessionId ∧
        row.environment = input.environment ∧ row.accountIndex = input.accountIndex ∧
        row.apiKeyIndex = input.apiKeyIndex ∧ row.approvalStatus = .approved ∧
        row.executionState = .approvalPending ∧ row.nonceReservationId = none ∧
        row.nonceValue = none)
      { row with
        nonceReservationId := some input.reservationId
        nonceValue := some nonceValue
        updatedAt := time.now }

/-- `MarkLighterOrderSignedInput`. -/
structure SignedInput where
  intentId : JsString
  sessionId : JsString
  environment : Environment
  nonceReservationId : JsString
  nonceValue : JsString
  clientOrderIndex : JsString
  signerTxHash : JsString

def markSigned (time : StatementTime) (input : SignedInput) (row : Row) : Except String (Option Row) := do
  let reservationId ← Params.requiredSafeId repository input.nonceReservationId "nonceReservationId"
  let nonceValue ← Params.requiredNonNegativeDecimal repository input.nonceValue "nonceValue"
  let clientOrderIndex ←
    Params.requiredUint48Decimal repository input.clientOrderIndex "clientOrderIndex"
  let signerTxHash ← Params.requiredSafeId repository input.signerTxHash "signerTxHash"
  updateWhere (row.intentId = input.intentId ∧ row.sessionId = input.sessionId ∧
      row.environment = input.environment ∧ row.approvalStatus = .approved ∧
      row.executionState = .approvalPending ∧ row.nonceReservationId = some reservationId ∧
      row.nonceValue = some nonceValue ∧ row.clientOrderIndex = none ∧ row.signerTxHash = none)
    { row with
      executionState := .signed
      clientOrderIndex := some clientOrderIndex
      signerTxHash := some signerTxHash
      signedAt := some time.now
      updatedAt := time.now }

/-- `MarkLighterOrderSubmittedInput`. -/
structure SubmittedInput where
  intentId : JsString
  sessionId : JsString
  environment : Environment
  signerTxHash : JsString

def markSubmitted (time : StatementTime) (input : SubmittedInput) (row : Row) :
    Except String (Option Row) := do
  let signerTxHash ← Params.requiredSafeId repository input.signerTxHash "signerTxHash"
  updateWhere (row.intentId = input.intentId ∧ row.sessionId = input.sessionId ∧
      row.environment = input.environment ∧ row.approvalStatus = .approved ∧
      row.executionState = .signed ∧ row.signerTxHash = some signerTxHash ∧
      row.submittedAt = none ∧ row.expiresAt > time.clockTimestamp)
    { row with
      executionState := .submitted
      submittedAt := some time.now
      updatedAt := time.now }

/-- `MarkLighterOrderApiAcceptedInput`. -/
structure ApiAcceptedInput where
  intentId : JsString
  sessionId : JsString
  environment : Environment
  signerTxHash : JsString
  submittedTxHash : JsString
  submitCode : Int
  submitMessage : Option JsString
  predictedExecutionTimeMs : Int
  volumeQuotaRemaining : Option Int

def markApiAccepted (time : StatementTime) (input : ApiAcceptedInput) (row : Row) :
    Except String (Option Row) := do
  let signerTxHash ← Params.requiredSafeId repository input.signerTxHash "signerTxHash"
  let submittedTxHash ← Params.requiredSafeId repository input.submittedTxHash "submittedTxHash"
  let submitCode ← Params.requiredNonNegativeInt repository input.submitCode "submitCode"
  let predictedExecutionTimeMs ← Params.requiredNonNegativeInt repository
    input.predictedExecutionTimeMs "predictedExecutionTimeMs"
  let volumeQuotaRemaining ← input.volumeQuotaRemaining.mapM fun remaining =>
    Params.requiredNonNegativeInt repository remaining "volumeQuotaRemaining"
  updateWhere (row.intentId = input.intentId ∧ row.sessionId = input.sessionId ∧
      row.environment = input.environment ∧ row.approvalStatus = .approved ∧
      row.executionState = .submitted ∧ row.signerTxHash = some signerTxHash ∧
      row.apiAcceptedAt = none)
    { row with
      executionState := .apiAccepted
      submittedTxHash := some submittedTxHash
      submitCode := some submitCode
      submitMessage := input.submitMessage
      predictedExecutionTimeMs := some predictedExecutionTimeMs
      volumeQuotaRemaining := volumeQuotaRemaining
      apiAcceptedAt := some time.now
      updatedAt := time.now }

/-- `MarkLighterOrderSequencerPendingInput`. -/
structure SequencerPendingInput where
  intentId : JsString
  sessionId : JsString
  environment : Environment
  signerTxHash : JsString
  submittedTxHash : JsString

def markSequencerPending (time : StatementTime) (input : SequencerPendingInput) (row : Row) :
    Except String (Option Row) := do
  let signerTxHash ← Params.requiredSafeId repository input.signerTxHash "signerTxHash"
  let submittedTxHash ← Params.requiredSafeId repository input.submittedTxHash "submittedTxHash"
  updateWhere (row.intentId = input.intentId ∧ row.sessionId = input.sessionId ∧
      row.environment = input.environment ∧ row.approvalStatus = .approved ∧
      row.executionState = .apiAccepted ∧ row.signerTxHash = some signerTxHash ∧
      row.submittedTxHash = some submittedTxHash ∧ row.clientOrderIndex ≠ none)
    { row with
      executionState := .sequencerPending
      updatedAt := time.now }

/-- The clause that three statements share: an order that is open or partially
filled takes only an outcome that does not undo that progress. -/
def ExecutionState.progressesTo (state : ExecutionState) (outcome : ProviderOutcomeState) :
    Bool :=
  (state == .open_ && outcome ∈ [.open_, .partiallyFilled, .filled, .canceled, .rejected]) ||
  (state == .partiallyFilled && outcome ∈ [.partiallyFilled, .filled, .canceled, .rejected])

/-- `MarkLighterOrderProviderOutcomeInput`. -/
structure ProviderOutcomeInput where
  intentId : JsString
  sessionId : JsString
  environment : Environment
  state : ProviderOutcomeState
  source : ProviderOutcomeSource
  providerOrderId : Option JsString
  providerOrderStatus : Option JsString
  providerOutcomeJson : JsString

def markProviderOutcome (time : StatementTime) (input : ProviderOutcomeInput) (row : Row) :
    Except String (Option Row) := do
  let providerOrderId ← Params.optionalSafeId repository input.providerOrderId "providerOrderId"
  let providerOrderStatus ←
    Params.optionalSafeText repository input.providerOrderStatus "providerOrderStatus"
  let providerOutcomeJson ← assertProviderOutcomeJson input.providerOutcomeJson
  updateWhere (row.intentId = input.intentId ∧ row.sessionId = input.sessionId ∧
      row.environment = input.environment ∧ row.approvalStatus = .approved ∧
      (row.executionState ∈ [.apiAccepted, .sequencerPending, .ambiguous] ∨
        row.executionState.progressesTo input.state) ∧
      row.clientOrderIndex ≠ none)
    { row with
      executionState := input.state.executionState
      providerOutcomeSource := some input.source
      providerOrderId := providerOrderId
      providerOrderStatus := providerOrderStatus
      providerOutcomeJson := some providerOutcomeJson
      providerOutcomeCheckedAt := some time.now
      updatedAt := time.now }

inductive StreamOutcomeSource where
  | activeOrder
  | inactiveOrder
  | accountTrade
  deriving DecidableEq

def StreamOutcomeSource.source : StreamOutcomeSource → ProviderOutcomeSource
  | .activeOrder => .activeOrder
  | .inactiveOrder => .inactiveOrder
  | .accountTrade => .accountTrade

/-- `MarkLighterOrderStreamOutcomeInput`. -/
structure StreamOutcomeInput where
  intentId : JsString
  environment : Environment
  state : ProviderOutcomeState
  source : StreamOutcomeSource
  providerOrderId : JsString
  providerOrderStatus : JsString
  providerOutcomeJson : JsString

/-- `LIGHTER_ORDER_UNRESOLVED_EXECUTION_STATES`. -/
def unresolvedStates : List ExecutionState :=
  [.signed, .submitted, .apiAccepted, .sequencerPending, .ambiguous]

/-- `LIGHTER_ORDER_STREAM_WATCHABLE_STATES`. -/
def streamWatchableStates : List ExecutionState :=
  unresolvedStates ++ [.open_, .partiallyFilled]

def markStreamOutcome (time : StatementTime) (input : StreamOutcomeInput) (row : Row) :
    Except String (Option Row) := do
  let providerOrderId ← Params.requiredSafeId repository input.providerOrderId "providerOrderId"
  let providerOrderStatus ←
    Params.requiredSafeText repository input.providerOrderStatus "providerOrderStatus"
  let providerOutcomeJson ← assertProviderOutcomeJson input.providerOutcomeJson
  updateWhere (row.intentId = input.intentId ∧ row.environment = input.environment ∧
      row.approvalStatus = .approved ∧ row.clientOrderIndex ≠ none ∧
      (row.executionState ∈ unresolvedStates ∨ row.executionState.progressesTo input.state))
    { row with
      executionState := input.state.executionState
      providerOutcomeSource := some input.source.source
      providerOrderId := some providerOrderId
      providerOrderStatus := some providerOrderStatus
      providerOutcomeJson := some providerOutcomeJson
      providerOutcomeCheckedAt := some time.now
      updatedAt := time.now }

/-- `MarkLighterOrderEvidenceConflictInput`. -/
structure EvidenceConflictInput where
  intentId : JsString
  environment : Environment
  reason : JsString
  deriving DecidableEq

def markEvidenceConflict (time : StatementTime) (input : EvidenceConflictInput) (row : Row) :
    Except String (Option Row) := do
  let reason ← Params.requiredSafeText repository input.reason "reason"
  updateWhere (row.intentId = input.intentId ∧ row.environment = input.environment ∧
      row.approvalStatus = .approved ∧ row.clientOrderIndex ≠ none ∧
      row.executionState ∈ streamWatchableStates)
    { row with
      executionState := .ambiguous
      ambiguousReason := some reason
      ambiguousAt := row.ambiguousAt <|> some time.now
      updatedAt := time.now }

/-- `MarkLighterOrderAmbiguousInput`. -/
structure AmbiguousInput where
  intentId : JsString
  sessionId : JsString
  environment : Environment
  reason : JsString

def markAmbiguous (time : StatementTime) (input : AmbiguousInput) (row : Row) :
    Except String (Option Row) := do
  let reason ← Params.requiredSafeText repository input.reason "reason"
  updateWhere (row.intentId = input.intentId ∧ row.sessionId = input.sessionId ∧
      row.environment = input.environment ∧ row.approvalStatus = .approved ∧
      (row.executionState ∈ [.signed, .submitted, .apiAccepted, .sequencerPending] ∨
        (row.executionState = .approvalPending ∧ row.nonceReservationId ≠ none ∧
          row.nonceValue ≠ none)) ∧
      row.ambiguousAt = none)
    { row with
      executionState := .ambiguous
      ambiguousReason := some reason
      ambiguousAt := some time.now
      updatedAt := time.now }

/-- `MarkLighterOrderRepairResolvedInput`. -/
structure RepairResolvedInput where
  intentId : JsString
  environment : Environment
  state : ProviderOutcomeState
  source : ProviderOutcomeSource
  providerOrderId : Option JsString
  providerOrderStatus : Option JsString
  providerOutcomeJson : JsString

def markRepairResolved (time : StatementTime) (input : RepairResolvedInput) (row : Row) :
    Except String (Option Row) :=
  updateWhere (row.intentId = input.intentId ∧ row.environment = input.environment ∧
      row.approvalStatus = .approved ∧
      (row.executionState ∈ unresolvedStates ∨ row.executionState.progressesTo input.state))
    { row with
      executionState := input.state.executionState
      providerOutcomeSource := some input.source
      providerOrderId := input.providerOrderId
      providerOrderStatus := input.providerOrderStatus
      providerOutcomeJson := some input.providerOutcomeJson
      providerOutcomeCheckedAt := some time.now
      updatedAt := time.now }

/-- The input of `markSendAttemptStarted`. -/
structure SendAttemptInput where
  intentId : JsString
  sessionId : JsString
  signerTxHash : JsString
  deriving DecidableEq

def markSendAttemptStarted (time : StatementTime) (input : SendAttemptInput) (row : Row) :
    Except String (Option Row) :=
  updateWhere (row.intentId = input.intentId ∧ row.sessionId = input.sessionId ∧
      row.approvalStatus = .approved ∧ row.executionState = .submitted ∧
      row.signerTxHash = some input.signerTxHash ∧ row.sendAttemptStartedAt = none ∧
      row.expiresAt > time.clockTimestamp)
    { row with
      sendAttemptStartedAt := some time.clockTimestamp
      updatedAt := time.clockTimestamp }

/-- The input of `markExpiredUnsubmitted`. -/
structure ExpiredUnsubmittedInput where
  intentId : JsString
  sessionId : JsString
  reservationId : JsString
  signerTxHash : JsString
  reason : JsString

/-- The part of `markExpiredUnsubmitted` that updates the intent. -/
def markExpiredUnsubmitted (time : StatementTime) (input : ExpiredUnsubmittedInput)
    (row : Row) : Except String (Option Row) :=
  updateWhere (row.intentId = input.intentId ∧ row.sessionId = input.sessionId ∧
      row.approvalStatus = .approved ∧ row.nonceReservationId = some input.reservationId ∧
      row.signerTxHash = some input.signerTxHash ∧
      (row.executionState = .signed ∨ row.executionState = .submitted) ∧
      row.sendAttemptStartedAt = none)
    { row with
      executionState := .expiredUnsubmitted
      ambiguousReason := some input.reason
      updatedAt := time.clockTimestamp }

/-- The input of `markUnsubmittedRefused`. -/
structure UnsubmittedRefusedInput where
  intentId : JsString
  sessionId : JsString
  reservationId : JsString
  reason : JsString

/-- The part of `markUnsubmittedRefused` that updates the intent. -/
def markUnsubmittedRefused (time : StatementTime) (input : UnsubmittedRefusedInput)
    (row : Row) : Except String (Option Row) :=
  updateWhere (row.intentId = input.intentId ∧ row.sessionId = input.sessionId ∧
      row.approvalStatus = .approved ∧ row.nonceReservationId = some input.reservationId ∧
      row.signerTxHash = none ∧ row.executionState = .approvalPending ∧
      row.sendAttemptStartedAt = none)
    { row with
      executionState := .rejected
      ambiguousReason := some input.reason
      updatedAt := time.clockTimestamp }

/-! ## One row under every statement -/

inductive Transition where
  | approvalDecision (input : ApprovalDecisionInput)
  | preSubmitRevalidated (input : PreSubmitRevalidatedInput)
  | attachNonceReservation (input : AttachNonceReservationInput)
  | signed (input : SignedInput)
  | submitted (input : SubmittedInput)
  | apiAccepted (input : ApiAcceptedInput)
  | sequencerPending (input : SequencerPendingInput)
  | providerOutcome (input : ProviderOutcomeInput)
  | streamOutcome (input : StreamOutcomeInput)
  | evidenceConflict (input : EvidenceConflictInput)
  | ambiguous (input : AmbiguousInput)
  | repairResolved (input : RepairResolvedInput)
  | sendAttemptStarted (input : SendAttemptInput)
  | expiredUnsubmitted (input : ExpiredUnsubmittedInput)
  | unsubmittedRefused (input : UnsubmittedRefusedInput)

def Transition.update (time : StatementTime) (row : Row) : Transition → Except String (Option Row)
  | .approvalDecision input => markApprovalDecision time input row
  | .preSubmitRevalidated input => markPreSubmitRevalidated time input row
  | .attachNonceReservation input => OrderIntents.attachNonceReservation time input row
  | .signed input => markSigned time input row
  | .submitted input => markSubmitted time input row
  | .apiAccepted input => markApiAccepted time input row
  | .sequencerPending input => markSequencerPending time input row
  | .providerOutcome input => markProviderOutcome time input row
  | .streamOutcome input => markStreamOutcome time input row
  | .evidenceConflict input => markEvidenceConflict time input row
  | .ambiguous input => markAmbiguous time input row
  | .repairResolved input => markRepairResolved time input row
  | .sendAttemptStarted input => markSendAttemptStarted time input row
  | .expiredUnsubmitted input => markExpiredUnsubmitted time input row
  | .unsubmittedRefused input => markUnsubmittedRefused time input row

end Vex.Lighter.OrderIntents
