import Vex.Lighter.Basic

/-!
# Order lifecycle intents

The rows of `lighter_order_lifecycle_intents` and the guarded updates that move
them. One row is the durable record of one approved action on orders that exist
already: cancel one, modify, cancel all, close a position.

Unlike a create intent, the execution state of a lifecycle intent follows the
approval, so it is `approved` before it is revalidated and `nonce_reserved`
before it is signed. The requested values, the snapshot of the provider and the
credential reference are left out: no statement below reads them.
-/

namespace Vex.Lighter.LifecycleIntents

open Vex.Library

/-- `LighterOrderLifecycleAction`. -/
inductive Action where
  | cancelOne
  | modify
  | cancelAll
  | closePosition
  deriving DecidableEq

/-- `LighterOrderLifecycleState`. -/
inductive ExecutionState where
  | expiredUnsubmitted
  | approvalPending
  | approved
  | preSubmitRevalidated
  | nonceReserved
  | signed
  | submissionStaged
  | apiAccepted
  | sequencerPending
  | completed
  | rejected
  | expired
  | ambiguous
  deriving DecidableEq

def ExecutionState.text : ExecutionState → String
  | .expiredUnsubmitted => "expired_unsubmitted"
  | .approvalPending => "approval_pending"
  | .approved => "approved"
  | .preSubmitRevalidated => "pre_submit_revalidated"
  | .nonceReserved => "nonce_reserved"
  | .signed => "signed"
  | .submissionStaged => "submission_staged"
  | .apiAccepted => "api_accepted"
  | .sequencerPending => "sequencer_pending"
  | .completed => "completed"
  | .rejected => "rejected"
  | .expired => "expired"
  | .ambiguous => "ambiguous"

/-- The outcomes the provider's evidence is recorded as. -/
inductive OutcomeState where
  | sequencerPending
  | completed
  | rejected
  deriving DecidableEq

def OutcomeState.executionState : OutcomeState → ExecutionState
  | .sequencerPending => .sequencerPending
  | .completed => .completed
  | .rejected => .rejected

def decisionState : Decision → ExecutionState
  | .approved => .approved
  | .rejected => .rejected
  | .expired => .expired

/-- The revalidation evidence with the time of signing that is merged into it. -/
structure Revalidation where
  evidence : JsString
  signedAt : Option Instant
  deriving DecidableEq

/-- `LighterOrderLifecycleIntentRow`. Decimal strings are the numbers they
denote, and JSON columns are their texts. -/
structure Row where
  intentId : JsString
  sessionId : JsString
  matchHash : JsString
  environment : Environment
  accountIndex : Nat
  apiKeyIndex : Nat
  actionType : Action
  marketIndex : Option Nat
  providerOrderId : Option JsString
  approvalId : Option JsString
  approvalStatus : ApprovalStatus
  executionState : ExecutionState
  decisionReason : Option JsString
  decidedAt : Option Instant
  preSubmitRevalidationJson : Option Revalidation
  preSubmitRevalidatedAt : Option Instant
  nonceReservationId : Option JsString
  nonceValue : Option Nat
  signerExpiryMs : Option Int
  signerTxHash : Option JsString
  submittedTxHash : Option JsString
  submitCode : Option Int
  submitMessage : Option JsString
  predictedExecutionTimeMs : Option Int
  volumeQuotaRemaining : Option JsString
  providerOutcomeJson : Option JsString
  providerOutcomeCheckedAt : Option Instant
  ambiguousReason : Option JsString
  sendAttemptStartedAt : Option Instant
  updatedAt : Instant
  expiresAt : Instant

/-- The name the error texts of the repository start with. -/
def repository : String := "lighter_order_lifecycle_intents"

/-! ## Before submission -/

/-- No nonce, signature, submission or outcome is on record. -/
def Row.withoutSubmissionEvidence (row : Row) : Prop :=
  row.nonceReservationId = none ∧ row.nonceValue = none ∧ row.signerExpiryMs = none ∧
    row.signerTxHash = none ∧ row.submittedTxHash = none ∧ row.submitCode = none ∧
    row.submitMessage = none ∧ row.predictedExecutionTimeMs = none ∧
    row.volumeQuotaRemaining = none ∧ row.providerOutcomeJson = none ∧
    row.providerOutcomeCheckedAt = none ∧ row.ambiguousReason = none

instance (row : Row) : Decidable row.withoutSubmissionEvidence :=
  inferInstanceAs (Decidable (_ ∧ _))

/-- The input of `expireStalePreSubmitWith`. -/
structure ExpireStaleInput where
  intentId : JsString
  sessionId : JsString
  matchHash : JsString
  environment : Environment
  accountIndex : Nat
  actionType : Action
  marketIndex : Option Nat
  providerOrderId : Option JsString

def expiredBeforeApproval : JsString :=
  "Prepared Lighter lifecycle action expired before approval or submission."

def expireStalePreSubmitWith (time : StatementTime) (input : ExpireStaleInput) (row : Row) :
    Except String (Option Row) :=
  updateWhere (row.intentId = input.intentId ∧ row.sessionId = input.sessionId ∧
      row.matchHash = input.matchHash ∧ row.environment = input.environment ∧
      row.accountIndex = input.accountIndex ∧ row.actionType = input.actionType ∧
      row.marketIndex = input.marketIndex ∧ row.providerOrderId = input.providerOrderId ∧
      row.expiresAt ≤ time.now ∧
      ((row.approvalStatus = .approvalPending ∧ row.executionState = .approvalPending ∧
          row.approvalId = none ∧ row.decidedAt = none ∧
          row.preSubmitRevalidationJson = none ∧ row.preSubmitRevalidatedAt = none) ∨
        (row.approvalStatus = .approved ∧ row.approvalId ≠ none ∧ row.decidedAt ≠ none ∧
          ((row.executionState = .approved ∧ row.preSubmitRevalidationJson = none ∧
              row.preSubmitRevalidatedAt = none) ∨
            (row.executionState = .preSubmitRevalidated ∧
              row.preSubmitRevalidationJson ≠ none ∧ row.preSubmitRevalidatedAt ≠ none)))) ∧
      row.withoutSubmissionEvidence)
    { row with
      approvalStatus :=
        if row.approvalStatus = .approvalPending then .expired else row.approvalStatus
      executionState := .expired
      decisionReason :=
        if row.approvalStatus = .approvalPending then some expiredBeforeApproval
        else row.decisionReason
      decidedAt := row.decidedAt <|> some time.now
      updatedAt := time.now }

/-- The evidence of a position that changed before its close was submitted. -/
def positionChanged : JsString :=
  "\x7b\"kind\":\"lighter_close_position_changed_before_submission\"," ++
    "\"transactionSubmitted\":false\x7d"

def markClosePositionChangedBeforeSubmissionWith (time : StatementTime)
    (intentId sessionId : JsString) (row : Row) : Except String (Option Row) :=
  updateWhere
    (row.intentId = intentId ∧ row.sessionId = sessionId ∧ row.actionType = .closePosition ∧
      row.approvalStatus = .approved ∧ row.executionState = .approved ∧
      row.preSubmitRevalidationJson = none ∧ row.preSubmitRevalidatedAt = none ∧
      row.withoutSubmissionEvidence)
    { row with
      executionState := .rejected
      providerOutcomeJson := some positionChanged
      providerOutcomeCheckedAt := some time.now
      updatedAt := time.now }

/-- The input of `markApprovalDecision`. -/
structure ApprovalDecisionInput where
  intentId : JsString
  decision : Decision
  approvalId : Option JsString
  reason : JsString

def markApprovalDecision (time : StatementTime) (input : ApprovalDecisionInput) (row : Row) :
    Except String (Option Row) :=
  updateWhere (row.intentId = input.intentId ∧ row.approvalStatus = .approvalPending ∧
      row.executionState = .approvalPending)
    { row with
      approvalStatus := input.decision.status
      approvalId := input.approvalId
      decisionReason := some input.reason
      decidedAt := some time.now
      executionState := decisionState input.decision
      updatedAt := time.now }

/-- The input of `markPreSubmitRevalidated`. -/
structure PreSubmitRevalidatedInput where
  intentId : JsString
  sessionId : JsString
  evidence : JsString
  deriving DecidableEq

def markPreSubmitRevalidated (time : StatementTime) (input : PreSubmitRevalidatedInput)
    (row : Row) : Except String (Option Row) :=
  updateWhere (row.intentId = input.intentId ∧ row.sessionId = input.sessionId ∧
      row.approvalStatus = .approved ∧ row.executionState = .approved ∧
      row.nonceReservationId = none)
    { row with
      executionState := .preSubmitRevalidated
      preSubmitRevalidationJson := some ⟨input.evidence, none⟩
      preSubmitRevalidatedAt := some time.now
      updatedAt := time.now }

/-! ## Reservation, signing, submission -/

/-- The input of `attachNonceReservation`. -/
structure AttachNonceReservationInput where
  intentId : JsString
  sessionId : JsString
  reservationId : JsString
  nonceValue : JsString

/-- `requireDecimal` with zero allowed. -/
def requireDecimal (field : String) (value : JsString) : Except String Nat :=
  if value.isCanonicalDecimal then .ok value.decimalValue
  else .error (repository ++ ": invalid " ++ field)

def attachNonceReservation (time : StatementTime) (input : AttachNonceReservationInput)
    (row : Row) : Except String (Option Row) := do
  let nonceValue ← requireDecimal "nonceValue" input.nonceValue
  updateWhere (row.intentId = input.intentId ∧ row.sessionId = input.sessionId ∧
      row.approvalStatus = .approved ∧ row.executionState = .preSubmitRevalidated ∧
      row.nonceReservationId = none ∧ row.nonceValue = none)
    { row with
      executionState := .nonceReserved
      nonceReservationId := some input.reservationId
      nonceValue := some nonceValue
      updatedAt := time.now }

/-- The input of `markSigned`. -/
structure SignedInput where
  intentId : JsString
  sessionId : JsString
  reservationId : JsString
  signerTxHash : JsString
  signerExpiryMs : Option Int

def markSigned (time : StatementTime) (input : SignedInput) (row : Row) :
    Except String (Option Row) :=
  updateWhere (row.intentId = input.intentId ∧ row.sessionId = input.sessionId ∧
      row.executionState = .nonceReserved ∧
      row.nonceReservationId = some input.reservationId ∧ row.signerTxHash = none)
    { row with
      preSubmitRevalidationJson := some { row.preSubmitRevalidationJson.getD ⟨"\x7b\x7d", none⟩ with
          signedAt := some time.clockTimestamp }
      executionState := .signed
      signerTxHash := some input.signerTxHash
      signerExpiryMs := input.signerExpiryMs
      updatedAt := time.now }

/-- The input of `markSubmissionStaged` and of `markSendAttemptStarted`. -/
structure SubmissionInput where
  intentId : JsString
  sessionId : JsString
  signerTxHash : JsString
  deriving DecidableEq

def markSubmissionStaged (time : StatementTime) (input : SubmissionInput) (row : Row) :
    Except String (Option Row) :=
  updateWhere (row.intentId = input.intentId ∧ row.sessionId = input.sessionId ∧
      row.executionState = .signed ∧ row.signerTxHash = some input.signerTxHash ∧
      row.expiresAt > time.clockTimestamp)
    { row with
      executionState := .submissionStaged
      updatedAt := time.now }

/-- The input of `markApiAccepted`. -/
structure ApiAcceptedInput where
  intentId : JsString
  sessionId : JsString
  signerTxHash : JsString
  submittedTxHash : JsString
  submitCode : Int
  submitMessage : Option JsString
  predictedExecutionTimeMs : Int
  volumeQuotaRemaining : Option JsString

def markApiAccepted (time : StatementTime) (input : ApiAcceptedInput) (row : Row) :
    Except String (Option Row) :=
  updateWhere (row.intentId = input.intentId ∧ row.sessionId = input.sessionId ∧
      row.executionState = .submissionStaged ∧ row.signerTxHash = some input.signerTxHash ∧
      row.submittedTxHash = none)
    { row with
      executionState := .apiAccepted
      submittedTxHash := some input.submittedTxHash
      submitCode := some input.submitCode
      submitMessage := input.submitMessage
      predictedExecutionTimeMs := some input.predictedExecutionTimeMs
      volumeQuotaRemaining := input.volumeQuotaRemaining
      updatedAt := time.now }

/-! ## Outcomes -/

/-- The input of `markProviderOutcome`. -/
structure ProviderOutcomeInput where
  intentId : JsString
  state : OutcomeState
  evidence : JsString
  deriving DecidableEq

def markProviderOutcome (time : StatementTime) (input : ProviderOutcomeInput) (row : Row) :
    Except String (Option Row) :=
  updateWhere (row.intentId = input.intentId ∧
      row.executionState ∈ [.apiAccepted, .sequencerPending, .ambiguous])
    { row with
      executionState := input.state.executionState
      providerOutcomeJson := some input.evidence
      providerOutcomeCheckedAt := some time.now
      updatedAt := time.now }

/-- The input of `markAmbiguous`. -/
structure AmbiguousInput where
  intentId : JsString
  reason : JsString
  deriving DecidableEq

def markAmbiguous (time : StatementTime) (input : AmbiguousInput) (row : Row) :
    Except String (Option Row) :=
  updateWhere (row.intentId = input.intentId ∧ row.executionState ∈
      [.nonceReserved, .signed, .submissionStaged, .apiAccepted, .sequencerPending])
    { row with
      executionState := .ambiguous
      ambiguousReason := some input.reason
      updatedAt := time.now }

/-- The input of `markStreamEvidence`. -/
structure StreamEvidenceInput where
  intentId : JsString
  environment : Environment
  accountIndex : Nat
  state : OutcomeState
  evidence : JsString

def markStreamEvidence (time : StatementTime) (input : StreamEvidenceInput) (row : Row) :
    Except String (Option Row) :=
  if input.evidence.byteLength > 64 * 1024 then
    .error (repository ++ ": stream evidence is too large")
  else
    updateWhere (row.intentId = input.intentId ∧ row.environment = input.environment ∧
        row.accountIndex = input.accountIndex ∧ row.approvalStatus = .approved ∧
        row.executionState ∈
          [.signed, .submissionStaged, .apiAccepted, .sequencerPending, .ambiguous])
      { row with
        executionState := input.state.executionState
        providerOutcomeJson := some input.evidence
        providerOutcomeCheckedAt := some time.now
        updatedAt := time.now }

/-! ## The send attempt and the outcomes without one -/

def markSendAttemptStarted (time : StatementTime) (input : SubmissionInput) (row : Row) :
    Except String (Option Row) :=
  updateWhere (row.intentId = input.intentId ∧ row.sessionId = input.sessionId ∧
      row.approvalStatus = .approved ∧ row.executionState = .submissionStaged ∧
      row.signerTxHash = some input.signerTxHash ∧ row.sendAttemptStartedAt = none ∧
      row.expiresAt > time.clockTimestamp)
    { row with
      sendAttemptStartedAt := some time.clockTimestamp
      updatedAt := time.clockTimestamp }

/-- The input of `markExpiredUnsubmitted`. -/
structure ExpiredUnsubmittedInput where
  intentId : JsString
  sessionId : JsString
  reservationId : JsString
  signerTxHash : JsString
  reason : JsString

/-- The part of `markExpiredUnsubmitted` that updates the intent. -/
def markExpiredUnsubmitted (time : StatementTime) (input : ExpiredUnsubmittedInput)
    (row : Row) : Except String (Option Row) :=
  updateWhere (row.intentId = input.intentId ∧ row.sessionId = input.sessionId ∧
      row.approvalStatus = .approved ∧ row.nonceReservationId = some input.reservationId ∧
      row.signerTxHash = some input.signerTxHash ∧
      (row.executionState = .signed ∨ row.executionState = .submissionStaged) ∧
      row.sendAttemptStartedAt = none)
    { row with
      executionState := .expiredUnsubmitted
      ambiguousReason := some input.reason
      updatedAt := time.clockTimestamp }

/-- The input of `markUnsubmittedRefused`. -/
structure UnsubmittedRefusedInput where
  intentId : JsString
  sessionId : JsString
  reservationId : JsString
  reason : JsString

/-- The part of `markUnsubmittedRefused` that updates the intent. -/
def markUnsubmittedRefused (time : StatementTime) (input : UnsubmittedRefusedInput)
    (row : Row) : Except String (Option Row) :=
  updateWhere (row.intentId = input.intentId ∧ row.sessionId = input.sessionId ∧
      row.approvalStatus = .approved ∧ row.nonceReservationId = some input.reservationId ∧
      row.signerTxHash = none ∧ row.executionState = .nonceReserved ∧
      row.sendAttemptStartedAt = none)
    { row with
      executionState := .rejected
      ambiguousReason := some input.reason
      updatedAt := time.clockTimestamp }

end Vex.Lighter.LifecycleIntents
