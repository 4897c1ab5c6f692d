import Vex.Library.Population
import Vex.Lighter.Basic

/-!
# Withdrawal intents

The rows of `lighter_withdrawal_intents` and the guarded updates that move them:
those of their own repository, and those that the repository of manual claims
makes to the withdrawal a claim belongs to. The claim's own row is moved in the
same transaction, which is rolled back where the withdrawal does not match, so
whether that row matched is given with the call.

Statements are given parameters that passed their checks. Columns that no
statement reads or writes after the insert are left out.
-/

namespace Vex.Lighter.WithdrawalIntents

open Vex.Library

/-- `LighterWithdrawalExecutionState`. -/
inductive ExecutionState where
  | expiredUnsubmitted
  | approvalPending
  | approved
  | nonceReserved
  | signed
  | submissionStaged
  | apiAccepted
  | l2Pending
  | l2Executed
  | secureWaiting
  | claimable
  | autoClaimObserved
  | manualClaimPrepared
  | manualClaimApproved
  | manualClaimStaged
  | manualClaimSubmitted
  | destinationConfirmed
  | rejected
  | failed
  | refunded
  | expired
  | ambiguous
  deriving DecidableEq

def decisionState : Decision → ExecutionState
  | .approved => .approved
  | .rejected => .rejected
  | .expired => .expired

inductive ReconciledState where
  | l2Pending
  | l2Executed
  | secureWaiting
  | claimable
  | autoClaimObserved
  | manualClaimPrepared
  | manualClaimApproved
  | manualClaimSubmitted
  | destinationConfirmed
  | failed
  | refunded
  | ambiguous
  deriving DecidableEq

def ReconciledState.executionState : ReconciledState → ExecutionState
  | .l2Pending => .l2Pending
  | .l2Executed => .l2Executed
  | .secureWaiting => .secureWaiting
  | .claimable => .claimable
  | .autoClaimObserved => .autoClaimObserved
  | .manualClaimPrepared => .manualClaimPrepared
  | .manualClaimApproved => .manualClaimApproved
  | .manualClaimSubmitted => .manualClaimSubmitted
  | .destinationConfirmed => .destinationConfirmed
  | .failed => .failed
  | .refunded => .refunded
  | .ambiguous => .ambiguous

/-- How the funds of a withdrawal reach the wallet. -/
inductive ClaimMode where
  | auto
  | manual
  | legacy
  deriving DecidableEq

/-- What a manual claim binds of the withdrawal. -/
structure Terms where
  settlementChainId : Nat
  settlementNetworkName : JsString
  assetSymbol : JsString
  walletAddress : JsString
  destinationAddress : JsString
  gatewayAddress : JsString
  gatewayCodeHash : JsString
  settlementTokenAddress : JsString
  settlementTokenCodeHash : JsString
  amountUnits : Nat

/-- `LighterWithdrawalIntentRow`. -/
structure Row where
  intentId : JsString
  sessionId : JsString
  environment : Environment
  accountIndex : Nat
  apiKeyIndex : Nat
  terms : Terms
  protocolExecutionId : Option Nat
  approvalId : Option JsString
  approvalStatus : ApprovalStatus
  executionState : ExecutionState
  decisionReason : Option JsString
  decidedAt : Option Instant
  preSubmitRevalidationJson : Option JsString
  preSubmitRevalidatedAt : Option Instant
  nonceReservationId : Option JsString
  nonceValue : Option Nat
  signerTxHash : Option JsString
  signerExpiryMs : Option Nat
  signedAt : Option Instant
  submissionStagedAt : Option Instant
  sendAttemptStartedAt : Option Instant
  submittedTxHash : Option JsString
  submitCode : Option Nat
  submitMessage : Option JsString
  predictedExecutionTimeMs : Option Nat
  volumeQuotaRemaining : Option Nat
  settlementScanFromBlock : Option Nat
  apiAcceptedAt : Option Instant
  providerTxStatus : Option Nat
  providerTxEvidenceJson : Option JsString
  withdrawalHistoryId : Option JsString
  withdrawalHistoryStatus : Option JsString
  withdrawalHistoryTimestamp : Option Nat
  withdrawalHistoryJson : Option JsString
  pendingBalanceUnits : Option Nat
  ambiguousReason : Option JsString
  claimMode : Option ClaimMode
  claimApprovalId : Option JsString
  claimTxHash : Option JsString
  claimReplacementTxHash : Option JsString
  destinationTxHash : Option JsString
  destinationBlockNumber : Option Nat
  destinationBlockHash : Option JsString
  destinationConfirmations : Option Nat
  destinationEvidenceJson : Option JsString
  l2ExecutedAt : Option Instant
  claimableAt : Option Instant
  destinationConfirmedAt : Option Instant
  lastCheckedAt : Option Instant
  updatedAt : Instant
  expiresAt : Instant

structure CreateInput where
  intentId : JsString
  sessionId : JsString
  environment : Environment
  accountIndex : Nat
  apiKeyIndex : Nat
  terms : Terms
  protocolExecutionId : Option Nat
  expiresAt : Instant

/-- The row `createOrFindLiveApprovalPendingWith` inserts, with the defaults of the table. -/
def createApprovalPending (time : StatementTime) (input : CreateInput) : Row where
  intentId := input.intentId
  sessionId := input.sessionId
  environment := input.environment
  accountIndex := input.accountIndex
  apiKeyIndex := input.apiKeyIndex
  terms := input.terms
  protocolExecutionId := input.protocolExecutionId
  approvalId := none
  approvalStatus := .approvalPending
  executionState := .approvalPending
  decisionReason := none
  decidedAt := none
  preSubmitRevalidationJson := none
  preSubmitRevalidatedAt := none
  nonceReservationId := none
  nonceValue := none
  signerTxHash := none
  signerExpiryMs := none
  signedAt := none
  submissionStagedAt := none
  sendAttemptStartedAt := none
  submittedTxHash := none
  submitCode := none
  submitMessage := none
  predictedExecutionTimeMs := none
  volumeQuotaRemaining := none
  settlementScanFromBlock := none
  apiAcceptedAt := none
  providerTxStatus := none
  providerTxEvidenceJson := none
  withdrawalHistoryId := none
  withdrawalHistoryStatus := none
  withdrawalHistoryTimestamp := none
  withdrawalHistoryJson := none
  pendingBalanceUnits := none
  ambiguousReason := none
  claimMode := none
  claimApprovalId := none
  claimTxHash := none
  claimReplacementTxHash := none
  destinationTxHash := none
  destinationBlockNumber := none
  destinationBlockHash := none
  destinationConfirmations := none
  destinationEvidenceJson := none
  l2ExecutedAt := none
  claimableAt := none
  destinationConfirmedAt := none
  lastCheckedAt := none
  updatedAt := time.now
  expiresAt := input.expiresAt

/-! ## Before the submission -/

/-- The columns that a row has never had anything in before its approval was dispatched. -/
def Row.untouched (row : Row) : Prop :=
  (row.protocolExecutionId = none ∧ row.approvalId = none ∧ row.decisionReason = none
    ∧ row.decidedAt = none ∧ row.preSubmitRevalidationJson = none
    ∧ row.preSubmitRevalidatedAt = none ∧ row.nonceReservationId = none ∧ row.nonceValue = none)
  ∧ (row.signerTxHash = none ∧ row.signerExpiryMs = none ∧ row.signedAt = none
    ∧ row.submissionStagedAt = none ∧ row.submittedTxHash = none ∧ row.submitCode = none
    ∧ row.submitMessage = none ∧ row.predictedExecutionTimeMs = none
    ∧ row.volumeQuotaRemaining = none ∧ row.apiAcceptedAt = none)
  ∧ (row.providerTxStatus = none ∧ row.providerTxEvidenceJson = none
    ∧ row.withdrawalHistoryId = none ∧ row.withdrawalHistoryStatus = none
    ∧ row.withdrawalHistoryJson = none ∧ row.ambiguousReason = none)
  ∧ (row.claimMode = none ∧ row.claimApprovalId = none ∧ row.claimTxHash = none
    ∧ row.claimReplacementTxHash = none ∧ row.destinationTxHash = none
    ∧ row.destinationBlockNumber = none ∧ row.destinationBlockHash = none
    ∧ row.destinationConfirmations = none ∧ row.destinationEvidenceJson = none)
  ∧ (row.l2ExecutedAt = none ∧ row.claimableAt = none ∧ row.destinationConfirmedAt = none
    ∧ row.lastCheckedAt = none ∧ row.settlementScanFromBlock = none
    ∧ row.withdrawalHistoryTimestamp = none)

instance (row : Row) : Decidable row.untouched := by
  unfold Row.untouched
  infer_instance

/-- What a guarded update gives: the row it wrote, none where it missed. -/
abbrev Cas := Option Row

/-- One `UPDATE … WHERE … RETURNING`. -/
def casRow (guard : Prop) [Decidable guard] (written : Row) : Cas :=
  if guard then some written else none

theorem casRow_eq_some {guard : Prop} [Decidable guard] {written row : Row} :
    casRow guard written = some row ↔ guard ∧ written = row := by
  unfold casRow
  split_ifs with matched
  · simp [matched]
  · simp [matched]

section Statements

variable (time : StatementTime) (intentId sessionId : JsString) (row : Row)

/-- The reason of `expireStaleApprovalPendingWith`. -/
def expiredBeforeDispatch : JsString :=
  JsString.ofString "prepared withdrawal expired before approval dispatch"

def expireStaleApprovalPendingWith (environment : Environment) (accountIndex : Nat) : Cas :=
  casRow (row.intentId = intentId ∧ row.sessionId = sessionId ∧ row.environment = environment
      ∧ row.accountIndex = accountIndex ∧ row.approvalStatus = .approvalPending
      ∧ row.executionState = .approvalPending ∧ row.expiresAt ≤ time.now ∧ row.untouched)
    { row with
      approvalStatus := .expired
      executionState := .expired
      decisionReason := some expiredBeforeDispatch
      decidedAt := some time.now
      updatedAt := time.now }

def markApprovalDecision (approvalId : Option JsString) (decision : Decision) (reason : JsString) :
    Cas :=
  casRow (row.intentId = intentId ∧ row.sessionId = sessionId
      ∧ row.approvalStatus = .approvalPending ∧ row.executionState = .approvalPending)
    { row with
      approvalStatus := decision.status
      executionState := decisionState decision
      approvalId := approvalId
      decisionReason := some reason
      decidedAt := some time.now
      updatedAt := time.now }

def markPreSubmitRevalidated (evidence : JsString) : Cas :=
  casRow (row.intentId = intentId ∧ row.sessionId = sessionId ∧ row.approvalStatus = .approved
      ∧ row.executionState = .approved ∧ row.nonceReservationId = none)
    { row with
      preSubmitRevalidationJson := some evidence
      preSubmitRevalidatedAt := some time.now
      updatedAt := time.now }

def attachNonceReservationWith (accountIndex apiKeyIndex : Nat) (reservationId : JsString)
    (nonceValue : Nat) : Cas :=
  casRow (row.intentId = intentId ∧ row.sessionId = sessionId ∧ row.accountIndex = accountIndex
      ∧ row.apiKeyIndex = apiKeyIndex ∧ row.approvalStatus = .approved
      ∧ row.executionState = .approved ∧ row.preSubmitRevalidatedAt ≠ none
      ∧ row.nonceReservationId = none)
    { row with
      executionState := .nonceReserved
      nonceReservationId := some reservationId
      nonceValue := some nonceValue
      updatedAt := time.now }

def markSigned (reservationId : JsString) (nonceValue : Nat) (signerTxHash : JsString)
    (signerExpiryMs : Nat) : Cas :=
  casRow (row.intentId = intentId ∧ row.sessionId = sessionId ∧ row.executionState = .nonceReserved
      ∧ row.nonceReservationId = some reservationId ∧ row.nonceValue = some nonceValue
      ∧ row.signerTxHash = none)
    { row with
      executionState := .signed
      signerTxHash := some signerTxHash
      signerExpiryMs := some signerExpiryMs
      signedAt := some time.now
      updatedAt := time.now }

/-! ## The submission -/

def markSubmissionStaged (signerTxHash : JsString) : Cas :=
  casRow (row.intentId = intentId ∧ row.sessionId = sessionId ∧ row.executionState = .signed
      ∧ row.signerTxHash = some signerTxHash ∧ row.expiresAt > time.clockTimestamp)
    { row with
      executionState := .submissionStaged
      submissionStagedAt := some time.now
      updatedAt := time.now }

def markSendAttemptStarted (signerTxHash : JsString) : Cas :=
  casRow (row.intentId = intentId ∧ row.sessionId = sessionId ∧ row.approvalStatus = .approved
      ∧ row.executionState = .submissionStaged ∧ row.signerTxHash = some signerTxHash
      ∧ row.sendAttemptStartedAt = none ∧ row.expiresAt > time.clockTimestamp)
    { row with
      sendAttemptStartedAt := some time.clockTimestamp
      updatedAt := time.clockTimestamp }

structure ApiAcceptedInput where
  signerTxHash : JsString
  submittedTxHash : JsString
  submitCode : Nat
  submitMessage : Option JsString
  predictedExecutionTimeMs : Nat
  volumeQuotaRemaining : Option Nat
  settlementScanFromBlock : Nat

def markApiAccepted (input : ApiAcceptedInput) : Cas :=
  casRow (row.intentId = intentId ∧ row.sessionId = sessionId
      ∧ row.executionState = .submissionStaged ∧ row.signerTxHash = some input.signerTxHash
      ∧ row.submittedTxHash = none)
    { row with
      executionState := .apiAccepted
      submittedTxHash := some input.submittedTxHash
      submitCode := some input.submitCode
      submitMessage := input.submitMessage
      predictedExecutionTimeMs := some input.predictedExecutionTimeMs
      volumeQuotaRemaining := input.volumeQuotaRemaining
      settlementScanFromBlock := some input.settlementScanFromBlock
      apiAcceptedAt := some time.now
      updatedAt := time.now }

def markAmbiguous (reason : JsString) : Cas :=
  casRow (row.intentId = intentId ∧ row.sessionId = sessionId
      ∧ row.executionState ∈ [.nonceReserved, .signed, .submissionStaged, .apiAccepted, .l2Pending])
    { row with
      executionState := .ambiguous
      ambiguousReason := some reason
      lastCheckedAt := some time.now
      updatedAt := time.now }

/-- The part of `markExpiredUnsubmitted` that updates the intent. -/
def markExpiredUnsubmitted (reservationId signerTxHash reason : JsString) : Cas :=
  casRow (row.intentId = intentId ∧ row.sessionId = sessionId ∧ row.approvalStatus = .approved
      ∧ row.nonceReservationId = some reservationId ∧ row.signerTxHash = some signerTxHash
      ∧ (row.executionState = .signed ∨ row.executionState = .submissionStaged)
      ∧ row.sendAttemptStartedAt = none)
    { row with
      executionState := .expiredUnsubmitted
      ambiguousReason := some reason
      updatedAt := time.clockTimestamp }

/-- The part of `markUnsubmittedRefused` that updates the intent. -/
def markUnsubmittedRefused (reservationId reason : JsString) : Cas :=
  casRow (row.intentId = intentId ∧ row.sessionId = sessionId ∧ row.approvalStatus = .approved
      ∧ row.nonceReservationId = some reservationId ∧ row.signerTxHash = none
      ∧ row.executionState = .nonceReserved ∧ row.sendAttemptStartedAt = none)
    { row with
      executionState := .rejected
      ambiguousReason := some reason
      updatedAt := time.clockTimestamp }

/-! ## The reconciliation -/

structure RecordReconciliationInput where
  state : ReconciledState
  providerTxStatus : Option Nat
  providerTxEvidence : Option JsString
  historyId : Option JsString
  historyStatus : Option JsString
  historyTimestamp : Option Nat
  historyEvidence : Option JsString
  pendingBalanceUnits : Option Nat
  ambiguousReason : Option JsString
  claimMode : Option ClaimMode
  destinationTxHash : Option JsString
  destinationBlockNumber : Option Nat
  destinationBlockHash : Option JsString
  destinationConfirmations : Option Nat
  destinationEvidence : Option JsString
  settlementScanFromBlock : Option Nat

def reconcilableStates : List ExecutionState :=
  [.submissionStaged, .apiAccepted, .l2Pending, .l2Executed, .secureWaiting, .claimable,
    .autoClaimObserved, .manualClaimPrepared, .manualClaimApproved, .manualClaimStaged,
    .manualClaimSubmitted, .ambiguous]

/-- The states an observation may be recorded over. -/
def ReconciledState.from_ : ReconciledState → List ExecutionState
  | .ambiguous | .destinationConfirmed => reconcilableStates
  | .manualClaimPrepared => [.manualClaimPrepared]
  | .manualClaimApproved => [.manualClaimApproved]
  | .manualClaimSubmitted => [.manualClaimStaged, .manualClaimSubmitted, .ambiguous]
  | .autoClaimObserved =>
    [.submissionStaged, .apiAccepted, .l2Pending, .l2Executed, .secureWaiting, .claimable,
      .autoClaimObserved, .ambiguous]
  | .claimable =>
    [.submissionStaged, .apiAccepted, .l2Pending, .l2Executed, .secureWaiting, .claimable,
      .manualClaimStaged, .manualClaimSubmitted, .ambiguous]
  | .secureWaiting | .failed | .refunded =>
    [.submissionStaged, .apiAccepted, .l2Pending, .l2Executed, .secureWaiting, .ambiguous]
  | .l2Executed => [.submissionStaged, .apiAccepted, .l2Pending, .l2Executed, .ambiguous]
  | .l2Pending => [.submissionStaged, .apiAccepted, .l2Pending, .ambiguous]

def ReconciledState.executedOnL2 (state : ReconciledState) : Bool :=
  state ∈ [.l2Executed, .secureWaiting, .claimable, .autoClaimObserved, .destinationConfirmed]

def recordReconciliation (input : RecordReconciliationInput) : Cas :=
  casRow (row.intentId = intentId ∧ row.sessionId = sessionId
      ∧ row.executionState ∈ reconcilableStates ∧ row.executionState ∈ input.state.from_
      ∧ (row.withdrawalHistoryId = none ∨ input.historyId = none
        ∨ row.withdrawalHistoryId = input.historyId))
    { row with
      executionState := input.state.executionState
      providerTxStatus := input.providerTxStatus
      providerTxEvidenceJson := input.providerTxEvidence
      withdrawalHistoryId := row.withdrawalHistoryId <|> input.historyId
      withdrawalHistoryStatus := input.historyStatus <|> row.withdrawalHistoryStatus
      withdrawalHistoryTimestamp := input.historyTimestamp <|> row.withdrawalHistoryTimestamp
      withdrawalHistoryJson := input.historyEvidence <|> row.withdrawalHistoryJson
      pendingBalanceUnits := input.pendingBalanceUnits <|> row.pendingBalanceUnits
      ambiguousReason := input.ambiguousReason
      claimMode := input.claimMode <|> row.claimMode
      destinationTxHash := input.destinationTxHash <|> row.destinationTxHash
      destinationBlockNumber := input.destinationBlockNumber <|> row.destinationBlockNumber
      destinationBlockHash := input.destinationBlockHash <|> row.destinationBlockHash
      destinationConfirmations := input.destinationConfirmations <|> row.destinationConfirmations
      destinationEvidenceJson := input.destinationEvidence <|> row.destinationEvidenceJson
      settlementScanFromBlock := input.settlementScanFromBlock <|> row.settlementScanFromBlock
      l2ExecutedAt :=
        if input.state.executedOnL2 then row.l2ExecutedAt <|> some time.now else row.l2ExecutedAt
      claimableAt :=
        if input.state = .claimable then row.claimableAt <|> some time.now else row.claimableAt
      destinationConfirmedAt :=
        if input.state = .destinationConfirmed then row.destinationConfirmedAt <|> some time.now
        else row.destinationConfirmedAt
      lastCheckedAt := some time.now
      updatedAt := time.now }

/-! ## The manual claims -/

variable (lower : JsString → JsString)

/-- `createManualClaimAttemptWith`, on the withdrawal. -/
def prepareManualClaim (environment : Environment) (terms : Terms) : Cas :=
  casRow (row.intentId = intentId ∧ row.environment = environment
      ∧ row.terms.settlementChainId = terms.settlementChainId
      ∧ row.terms.settlementNetworkName = terms.settlementNetworkName
      ∧ row.terms.assetSymbol = terms.assetSymbol
      ∧ lower row.terms.walletAddress = lower terms.walletAddress
      ∧ lower row.terms.destinationAddress = lower terms.destinationAddress
      ∧ lower row.terms.gatewayAddress = lower terms.gatewayAddress
      ∧ lower row.terms.gatewayCodeHash = lower terms.gatewayCodeHash
      ∧ lower row.terms.settlementTokenAddress = lower terms.settlementTokenAddress
      ∧ lower row.terms.settlementTokenCodeHash = lower terms.settlementTokenCodeHash
      ∧ row.terms.amountUnits = terms.amountUnits ∧ row.executionState = .claimable
      ∧ row.pendingBalanceUnits = some terms.amountUnits ∧ row.destinationTxHash = none)
    { row with
      executionState := .manualClaimPrepared
      claimMode := some .manual
      updatedAt := time.now }

/-- `expirePreparedWith`, on the withdrawal of a claim that matched. -/
def expireManualClaim (claimMatched : Bool) : Cas :=
  casRow (row.intentId = intentId ∧ row.executionState = .manualClaimPrepared ∧ claimMatched = true)
    { row with executionState := .claimable, updatedAt := time.now }

/-- `markDecisionWith`, on the withdrawal of a claim that matched. -/
def decideManualClaim (claimMatched : Bool) (approvalId : Option JsString) (decision : Decision) :
    Cas :=
  casRow (row.intentId = intentId ∧ row.executionState = .manualClaimPrepared ∧ claimMatched = true)
    { row with
      executionState := if decision = .approved then .manualClaimApproved else .claimable
      claimApprovalId := approvalId
      updatedAt := time.now }

/-- `markUnsubmittedFailureWith`, on the withdrawal of a claim that matched. -/
def failManualClaimUnsubmitted (claimMatched : Bool) : Cas :=
  casRow (row.intentId = intentId ∧ row.executionState = .manualClaimApproved ∧ claimMatched = true)
    { row with executionState := .claimable, updatedAt := time.now }

/-- `markStagedWith`, on the withdrawal of a claim that matched. -/
def stageManualClaim (claimMatched : Bool) (txHash : JsString) : Cas :=
  casRow (row.intentId = intentId ∧ row.executionState = .manualClaimApproved ∧ claimMatched = true)
    { row with
      executionState := .manualClaimStaged
      claimTxHash := some txHash
      destinationTxHash := some txHash
      updatedAt := time.now }

/-- `markSubmittedWith`, on the withdrawal of a claim that matched. -/
def submitManualClaim (claimMatched : Bool) : Cas :=
  casRow (row.intentId = intentId
      ∧ row.executionState ∈ [.manualClaimStaged, .manualClaimSubmitted] ∧ claimMatched = true)
    { row with executionState := .manualClaimSubmitted, updatedAt := time.now }

/-- `recordReplacementWith`, on the withdrawal of a claim that matched. -/
def replaceManualClaim (claimMatched : Bool) (replacementTxHash : JsString) : Cas :=
  casRow (row.intentId = intentId
      ∧ row.executionState ∈ [.manualClaimStaged, .manualClaimSubmitted, .ambiguous]
      ∧ claimMatched = true)
    { row with
      claimReplacementTxHash := some replacementTxHash
      destinationTxHash := some replacementTxHash
      updatedAt := time.now }

inductive ClaimOutcome where
  | confirming
  | reverted
  | ambiguous
  deriving DecidableEq

def ClaimOutcome.parentState : ClaimOutcome → ExecutionState
  | .reverted => .claimable
  | .ambiguous => .ambiguous
  | .confirming => .manualClaimSubmitted

/-- `markOutcomeWith`, on the withdrawal of a claim that matched. -/
def recordManualClaimOutcome (claimMatched : Bool) (outcome : ClaimOutcome)
    (reason : Option JsString) : Cas :=
  casRow (row.intentId = intentId
      ∧ row.executionState ∈ [.manualClaimStaged, .manualClaimSubmitted, .ambiguous]
      ∧ claimMatched = true)
    { row with
      executionState := outcome.parentState
      ambiguousReason :=
        if outcome = .ambiguous then
          some (reason.getD (JsString.ofString "manual_claim_outcome_unknown"))
        else none
      updatedAt := time.now }

/-- `markExpiredUnsubmittedWith`, on the withdrawal of a claim that matched. -/
def expireManualClaimUnsubmitted (claimMatched : Bool) : Cas :=
  casRow (row.intentId = intentId ∧ row.executionState = .manualClaimStaged ∧ claimMatched = true)
    { row with executionState := .claimable, updatedAt := time.clockTimestamp }

end Statements

/-! ## One row under every statement -/

/-- A statement of the two repositories with its arguments. -/
inductive Transition where
  | expireStaleApprovalPending (environment : Environment) (accountIndex : Nat)
  | approvalDecision (approvalId : Option JsString) (decision : Decision) (reason : JsString)
  | preSubmitRevalidated (evidence : JsString)
  | attachNonceReservation (accountIndex apiKeyIndex : Nat) (reservationId : JsString)
      (nonceValue : Nat)
  | signed (reservationId : JsString) (nonceValue : Nat) (signerTxHash : JsString)
      (signerExpiryMs : Nat)
  | submissionStaged (signerTxHash : JsString)
  | sendAttemptStarted (signerTxHash : JsString)
  | apiAccepted (input : ApiAcceptedInput)
  | ambiguous (reason : JsString)
  | expiredUnsubmitted (reservationId signerTxHash reason : JsString)
  | unsubmittedRefused (reservationId reason : JsString)
  | reconciliation (input : RecordReconciliationInput)
  | prepareManualClaim (environment : Environment) (terms : Terms)
  | expireManualClaim (claimMatched : Bool)
  | decideManualClaim (claimMatched : Bool) (approvalId : Option JsString) (decision : Decision)
  | failManualClaimUnsubmitted (claimMatched : Bool)
  | stageManualClaim (claimMatched : Bool) (txHash : JsString)
  | submitManualClaim (claimMatched : Bool)
  | replaceManualClaim (claimMatched : Bool) (replacementTxHash : JsString)
  | manualClaimOutcome (claimMatched : Bool) (outcome : ClaimOutcome) (reason : Option JsString)
  | expireManualClaimUnsubmitted (claimMatched : Bool)

/-- A statement with its clock, the intent and the session it names. -/
structure Op where
  time : StatementTime
  intentId : JsString
  sessionId : JsString
  transition : Transition

variable (lower : JsString → JsString)

def applied (row : Row) (op : Op) : Cas :=
  match op.transition with
  | .expireStaleApprovalPending environment accountIndex =>
    expireStaleApprovalPendingWith op.time op.intentId op.sessionId row environment accountIndex
  | .approvalDecision approvalId decision reason =>
    markApprovalDecision op.time op.intentId op.sessionId row approvalId decision reason
  | .preSubmitRevalidated evidence =>
    markPreSubmitRevalidated op.time op.intentId op.sessionId row evidence
  | .attachNonceReservation accountIndex apiKeyIndex reservationId nonceValue =>
    attachNonceReservationWith op.time op.intentId op.sessionId row accountIndex apiKeyIndex
      reservationId nonceValue
  | .signed reservationId nonceValue signerTxHash signerExpiryMs =>
    markSigned op.time op.intentId op.sessionId row reservationId nonceValue signerTxHash
      signerExpiryMs
  | .submissionStaged signerTxHash =>
    markSubmissionStaged op.time op.intentId op.sessionId row signerTxHash
  | .sendAttemptStarted signerTxHash =>
    markSendAttemptStarted op.time op.intentId op.sessionId row signerTxHash
  | .apiAccepted input => markApiAccepted op.time op.intentId op.sessionId row input
  | .ambiguous reason => markAmbiguous op.time op.intentId op.sessionId row reason
  | .expiredUnsubmitted reservationId signerTxHash reason =>
    markExpiredUnsubmitted op.time op.intentId op.sessionId row reservationId signerTxHash reason
  | .unsubmittedRefused reservationId reason =>
    markUnsubmittedRefused op.time op.intentId op.sessionId row reservationId reason
  | .reconciliation input => recordReconciliation op.time op.intentId op.sessionId row input
  | .prepareManualClaim environment terms =>
    WithdrawalIntents.prepareManualClaim op.time op.intentId row lower environment terms
  | .expireManualClaim claimMatched =>
    WithdrawalIntents.expireManualClaim op.time op.intentId row claimMatched
  | .decideManualClaim claimMatched approvalId decision =>
    WithdrawalIntents.decideManualClaim op.time op.intentId row claimMatched approvalId decision
  | .failManualClaimUnsubmitted claimMatched =>
    WithdrawalIntents.failManualClaimUnsubmitted op.time op.intentId row claimMatched
  | .stageManualClaim claimMatched txHash =>
    WithdrawalIntents.stageManualClaim op.time op.intentId row claimMatched txHash
  | .submitManualClaim claimMatched =>
    WithdrawalIntents.submitManualClaim op.time op.intentId row claimMatched
  | .replaceManualClaim claimMatched replacementTxHash =>
    WithdrawalIntents.replaceManualClaim op.time op.intentId row claimMatched replacementTxHash
  | .manualClaimOutcome claimMatched outcome reason =>
    recordManualClaimOutcome op.time op.intentId row claimMatched outcome reason
  | .expireManualClaimUnsubmitted claimMatched =>
    WithdrawalIntents.expireManualClaimUnsubmitted op.time op.intentId row claimMatched

/-- One statement of a run: where it misses, the row stays. -/
def step : Row → Op → Row := orStay (applied lower)

/-- The state a statement writes, none where it leaves the state. -/
def Op.target (op : Op) : Option ExecutionState :=
  match op.transition with
  | .expireStaleApprovalPending _ _ => some .expired
  | .approvalDecision _ decision _ => some (decisionState decision)
  | .preSubmitRevalidated _ => none
  | .attachNonceReservation .. => some .nonceReserved
  | .signed .. => some .signed
  | .submissionStaged _ => some .submissionStaged
  | .sendAttemptStarted _ => none
  | .apiAccepted _ => some .apiAccepted
  | .ambiguous _ => some .ambiguous
  | .expiredUnsubmitted .. => some .expiredUnsubmitted
  | .unsubmittedRefused .. => some .rejected
  | .reconciliation input => some input.state.executionState
  | .prepareManualClaim _ _ => some .manualClaimPrepared
  | .expireManualClaim _ => some .claimable
  | .decideManualClaim _ _ decision =>
    some (if decision = .approved then .manualClaimApproved else .claimable)
  | .failManualClaimUnsubmitted _ => some .claimable
  | .stageManualClaim _ _ => some .manualClaimStaged
  | .submitManualClaim _ => some .manualClaimSubmitted
  | .replaceManualClaim _ _ => none
  | .manualClaimOutcome _ outcome _ => some outcome.parentState
  | .expireManualClaimUnsubmitted _ => some .claimable

theorem applied_eq_some {row row' : Row} {op : Op} (took : applied lower row op = some row') :
    row'.executionState = op.target.getD row.executionState ∧ row'.sessionId = row.sessionId
      ∧ row'.intentId = row.intentId := by
  obtain ⟨time, intentId, sessionId, transition⟩ := op
  cases transition with
  | _ =>
    obtain ⟨-, rfl⟩ := casRow_eq_some.1 took
    exact ⟨rfl, rfl, rfl⟩

theorem writesState : WritesState (applied lower) Row.executionState Op.target :=
  fun _ _ _ took => (applied_eq_some lower took).1

theorem step_sessionId (row : Row) (op : Op) : (step lower row op).sessionId = row.sessionId := by
  rcases orStay_cases (applied lower) row op with same | took
  · exact congrArg Row.sessionId same
  · exact (applied_eq_some lower took).2.1

end Vex.Lighter.WithdrawalIntents
