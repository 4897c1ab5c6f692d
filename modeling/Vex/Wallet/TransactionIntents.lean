import Vex.Wallet.Basic

/-!
# Transaction intents

The rows of `wallet_transaction_intents` and the guarded updates that move them.
An intent is prepared with the digest of its proposal, and the claim has to name
that digest.

Columns that no statement reads or writes after the insert (the payload and what
was decoded of it, the preview, the bounds on fees) are left out.
-/

namespace Vex.Wallet.TransactionIntents

open Vex.Library

inductive WalletTransactionIntentStatus where
  | pending
  | consuming
  | executed
  | failed
  | broadcastUnconfirmed
  | supersededUnproven
  | auditFailed
  | cancelled
  | expired
  deriving DecidableEq

inductive WalletTransactionFailureStage where
  | preBroadcast
  | chainReverted
  | crashedBeforeBroadcast
  deriving DecidableEq

structure WalletTransactionIntent where
  intentId : JsString
  sessionId : JsString
  proposalDigest : JsString
  status : WalletTransactionIntentStatus
  failureStage : Option WalletTransactionFailureStage
  activityId : Option Nat
  expiresAt : Instant
  consumedAt : Option Instant
  cancelledAt : Option Instant
  txHash : Option JsString
  failureReason : Option JsString

/-- The check `wallet_transaction_intents_evidence`. -/
def evidence (row : WalletTransactionIntent) : Bool :=
  match row.status with
  | .pending | .consuming | .cancelled | .expired | .auditFailed =>
    row.txHash = none ∧ row.failureStage = none
  | .executed | .broadcastUnconfirmed | .supersededUnproven =>
    row.txHash ≠ none ∧ row.failureStage = none
  | .failed => true

/-- The check `wallet_transaction_intents_failed_evidence`. -/
def failedEvidence (row : WalletTransactionIntent) : Bool :=
  row.status ≠ .failed ∨ (row.failureStage = some .chainReverted ∧ row.txHash ≠ none)
    ∨ ((row.failureStage = some .preBroadcast ∨ row.failureStage = some .crashedBeforeBroadcast)
      ∧ row.txHash = none)

/-- The checks of the table, `wallet_transaction_intents_failure_stage` among them. -/
def checks (row : WalletTransactionIntent) : Bool :=
  ((row.status = .failed ∧ row.failureStage ≠ none)
      ∨ (row.status ≠ .failed ∧ row.failureStage = none))
    ∧ evidence row = true ∧ failedEvidence row = true

/-- `createWith`: the row the insert writes, with the defaults of the table. -/
def createWith (intentId sessionId proposalDigest : JsString) (expiresAt : Instant) :
    WalletTransactionIntent where
  intentId := intentId
  sessionId := sessionId
  proposalDigest := proposalDigest
  status := .pending
  failureStage := none
  activityId := none
  expiresAt := expiresAt
  consumedAt := none
  cancelledAt := none
  txHash := none
  failureReason := none

/-- What a guarded update gives: the row it wrote, or none. -/
abbrev Cas := Except CheckViolation (Option WalletTransactionIntent)

section Statements

variable (now : Instant) (intentId sessionId : JsString) (row : WalletTransactionIntent)

def claimIfPendingWith (expectedProposalDigest : JsString) : Cas :=
  casRow (row.intentId = intentId ∧ row.sessionId = sessionId ∧ row.status = .pending
      ∧ row.expiresAt > now ∧ row.proposalDigest = expectedProposalDigest) checks
    { row with status := .consuming, consumedAt := some now }

/-- `stampActivityWith`. No other row has the activity: the index is unique. -/
def stampActivityWith (activityId : Nat) (unlinked : Bool) : Cas :=
  casRow (row.intentId = intentId ∧ row.sessionId = sessionId ∧ row.status = .consuming
      ∧ row.activityId = none) (fun written => checks written && unlinked)
    { row with activityId := some activityId }

def markExecutedWith (txHash : JsString) : Cas :=
  casRow (row.intentId = intentId ∧ row.sessionId = sessionId ∧ row.status = .consuming) checks
    { row with status := .executed, txHash := some txHash }

def markChainFailedWith (txHash reason : JsString) : Cas :=
  casRow (row.intentId = intentId ∧ row.sessionId = sessionId ∧ row.status = .consuming) checks
    { row with
      status := .failed, failureStage := some .chainReverted, txHash := some txHash
      failureReason := some reason }

def markPreBroadcastFailedWith (reason : JsString) : Cas :=
  casRow (row.intentId = intentId ∧ row.sessionId = sessionId ∧ row.status = .consuming) checks
    { row with
      status := .failed, failureStage := some .preBroadcast, failureReason := some reason }

def markBroadcastUnconfirmedWith (txHash : JsString) : Cas :=
  casRow (row.intentId = intentId ∧ row.sessionId = sessionId ∧ row.status = .consuming) checks
    { row with status := .broadcastUnconfirmed, txHash := some txHash }

def markCrashedBeforeBroadcastWith (reason : JsString) : Cas :=
  casRow (row.intentId = intentId ∧ row.sessionId = sessionId ∧ row.status = .consuming) checks
    { row with
      status := .failed, failureStage := some .crashedBeforeBroadcast
      failureReason := some reason }

def markAuditFailedWith (reason : JsString) : Cas :=
  casRow (row.intentId = intentId ∧ row.sessionId = sessionId ∧ row.status = .consuming) checks
    { row with status := .auditFailed, failureReason := some reason }

def settleUnconfirmedAsExecutedWith : Cas :=
  casRow (row.intentId = intentId ∧ row.sessionId = sessionId
      ∧ row.status = .broadcastUnconfirmed) checks
    { row with status := .executed }

def settleUnconfirmedAsChainFailedWith (reason : JsString) : Cas :=
  casRow (row.intentId = intentId ∧ row.sessionId = sessionId
      ∧ row.status = .broadcastUnconfirmed) checks
    { row with
      status := .failed, failureStage := some .chainReverted, failureReason := some reason }

def markSupersededUnprovenWith (reason : JsString) : Cas :=
  casRow (row.intentId = intentId ∧ row.sessionId = sessionId
      ∧ row.status = .broadcastUnconfirmed) checks
    { row with status := .supersededUnproven, failureReason := some reason }

/-- `expireStalePendingWith`, on one of the rows it covers. -/
def expireStalePendingWith : Cas :=
  casRow (row.sessionId = sessionId ∧ row.status = .pending ∧ row.expiresAt ≤ now) checks
    { row with status := .expired }

def cancelIfPendingWith : Cas :=
  casRow (row.intentId = intentId ∧ row.sessionId = sessionId ∧ row.status = .pending) checks
    { row with status := .cancelled, cancelledAt := some now }

end Statements

/-- The statements of the repository that move a row, with what they are given. -/
inductive Statement where
  | claimIfPending (expectedProposalDigest : JsString)
  | stampActivity (activityId : Nat) (unlinked : Bool)
  | markExecuted (txHash : JsString)
  | markChainFailed (txHash reason : JsString)
  | markPreBroadcastFailed (reason : JsString)
  | markBroadcastUnconfirmed (txHash : JsString)
  | markCrashedBeforeBroadcast (reason : JsString)
  | markAuditFailed (reason : JsString)
  | settleUnconfirmedAsExecuted
  | settleUnconfirmedAsChainFailed (reason : JsString)
  | markSupersededUnproven (reason : JsString)
  | expireStalePending
  | cancelIfPending

structure Call where
  now : Instant
  intentId : JsString
  sessionId : JsString
  statement : Statement

def Call.cas (call : Call) (row : WalletTransactionIntent) : Cas :=
  match call.statement with
  | .claimIfPending digest =>
    claimIfPendingWith call.now call.intentId call.sessionId row digest
  | .stampActivity activityId unlinked =>
    stampActivityWith call.intentId call.sessionId row activityId unlinked
  | .markExecuted txHash => markExecutedWith call.intentId call.sessionId row txHash
  | .markChainFailed txHash reason =>
    markChainFailedWith call.intentId call.sessionId row txHash reason
  | .markPreBroadcastFailed reason =>
    markPreBroadcastFailedWith call.intentId call.sessionId row reason
  | .markBroadcastUnconfirmed txHash =>
    markBroadcastUnconfirmedWith call.intentId call.sessionId row txHash
  | .markCrashedBeforeBroadcast reason =>
    markCrashedBeforeBroadcastWith call.intentId call.sessionId row reason
  | .markAuditFailed reason => markAuditFailedWith call.intentId call.sessionId row reason
  | .settleUnconfirmedAsExecuted =>
    settleUnconfirmedAsExecutedWith call.intentId call.sessionId row
  | .settleUnconfirmedAsChainFailed reason =>
    settleUnconfirmedAsChainFailedWith call.intentId call.sessionId row reason
  | .markSupersededUnproven reason =>
    markSupersededUnprovenWith call.intentId call.sessionId row reason
  | .expireStalePending => expireStalePendingWith call.now call.sessionId row
  | .cancelIfPending => cancelIfPendingWith call.now call.intentId call.sessionId row

def step (row : WalletTransactionIntent) (call : Call) : WalletTransactionIntent :=
  after row (call.cas row)

end Vex.Wallet.TransactionIntents
