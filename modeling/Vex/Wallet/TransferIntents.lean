import Vex.Wallet.Basic

/-!
# Transfer intents

The rows of `wallet_intents` and the guarded updates that move them. A transfer
is prepared as a pending row, a confirm claims it, and what happened to its
transaction is recorded.

What a statement reads of `agent_activity` is given with it. Columns that no
statement reads or writes after the insert (the transfer itself, the preview, the
idempotency key) are left out.
-/

namespace Vex.Wallet.TransferIntents

open Vex.Library

inductive WalletIntentNetwork where
  | eip155
  | solana
  deriving DecidableEq

inductive WalletIntentStatus where
  | pending
  | consuming
  | broadcastUnconfirmed
  | executed
  | failed
  | supersededUnproven
  | reviewRequired
  | auditFailed
  | cancelled
  | expired
  deriving DecidableEq

structure WalletIntent where
  intentId : JsString
  sessionId : JsString
  network : WalletIntentNetwork
  status : WalletIntentStatus
  activityId : Option Nat
  expiresAt : Instant
  consumedAt : Option Instant
  cancelledAt : Option Instant
  txHash : Option JsString
  failureReason : Option JsString
  repairCheckedAt : Option Instant

def chainReverted : JsString := JsString.ofString "RepairLane:chain_reverted"

/-- The checks `wallet_intents_unconfirmed_evidence`, `wallet_intents_review_has_hash` and
`wallet_intents_failed_hash_evidence`. -/
def checks (row : WalletIntent) : Bool :=
  ((row.status ≠ .broadcastUnconfirmed ∧ row.status ≠ .supersededUnproven)
      ∨ (row.txHash ≠ none ∧ row.activityId ≠ none))
    ∧ (row.status ≠ .reviewRequired ∨ row.txHash ≠ none)
    ∧ (row.status ≠ .failed ∨ row.txHash = none ∨ row.activityId ≠ none
      ∨ row.failureReason = some chainReverted)

/-- `createWith`: the row the insert writes, with the defaults of the table. -/
def createWith (intentId sessionId : JsString) (network : WalletIntentNetwork)
    (expiresAt : Instant) : WalletIntent where
  intentId := intentId
  sessionId := sessionId
  network := network
  status := .pending
  activityId := none
  expiresAt := expiresAt
  consumedAt := none
  cancelledAt := none
  txHash := none
  failureReason := none
  repairCheckedAt := none

/-- What a guarded update gives: the row it wrote, or none. -/
abbrev Cas := Except CheckViolation (Option WalletIntent)

section Statements

variable (now : Instant) (intentId sessionId : JsString) (row : WalletIntent)

def consumeIfPendingWith : Cas :=
  casRow (row.intentId = intentId ∧ row.sessionId = sessionId ∧ row.status = .pending
      ∧ row.expiresAt > now) checks
    { row with status := .consuming, consumedAt := some now }

/-- `linkActivityWith`. The activity is one of the session's pending transfers, and no other
row has it: the index is unique. -/
def linkActivityWith (activityId : Nat) (pendingTransfer unlinked : Bool) : Cas :=
  casRow (row.intentId = intentId ∧ row.sessionId = sessionId ∧ row.status = .consuming
      ∧ row.activityId = none ∧ pendingTransfer = true) (fun written => checks written && unlinked)
    { row with activityId := some activityId }

/-- `markBroadcastUnconfirmedWith`. The linked activity is pending and has the hash staged. -/
def markBroadcastUnconfirmedWith (txHash reason : JsString) (staged : Bool) : Cas :=
  casRow (row.intentId = intentId ∧ row.sessionId = sessionId ∧ row.status = .consuming
      ∧ row.activityId ≠ none ∧ staged = true) checks
    { row with
      status := .broadcastUnconfirmed, txHash := some txHash, failureReason := some reason }

def markExecutedWith (txHash : JsString) : Cas :=
  casRow (row.intentId = intentId ∧ row.sessionId = sessionId ∧ row.status = .consuming) checks
    { row with status := .executed, txHash := some txHash }

def markFailedWith (reason : JsString) (txHash : Option JsString) : Cas :=
  casRow (row.intentId = intentId ∧ row.sessionId = sessionId ∧ row.status = .consuming) checks
    { row with status := .failed, failureReason := some reason, txHash := txHash }

def settleLinkedWith (activityId : Nat) (status : WalletIntentStatus) (txHash : Option JsString)
    (failureReason : Option JsString) : Cas :=
  casRow (row.intentId = intentId ∧ row.sessionId = sessionId ∧ row.activityId = some activityId
      ∧ (row.status = .consuming ∨ row.status = .broadcastUnconfirmed)) checks
    { row with status := status, txHash := txHash, failureReason := failureReason }

def settleLinkedAsExecutedWith (activityId : Nat) (txHash : JsString) : Cas :=
  settleLinkedWith intentId sessionId row activityId .executed (some txHash) none

def settleLinkedAsFailedWith (activityId : Nat) (txHash : JsString) : Cas :=
  settleLinkedWith intentId sessionId row activityId .failed (some txHash) (some chainReverted)

def settleLinkedAsSupersededWith (activityId : Nat) (txHash : JsString) : Cas :=
  settleLinkedWith intentId sessionId row activityId .supersededUnproven (some txHash)
    (some (JsString.ofString "RepairLane:superseded_unproven"))

def settleLinkedAsCrashedBeforeBroadcastWith (activityId : Nat) : Cas :=
  settleLinkedWith intentId sessionId row activityId .failed none
    (some (JsString.ofString "CrashRecovery:no_staged_hash"))

def settleLinkedAsSignedNotSubmittedWith (activityId : Nat) : Cas :=
  settleLinkedWith intentId sessionId row activityId .failed none
    (some (JsString.ofString "PreBroadcast:signed_not_submitted"))

def markAuditFailedWith (txHash reason : JsString) : Cas :=
  casRow (row.intentId = intentId ∧ row.sessionId = sessionId ∧ row.status = .consuming) checks
    { row with status := .auditFailed, txHash := some txHash, failureReason := some reason }

def cancelIfPendingWith : Cas :=
  casRow (row.intentId = intentId ∧ row.sessionId = sessionId ∧ row.status = .pending) checks
    { row with status := .cancelled, cancelledAt := some now }

def touchLegacyReviewWith : Cas :=
  casRow (row.intentId = intentId ∧ row.sessionId = sessionId ∧ row.status = .reviewRequired
      ∧ row.txHash ≠ none) checks
    { row with repairCheckedAt := some now }

def settleLegacyReviewWith (txHash : JsString) (confirmed : Bool) : Cas :=
  casRow (row.intentId = intentId ∧ row.sessionId = sessionId ∧ row.status = .reviewRequired
      ∧ row.txHash = some txHash) checks
    { row with
      status := if confirmed then .executed else .failed
      failureReason := if confirmed then none else some chainReverted
      repairCheckedAt := some now }

end Statements

/-- The statements of the repository that move a row, with what they are given. -/
inductive Statement where
  | consumeIfPending
  | linkActivity (activityId : Nat) (pendingTransfer unlinked : Bool)
  | markBroadcastUnconfirmed (txHash reason : JsString) (staged : Bool)
  | markExecuted (txHash : JsString)
  | markFailed (reason : JsString) (txHash : Option JsString)
  | settleLinkedAsExecuted (activityId : Nat) (txHash : JsString)
  | settleLinkedAsFailed (activityId : Nat) (txHash : JsString)
  | settleLinkedAsSuperseded (activityId : Nat) (txHash : JsString)
  | settleLinkedAsCrashedBeforeBroadcast (activityId : Nat)
  | settleLinkedAsSignedNotSubmitted (activityId : Nat)
  | markAuditFailed (txHash reason : JsString)
  | cancelIfPending
  | touchLegacyReview
  | settleLegacyReview (txHash : JsString) (confirmed : Bool)

structure Call where
  now : Instant
  intentId : JsString
  sessionId : JsString
  statement : Statement

def Call.cas (call : Call) (row : WalletIntent) : Cas :=
  match call.statement with
  | .consumeIfPending => consumeIfPendingWith call.now call.intentId call.sessionId row
  | .linkActivity activityId pendingTransfer unlinked =>
    linkActivityWith call.intentId call.sessionId row activityId pendingTransfer unlinked
  | .markBroadcastUnconfirmed txHash reason staged =>
    markBroadcastUnconfirmedWith call.intentId call.sessionId row txHash reason staged
  | .markExecuted txHash => markExecutedWith call.intentId call.sessionId row txHash
  | .markFailed reason txHash => markFailedWith call.intentId call.sessionId row reason txHash
  | .settleLinkedAsExecuted activityId txHash =>
    settleLinkedAsExecutedWith call.intentId call.sessionId row activityId txHash
  | .settleLinkedAsFailed activityId txHash =>
    settleLinkedAsFailedWith call.intentId call.sessionId row activityId txHash
  | .settleLinkedAsSuperseded activityId txHash =>
    settleLinkedAsSupersededWith call.intentId call.sessionId row activityId txHash
  | .settleLinkedAsCrashedBeforeBroadcast activityId =>
    settleLinkedAsCrashedBeforeBroadcastWith call.intentId call.sessionId row activityId
  | .settleLinkedAsSignedNotSubmitted activityId =>
    settleLinkedAsSignedNotSubmittedWith call.intentId call.sessionId row activityId
  | .markAuditFailed txHash reason =>
    markAuditFailedWith call.intentId call.sessionId row txHash reason
  | .cancelIfPending => cancelIfPendingWith call.now call.intentId call.sessionId row
  | .touchLegacyReview => touchLegacyReviewWith call.now call.intentId call.sessionId row
  | .settleLegacyReview txHash confirmed =>
    settleLegacyReviewWith call.now call.intentId call.sessionId row txHash confirmed

def step (row : WalletIntent) (call : Call) : WalletIntent := after row (call.cas row)

end Vex.Wallet.TransferIntents
