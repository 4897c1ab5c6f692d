import Mathlib.Data.List.Sort
import Vex.Activity.LinkedOutcomes

/-!
# Staging a transaction on its activity

A row of `agent_activity` is planned before anything is signed. A signer reserves
a nonce on it, signs, stages the hash on it and only then sends. Each of these is
one guarded update of a pending row without a hash.

Two other writers end such a row: the sweep of rows that nobody signed within the
lease, and the abort of the events that follow a failed one. Both settle the rows
linked to what they end.
-/

namespace Vex.Activity

open Vex.Library
open Vex.Wallet (Instant)
open Vex.Wallet.TransferIntents (WalletIntent)
open Vex.Wallet.TransactionIntents (WalletTransactionIntent)

/-- A row with the columns of its plan and of its staging. -/
structure PlannedActivity where
  event : AgentActivityEvent
  eventIndex : Nat
  createdAt : Instant
  walletAddress : JsString
  evidenceSource : Option JsString
  fromAddress : Option JsString
  nonce : Option Nat
  nonceReservationToken : Option Nat
  recentBlockhash : Option JsString
  lastValidBlockHeight : Option Nat
  broadcastAt : Option Instant

def PlannedActivity.id (row : PlannedActivity) : Nat := row.event.id

/-! ## The signer's statements -/

section Signer

variable (lower : JsString → JsString) (now : Instant) (row : PlannedActivity)

/-- What a signer asks of `reserveActivityEvmNonce`, with the nonce that is allocated and the token
that is minted for it. -/
structure NonceReservation where
  fromAddress : JsString
  chainId : Nat
  nonce : Nat
  token : Nat

def evmNonceSigningLeaseMs : Int := 60000

/-- `reserveActivityEvmNonce`: none where it throws. -/
def reserveActivityEvmNonce (input : NonceReservation) : Option PlannedActivity :=
  if row.event.status = .pending ∧ row.event.txHash = none ∧ row.event.chainFamily = .eip155
      ∧ row.evidenceSource = none ∧ row.event.chainId = input.chainId
      ∧ lower row.walletAddress = lower input.fromAddress
      ∧ (∀ fromAddress ∈ row.fromAddress, lower fromAddress = lower input.fromAddress)
      ∧ row.nonceReservationToken = none ∧ row.nonce = none then
    some { row with
      event := { row.event with
        nonceReservationUntil := some (now + evmNonceSigningLeaseMs)
        updatedAt := now }
      fromAddress := some (lower input.fromAddress)
      nonce := some input.nonce
      nonceReservationToken := some input.token }
  else none

def releaseActivityEvmNonce (token : Nat) : Option PlannedActivity :=
  if row.event.txHash = none ∧ row.nonceReservationToken = some token then
    some { row with event := { row.event with nonceReservationUntil := none } }
  else none

structure MarkActivityBroadcastInput where
  txHash : JsString
  fromAddress : JsString
  nonce : Nat
  deriving DecidableEq

/-- The row names the sender and the nonce, or neither. -/
def NamesSigner (input : MarkActivityBroadcastInput) : Prop :=
  (row.fromAddress.map lower = some (lower input.fromAddress) ∧ row.nonce = some input.nonce)
    ∨ (row.fromAddress = none ∧ row.nonce = none)

instance (input : MarkActivityBroadcastInput) : Decidable (NamesSigner lower row input) :=
  inferInstanceAs (Decidable (_ ∨ _))

def nonceLeaseActive : Bool :=
  match row.event.nonceReservationUntil with
  | none => false
  | some reservedUntil => now < reservedUntil

/-- `markActivityBroadcast`: none where it misses. -/
def markActivityBroadcast (input : MarkActivityBroadcastInput) : Option PlannedActivity :=
  if row.event.status = .pending ∧ row.event.txHash = none
      ∧ (row.nonce = none ∨ nonceLeaseActive now row) ∧ row.event.chainFamily = .eip155
      ∧ NamesSigner lower row input then
    some { row with
      event := { row.event with
        txHash := some input.txHash
        nonceReservationUntil := none
        submitAttemptedAt := some now
        updatedAt := now }
      fromAddress := some input.fromAddress
      nonce := some input.nonce }
  else none

structure SolanaBroadcastInput where
  txHash : JsString
  fromAddress : JsString
  recentBlockhash : JsString
  lastValidBlockHeight : Nat

/-- `markActivitySolanaBroadcast`: none where it misses. -/
def markActivitySolanaBroadcast (input : SolanaBroadcastInput) : Option PlannedActivity :=
  if row.event.status = .pending ∧ row.event.txHash = none ∧ row.event.chainFamily = .solana then
    some { row with
      event := { row.event with
        txHash := some input.txHash
        submitAttemptedAt := some now
        updatedAt := now
        pendingReason := some (row.event.pendingReason.getD
          (JsString.ofString "solana_awaiting_confirmation")) }
      fromAddress := some input.fromAddress
      recentBlockhash := some input.recentBlockhash
      lastValidBlockHeight := some input.lastValidBlockHeight }
  else none

/-- `markBroadcastAccepted`: none where it misses. -/
def markBroadcastAccepted : Option PlannedActivity :=
  if row.event.status = .pending ∧ row.event.txHash ≠ none ∧ row.broadcastAt = none then
    some { row with
      event := { row.event with updatedAt := now }
      broadcastAt := some now }
  else none

end Signer

/-! ## The tables -/

/-- The activities, the intents that link them and their executions. -/
structure ActivityTables where
  activities : Table PlannedActivity.id
  transactionIntents : List WalletTransactionIntent
  transferIntents : List WalletIntent
  executions : List (Nat × ExecutionCompletion)

namespace ActivityTables

variable (tables : ActivityTables)

def row (activityId : Nat) : Option PlannedActivity := tables.activities.find? activityId

def linkedRows (row : PlannedActivity) : LinkedRows where
  activity := row.event
  transactionIntent :=
    tables.transactionIntents.find? fun intent => intent.activityId = some row.event.id
  transferIntent := tables.transferIntents.find? fun intent => intent.activityId = some row.event.id
  execution :=
    (tables.executions.find? fun execution => execution.1 = row.event.protocolExecutionId).map (·.2)

def putActivity (row : PlannedActivity) : ActivityTables :=
  { tables with activities := tables.activities.put row }

/-- The tables after a settlement of an activity committed. -/
def commit (row : PlannedActivity) (settled : LinkedRows) : ActivityTables :=
  { tables.putActivity { row with event := settled.activity } with
    transactionIntents := tables.transactionIntents.map fun intent =>
      (settled.transactionIntent.filter fun written => written.intentId = intent.intentId).getD intent
    transferIntents := tables.transferIntents.map fun intent =>
      (settled.transferIntent.filter fun written => written.intentId = intent.intentId).getD intent
    executions := tables.executions.map fun execution =>
      if execution.1 = row.event.protocolExecutionId then
        (execution.1, settled.execution.getD execution.2)
      else execution }

/-- `settleLinkedActivityRowsWith` on the tables. -/
def settleLinkedActivityRows (activityId : Nat) (sessionId : Option JsString)
    (intentOutcome : LinkedIntentRepairOutcome) (activityTarget : LinkedActivityTarget)
    (activityWrite : AgentActivityEvent → Except ActivityError CasResult) :
    Except SettlementError (ActivityTables × CasResult) :=
  match tables.row activityId with
  | none => .error (.conflict .aa "the activity row is missing")
  | some row => do
    let (settled, result) ← settleLinkedActivityRowsWith (tables.linkedRows row) sessionId
      intentOutcome activityTarget activityWrite
    .ok (tables.commit row settled, result)

end ActivityTables

/-! ## The sweep of stale rows without a hash -/

def hashlessIntentRecoveryLeaseMs : Int := 15 * 60 * 1000

def locallySignableActivityRoles : List AgentActivityEventRole :=
  [.swap, .bridgeDeposit, .bridgeFee, .trenchFee, .swapFee, .poolsFee, .allowance, .allowanceReset,
    .lendDeposit, .lendWithdraw, .lendBorrowOperate, .predictBuy, .predictSell, .predictClaim,
    .predictClose, .yieldPt, .yieldYt, .yieldPy, .yieldLp, .yieldSy, .yieldClaim, .tokenLaunch,
    .walletTransfer, .txVexFee, .wrap, .unwrap]

/-- What the sweep reads of a row it found. -/
structure HashlessCandidate where
  id : Nat
  sessionId : Option JsString
  eventRole : AgentActivityEventRole
  deriving DecidableEq

/-- The rows `recoverStaleHashlessIntents` asks for. -/
def staleHashless (now : Instant) (leaseMs : Int) (row : PlannedActivity) : Bool :=
  row.event.status = .pending ∧ row.event.txHash = none ∧ nonceLeaseInactive now row.event
    ∧ row.event.eventRole ∈ locallySignableActivityRoles ∧ row.createdAt < now - leaseMs

/-- The candidates of a sweep: the oldest rows, no more than the limit. -/
def hashlessCandidates (now : Instant) (leaseMs : Int) (limit : Nat) (tables : ActivityTables) :
    List HashlessCandidate :=
  (((tables.activities.rows.filter fun row => staleHashless now leaseMs row).insertionSort
    fun row other => row.createdAt ≤ other.createdAt).take limit).map fun row =>
      ⟨row.event.id, row.event.sessionId, row.event.eventRole⟩

def hashlessFailureCode (candidate : HashlessCandidate) : AgentActivityFailureCode :=
  if candidate.eventRole = .swapFee then .broadcastError else .unknown

def hashlessFailureReason (candidate : HashlessCandidate) : JsString :=
  if candidate.eventRole = .swapFee then
    JsString.ofString ("Fee not collected: no transaction hash was staged within the recovery lease. "
      ++ "No fee retry happens automatically; the swap outcome is separate.")
  else
    JsString.ofString
      "not attempted: stale hashless intent - never signed within the recovery lease"

inductive HashlessSweepError where
  | idNotSafeInteger
  | settlement (refused : SettlementError)

def settleHashlessRow (now : Instant) (tables : ActivityTables) (candidate : HashlessCandidate) :
    Except SettlementError (ActivityTables × CasResult) :=
  tables.settleLinkedActivityRows candidate.id candidate.sessionId .crashedBeforeBroadcast
    (.definitivelyFailed (hashlessFailureCode candidate)) fun row =>
      runFailActivityEvent now row
        ⟨hashlessFailureCode candidate, hashlessFailureReason candidate⟩ .handlerReturn true true

/-- One turn of the loop of `recoverStaleHashlessIntents`. -/
def settleHashlessCandidate (now : Instant) (tables : ActivityTables)
    (candidate : HashlessCandidate) : Except HashlessSweepError (ActivityTables × CasResult) := do
  refuseIf (maxSafeInteger < candidate.id) .idNotSafeInteger
  (settleHashlessRow now tables candidate).mapError .settlement

/-! ## The abort of planned events -/

/-- The arguments of `abortPlannedEvents`; the reason is the redacted one. -/
structure AbortInput where
  executionId : Nat
  fromIndex : Nat
  failureReason : JsString
  toIndexExclusive : Option Nat

/-- The rows the update of `abortPlannedEvents` matches. -/
def AbortInput.Matches (input : AbortInput) (row : PlannedActivity) : Prop :=
  row.event.protocolExecutionId = input.executionId ∧ input.fromIndex ≤ row.eventIndex
    ∧ (∀ bound ∈ input.toIndexExclusive, row.eventIndex < bound)
    ∧ row.event.status = .pending ∧ row.event.txHash = none

instance (input : AbortInput) (row : PlannedActivity) : Decidable (input.Matches row) :=
  inferInstanceAs (Decidable (_ ∧ _))

def AbortInput.written (now : Instant) (input : AbortInput) (row : PlannedActivity) :
    PlannedActivity :=
  { row with
    event := { row.event with
      status := .definitivelyFailed
      failureCode := some .unknown
      failureReason := some input.failureReason
      updatedAt := now
      pendingReason := none } }

def settleAborted (tables : ActivityTables) (row : PlannedActivity) :
    Except SettlementError ActivityTables :=
  (tables.settleLinkedActivityRows row.event.id row.event.sessionId .crashedBeforeBroadcast
    (.definitivelyFailed .unknown) fun _ => .ok ⟨false, row.event, none⟩).map (·.1)

def AbortInput.onRow (now : Instant) (input : AbortInput) (row : PlannedActivity) :
    PlannedActivity :=
  if input.Matches row then input.written now row else row

theorem AbortInput.onRow_id (now : Instant) (input : AbortInput) (row : PlannedActivity) :
    (input.onRow now row).id = row.id := by
  unfold onRow
  split_ifs <;> rfl

/-- `abortPlannedEvents`: one transaction, which a conflict rolls back. -/
def abortPlannedEvents (now : Instant) (input : AbortInput) (tables : ActivityTables) :
    Except SettlementError ActivityTables :=
  let written := { tables with
    activities := tables.activities.rewrite (input.onRow now) (input.onRow_id now) }
  ((tables.activities.rows.filter fun row => input.Matches row).map
    (input.written now)).foldlM settleAborted written

end Vex.Activity
