import Vex.Activity.EvmClaims
import Vex.Library.Checks
import Vex.Wallet.TransferIntents
import Vex.Wallet.TransactionIntents

/-!
# Settling the rows linked to an activity

An activity row of a wallet's transaction is linked by the intent that
authorised it, and belongs to a protocol execution. The coordinator ends the
three rows in one transaction: it runs the guarded update of the activity, moves
the intent to the outcome, and completes the execution if it is still open.
Whatever throws on the way rolls everything back.

The intent is a row of `wallet_transaction_intents` or, for a transfer, of
`wallet_intents`. The intents of wraps are left out.
-/

namespace Vex.Activity

open Vex.Library
open Vex.Wallet (Instant CheckViolation)
open Vex.Wallet.TransferIntents (WalletIntent WalletIntentStatus WalletIntentNetwork)
open Vex.Wallet.TransactionIntents (WalletTransactionIntent WalletTransactionIntentStatus)

inductive LinkedIntentRepairOutcome where
  | confirmed
  | reverted
  | supersededUnproven
  | crashedBeforeBroadcast
  | signedNotSubmitted
  deriving DecidableEq

def LinkedIntentRepairOutcome.text : LinkedIntentRepairOutcome → String
  | .confirmed => "confirmed"
  | .reverted => "reverted"
  | .supersededUnproven => "superseded_unproven"
  | .crashedBeforeBroadcast => "crashed_before_broadcast"
  | .signedNotSubmitted => "signed_not_submitted"

inductive LinkedActivityTarget where
  | confirmed
  | definitivelyFailed (failureCode : AgentActivityFailureCode)
  | supersededUnproven
  deriving DecidableEq

inductive LinkedSettlementRow where
  | wti
  | wi
  | aa
  | pe
  deriving DecidableEq

/-- What rolls a settlement back: a conflict between the rows, a writer of the activity that
threw, or a check of a table. -/
inductive SettlementError where
  | conflict (row : LinkedSettlementRow) (detail : String)
  | activity (refused : ActivityError)
  | checkViolated

inductive ExecutionStatus where
  | intent
  | succeeded
  | failed
  deriving DecidableEq

structure ExecutionCompletion where
  executionStatus : ExecutionStatus
  success : Bool
  resultStatus : Option String
  deriving DecidableEq

/-- The rows of one activity: the intents that may link it, and its execution. -/
structure LinkedRows where
  activity : AgentActivityEvent
  transactionIntent : Option WalletTransactionIntent
  transferIntent : Option WalletIntent
  execution : Option ExecutionCompletion

namespace LinkedRows

/-- `getByActivityIdWith` of the transaction intents. -/
def linkedTransactionIntent (rows : LinkedRows) : Option WalletTransactionIntent :=
  rows.transactionIntent.filter fun intent => intent.activityId = some rows.activity.id

/-- `getByActivityIdWith` of the transfer intents. -/
def linkedTransferIntent (rows : LinkedRows) : Option WalletIntent :=
  rows.transferIntent.filter fun intent => intent.activityId = some rows.activity.id

def withActivity (rows : LinkedRows) (activity : AgentActivityEvent) : LinkedRows :=
  { rows with activity := activity }

end LinkedRows

def requireActivity (activity : AgentActivityEvent) (expectedSessionId : Option JsString) :
    Except SettlementError Unit :=
  refuseIf (activity.sessionId ≠ expectedSessionId)
    (.conflict .aa "the activity row belongs to a different session")

/-! ## What the coordinator asks of the linked rows -/

def validateLinkedRows (activity : AgentActivityEvent) (execution : Option ExecutionCompletion)
    (intent : WalletTransactionIntent) (sessionId : Option JsString) :
    Except SettlementError Unit := do
  refuseIf (sessionId = none ∨ some intent.sessionId ≠ sessionId)
    (.conflict .wti "the linked intent belongs to a different session")
  refuseIf (intent.activityId ≠ some activity.id)
    (.conflict .wti "the intent no longer points at this activity row")
  refuseIf (execution = none) (.conflict .pe "the execution row is missing")

def chainFamilyOf : WalletIntentNetwork → BridgeChainFamily
  | .eip155 => .eip155
  | .solana => .solana

def validateTransferLinkedRows (activity : AgentActivityEvent) (intent : WalletIntent)
    (sessionId : Option JsString) : Except SettlementError Unit := do
  refuseIf (sessionId = none ∨ some intent.sessionId ≠ sessionId)
    (.conflict .wi "the linked transfer intent belongs to a different session")
  refuseIf (intent.activityId ≠ some activity.id)
    (.conflict .wi "the transfer intent no longer points at this activity row")
  refuseIf (activity.eventRole ≠ .walletTransfer ∨ activity.kind ≠ .transfer)
    (.conflict .aa "a transfer intent points at a non-transfer activity row")
  refuseIf (chainFamilyOf intent.network ≠ activity.chainFamily)
    (.conflict .wi "the transfer intent and activity row disagree on chain family")

def intentMatchesOutcome (intent : WalletTransactionIntent) (activity : AgentActivityEvent) :
    LinkedIntentRepairOutcome → Bool
  | .confirmed => intent.status = .executed ∧ intent.txHash = activity.txHash
  | .reverted =>
    intent.status = .failed ∧ intent.failureStage = some .chainReverted
      ∧ intent.txHash = activity.txHash
  | .supersededUnproven => intent.status = .supersededUnproven ∧ intent.txHash = activity.txHash
  | .crashedBeforeBroadcast =>
    intent.status = .failed ∧ intent.failureStage = some .crashedBeforeBroadcast
      ∧ intent.txHash = none
  | .signedNotSubmitted =>
    intent.status = .failed ∧ intent.failureStage = some .preBroadcast ∧ intent.txHash = none

def transferIntentMatchesOutcome (intent : WalletIntent) (activity : AgentActivityEvent) :
    LinkedIntentRepairOutcome → Bool
  | .confirmed => intent.status = .executed ∧ intent.txHash = activity.txHash
  | .reverted => intent.status = .failed ∧ intent.txHash = activity.txHash
  | .supersededUnproven => intent.status = .supersededUnproven ∧ intent.txHash = activity.txHash
  | .crashedBeforeBroadcast =>
    intent.status = .failed ∧ intent.txHash = none
      ∧ intent.failureReason = some (JsString.ofString "CrashRecovery:no_staged_hash")
  | .signedNotSubmitted =>
    intent.status = .failed ∧ intent.txHash = none
      ∧ intent.failureReason = some (JsString.ofString "PreBroadcast:signed_not_submitted")

structure CanSettleTexts where
  intentRow : LinkedSettlementRow
  noSignature : String
  stagedHash : String
  noHash : String
  incompatible : String

/-- What both assertions check: a hash where the outcome is about a signature and none where it is
about a crash, and an intent that waits for the outcome or states it already. -/
def assertCanSettle (texts : CanSettleTexts) (consuming unconfirmed matchesOutcome : Bool)
    (activity : AgentActivityEvent) (outcome : LinkedIntentRepairOutcome) :
    Except SettlementError Unit :=
  match outcome with
  | .signedNotSubmitted => do
    refuseIf (activity.txHash = none) (.conflict .aa texts.noSignature)
    refuseIf (¬(consuming ∨ matchesOutcome)) (.conflict texts.intentRow texts.incompatible)
  | .crashedBeforeBroadcast => do
    refuseIf (activity.txHash ≠ none) (.conflict .aa texts.stagedHash)
    refuseIf (¬(consuming ∨ matchesOutcome)) (.conflict texts.intentRow texts.incompatible)
  | .confirmed | .reverted | .supersededUnproven => do
    refuseIf (activity.txHash = none) (.conflict .aa texts.noHash)
    refuseIf (¬(consuming ∨ unconfirmed ∨ matchesOutcome))
      (.conflict texts.intentRow texts.incompatible)

def transactionStatusText : WalletTransactionIntentStatus → String
  | .pending => "pending"
  | .consuming => "consuming"
  | .executed => "executed"
  | .failed => "failed"
  | .broadcastUnconfirmed => "broadcast_unconfirmed"
  | .supersededUnproven => "superseded_unproven"
  | .auditFailed => "audit_failed"
  | .cancelled => "cancelled"
  | .expired => "expired"

def transferStatusText : WalletIntentStatus → String
  | .pending => "pending"
  | .consuming => "consuming"
  | .broadcastUnconfirmed => "broadcast_unconfirmed"
  | .executed => "executed"
  | .failed => "failed"
  | .supersededUnproven => "superseded_unproven"
  | .reviewRequired => "review_required"
  | .auditFailed => "audit_failed"
  | .cancelled => "cancelled"
  | .expired => "expired"

def assertIntentCanSettle (intent : WalletTransactionIntent) (activity : AgentActivityEvent)
    (outcome : LinkedIntentRepairOutcome) : Except SettlementError Unit :=
  assertCanSettle
    { intentRow := .wti
      noSignature := "signed-not-submitted transaction settlement has no staged signature"
      stagedHash := "crashed-before-broadcast settlement found a staged transaction hash"
      noHash := "a chain verdict has no staged transaction hash"
      incompatible := "the intent is " ++ transactionStatusText intent.status
        ++ ", which is incompatible with " ++ outcome.text }
    (intent.status = .consuming) (intent.status = .broadcastUnconfirmed)
    (intentMatchesOutcome intent activity outcome) activity outcome

def assertTransferIntentCanSettle (intent : WalletIntent) (activity : AgentActivityEvent)
    (outcome : LinkedIntentRepairOutcome) : Except SettlementError Unit :=
  assertCanSettle
    { intentRow := .wi
      noSignature := "signed-not-submitted transfer settlement has no staged signature"
      stagedHash := "crashed-before-broadcast transfer settlement found a staged hash"
      noHash := "a transfer chain verdict has no staged hash"
      incompatible := "the transfer intent is " ++ transferStatusText intent.status
        ++ ", which is incompatible with " ++ outcome.text }
    (intent.status = .consuming) (intent.status = .broadcastUnconfirmed)
    (transferIntentMatchesOutcome intent activity outcome) activity outcome

/-! ## Moving the intent to the outcome -/

/-- A guarded update inside the transaction: a violated check throws. -/
def orThrow {α : Type} (written : Except CheckViolation α) : Except SettlementError α :=
  written.mapError fun _ => .checkViolated

/-- The consuming intent of a chain verdict is moved to the unconfirmed broadcast first. -/
def advanceToUnconfirmed (intent : WalletTransactionIntent) (activity : AgentActivityEvent) :
    Except SettlementError WalletTransactionIntent :=
  match activity.txHash with
  | none => .error (.conflict .aa "the staged hash vanished")
  | some txHash => do
    let moved ← orThrow (Wallet.TransactionIntents.markBroadcastUnconfirmedWith intent.intentId
      intent.sessionId intent txHash)
    match moved with
    | none => .error (.conflict .wti
        "the consuming intent could not move to broadcast_unconfirmed")
    | some moved => .ok moved

def writeIntentOutcome (intent : WalletTransactionIntent) :
    LinkedIntentRepairOutcome → Wallet.TransactionIntents.Cas
  | .confirmed =>
    Wallet.TransactionIntents.settleUnconfirmedAsExecutedWith intent.intentId intent.sessionId
      intent
  | .reverted =>
    Wallet.TransactionIntents.settleUnconfirmedAsChainFailedWith intent.intentId intent.sessionId
      intent (JsString.ofString "RepairLane:chain_reverted")
  | .supersededUnproven =>
    Wallet.TransactionIntents.markSupersededUnprovenWith intent.intentId intent.sessionId
      intent (JsString.ofString "RepairLane:superseded_unproven")
  | .crashedBeforeBroadcast =>
    Wallet.TransactionIntents.markCrashedBeforeBroadcastWith intent.intentId intent.sessionId
      intent (JsString.ofString "CrashRecovery:no_staged_hash")
  | .signedNotSubmitted =>
    Wallet.TransactionIntents.markPreBroadcastFailedWith intent.intentId intent.sessionId
      intent (JsString.ofString "PreBroadcast:signed_not_submitted")

/-- The row that `settleIntent` starts its terminal update from. -/
def currentFor (initial : WalletTransactionIntent) (activity : AgentActivityEvent)
    (outcome : LinkedIntentRepairOutcome) : Except SettlementError WalletTransactionIntent :=
  if outcome ≠ .crashedBeforeBroadcast ∧ outcome ≠ .signedNotSubmitted
      ∧ initial.status = .consuming then advanceToUnconfirmed initial activity
  else .ok initial

def settleIntent (initial : WalletTransactionIntent) (activity : AgentActivityEvent)
    (outcome : LinkedIntentRepairOutcome) : Except SettlementError WalletTransactionIntent :=
  if intentMatchesOutcome initial activity outcome then .ok initial
  else do
    let current ← currentFor initial activity outcome
    let written ← orThrow (writeIntentOutcome current outcome)
    match written with
    | some written => .ok written
    | none =>
      if intentMatchesOutcome current activity outcome then .ok current
      else .error (.conflict .wti "the intent terminal CAS lost to an incompatible durable state")

def requireTransferHash (activity : AgentActivityEvent) : Except SettlementError JsString :=
  match activity.txHash with
  | none => .error (.conflict .aa "the staged transfer hash vanished")
  | some txHash => .ok txHash

def maxSafeInteger : Nat := 9007199254740991

/-- The update of `settleTransferIntent` for an outcome. -/
def writeTransferOutcome (intent : WalletIntent) (activityId : Nat)
    (activity : AgentActivityEvent) :
    LinkedIntentRepairOutcome → Except SettlementError (Option WalletIntent)
  | .confirmed => do
    let txHash ← requireTransferHash activity
    orThrow (Wallet.TransferIntents.settleLinkedAsExecutedWith intent.intentId intent.sessionId
      intent activityId txHash)
  | .reverted => do
    let txHash ← requireTransferHash activity
    orThrow (Wallet.TransferIntents.settleLinkedAsFailedWith intent.intentId intent.sessionId
      intent activityId txHash)
  | .supersededUnproven => do
    let txHash ← requireTransferHash activity
    orThrow (Wallet.TransferIntents.settleLinkedAsSupersededWith intent.intentId intent.sessionId
      intent activityId txHash)
  | .crashedBeforeBroadcast =>
    orThrow (Wallet.TransferIntents.settleLinkedAsCrashedBeforeBroadcastWith intent.intentId
      intent.sessionId intent activityId)
  | .signedNotSubmitted =>
    orThrow (Wallet.TransferIntents.settleLinkedAsSignedNotSubmittedWith intent.intentId
      intent.sessionId intent activityId)

def settleTransferIntent (intent : WalletIntent) (activity : AgentActivityEvent)
    (outcome : LinkedIntentRepairOutcome) : Except SettlementError WalletIntent :=
  if transferIntentMatchesOutcome intent activity outcome then .ok intent
  else do
    let activityId := intent.activityId.getD 0
    refuseIf (maxSafeInteger < activityId) (.conflict .wi "the activity link is not an integer")
    let written ← writeTransferOutcome intent activityId activity outcome
    match written with
    | some written => .ok written
    | none =>
      if transferIntentMatchesOutcome intent activity outcome then .ok intent
      else .error (.conflict .wi
        "the transfer intent terminal CAS lost to an incompatible durable state")

/-! ## Completing the execution -/

/-- `settleExecutionAs`: `completeExecutionIntentWith` on an execution that is still an intent. -/
def settleExecutionAs (status : String) (success : Bool)
    (execution : Option ExecutionCompletion) : Option ExecutionCompletion :=
  execution.map fun row =>
    if row.executionStatus = .intent then
      { executionStatus := if success then .succeeded else .failed
        success := success
        resultStatus := some status }
    else row

def settleExecution (outcome : LinkedIntentRepairOutcome)
    (execution : Option ExecutionCompletion) : Option ExecutionCompletion :=
  settleExecutionAs outcome.text (outcome = .confirmed) execution

/-! ## The coordinator -/

def activityMatchesTarget (activity : AgentActivityEvent) : LinkedActivityTarget → Bool
  | .confirmed => activity.status = .confirmed
  | .definitivelyFailed failureCode =>
    activity.status = .definitivelyFailed ∧ activity.failureCode = some failureCode
  | .supersededUnproven => activity.status = .supersededUnproven

def persistedActivityProvesOutcome (activity : AgentActivityEvent)
    (outcome : LinkedIntentRepairOutcome) : Bool :=
  match outcome with
  | .crashedBeforeBroadcast => activity.status = .definitivelyFailed ∧ activity.txHash = none
  | .signedNotSubmitted =>
    activity.status = .definitivelyFailed ∧ activity.txHash ≠ none
      ∧ activity.failureCode = some .broadcastError
  | _ => false

inductive LinkedActivityVerdict where
  | confirmed
  | reverted
  | supersededUnproven
  deriving DecidableEq

def LinkedActivityVerdict.outcome : LinkedActivityVerdict → LinkedIntentRepairOutcome
  | .confirmed => .confirmed
  | .reverted => .reverted
  | .supersededUnproven => .supersededUnproven

def activityMatchesOutcome (activity : AgentActivityEvent) : LinkedActivityVerdict → Bool
  | .confirmed => activity.status = .confirmed
  | .reverted =>
    activity.status = .definitivelyFailed ∧ activity.failureCode = some .minedRevert
  | .supersededUnproven =>
    activity.status = .supersededUnproven ∨ (activity.status = .definitivelyFailed
        ∧ activity.failureCode = some .solanaSignatureExpired)

def whenLinked {ι : Type} (linked : Option ι) (check : ι → Except SettlementError Unit) :
    Except SettlementError Unit :=
  match linked with
  | none => .ok ()
  | some intent => check intent

/-- The settlement of a linked transaction intent and of the execution. -/
def settleTransactionRows (activity : AgentActivityEvent) (outcome : LinkedIntentRepairOutcome)
    (rows : LinkedRows) : Except SettlementError LinkedRows :=
  match rows.linkedTransactionIntent with
  | none => .ok rows
  | some intent => do
    let settled ← settleIntent intent activity outcome
    .ok { rows with
      transactionIntent := some settled
      execution := settleExecution outcome rows.execution }

/-- The settlement of a linked transfer intent and of the execution. -/
def settleTransferRows (activity : AgentActivityEvent) (outcome : LinkedIntentRepairOutcome)
    (rows : LinkedRows) : Except SettlementError LinkedRows :=
  match rows.linkedTransferIntent with
  | none => .ok rows
  | some intent => do
    let settled ← settleTransferIntent intent activity outcome
    .ok { rows with
      transferIntent := some settled
      execution := settleExecution outcome rows.execution }

def settleLinkedActivityRowsWith (rows : LinkedRows) (sessionId : Option JsString)
    (intentOutcome : LinkedIntentRepairOutcome) (activityTarget : LinkedActivityTarget)
    (activityWrite : AgentActivityEvent → Except ActivityError CasResult) :
    Except SettlementError (LinkedRows × CasResult) := do
  requireActivity rows.activity sessionId
  refuseIf (rows.linkedTransactionIntent.isSome ∧ rows.linkedTransferIntent.isSome)
    (.conflict .aa "the activity row is linked by two wallet intent state machines")
  whenLinked rows.linkedTransactionIntent fun intent => do
    validateLinkedRows rows.activity rows.execution intent sessionId
    assertIntentCanSettle intent rows.activity intentOutcome
  whenLinked rows.linkedTransferIntent fun intent => do
    validateTransferLinkedRows rows.activity intent sessionId
    assertTransferIntentCanSettle intent rows.activity intentOutcome
  let result ← (activityWrite rows.activity).mapError .activity
  let written := rows.withActivity result.row
  refuseIf (intentOutcome = .signedNotSubmitted
      ∧ ¬persistedActivityProvesOutcome result.row intentOutcome)
    (.conflict .aa
      "signed-not-submitted settlement did not produce hash-bearing broadcast-error evidence")
  if ¬result.applied ∧ ¬activityMatchesTarget result.row activityTarget
      ∧ ¬persistedActivityProvesOutcome result.row intentOutcome then
    .ok (written, result)
  else do
    let settled ← settleTransactionRows rows.activity intentOutcome written
    let settled ← settleTransferRows rows.activity intentOutcome settled
    .ok (settled, result)

/-- What `recoverLinkedBroadcastUnconfirmed` makes of the intent. -/
def recoverIntent (intent : WalletTransactionIntent) (activity : AgentActivityEvent)
    (txHash : JsString) : Except SettlementError WalletTransactionIntent :=
  if intent.status = .consuming then advanceToUnconfirmed intent activity
  else do
    refuseIf (¬(intent.status = .broadcastUnconfirmed ∧ intent.txHash = some txHash))
      (.conflict .wti ("the intent is " ++ transactionStatusText intent.status
        ++ ", not a compatible broadcast_unconfirmed row"))
    .ok intent

def recoverLinkedBroadcastUnconfirmed (rows : LinkedRows) (sessionId : JsString) :
    Except SettlementError (LinkedRows × Bool) := do
  requireActivity rows.activity (some sessionId)
  match rows.activity.txHash with
  | none => .ok (rows, false)
  | some txHash =>
    match rows.linkedTransactionIntent with
    | none => .error (.conflict .wti "the linked intent is missing")
    | some intent => do
      validateLinkedRows rows.activity rows.execution intent (some sessionId)
      let recovered ← recoverIntent intent rows.activity txHash
      .ok ({ rows with
        transactionIntent := some recovered
        execution := settleExecutionAs "broadcast_unconfirmed" false rows.execution }, true)

def settleFromPersistedTerminalActivity (rows : LinkedRows) (sessionId : JsString)
    (verdict : LinkedActivityVerdict) : Except SettlementError (LinkedRows × Bool) := do
  requireActivity rows.activity (some sessionId)
  if ¬activityMatchesOutcome rows.activity verdict then .ok (rows, false)
  else
    match rows.linkedTransactionIntent with
    | none => .ok (rows, false)
    | some intent => do
      validateLinkedRows rows.activity rows.execution intent (some sessionId)
      assertIntentCanSettle intent rows.activity verdict.outcome
      let settled ← settleTransactionRows rows.activity verdict.outcome rows
      .ok (settled, true)

/-! ## The writers that go through the coordinator -/

def linkedIntentOutcomeForFailure : AgentActivityFailureCode → Option LinkedIntentRepairOutcome
  | .minedRevert => some .reverted
  | .solanaSignatureExpired => some .supersededUnproven
  | .broadcastError => some .crashedBeforeBroadcast
  | _ => none

/-- A call on the rows of one activity. The writers of the pool take the session of the activity
itself. -/
inductive SettlementCall where
  | confirmActivityEvent (input : ConfirmActivityEventInput) (context : TerminalWriteContext)
  | confirmActivityEventStatusOnly (source : ConfirmationSource) (context : TerminalWriteContext)
  | failActivityEvent (input : FailActivityEventInput) (context : TerminalWriteContext)
  | markSupersededUnproven (claimToken : ClaimToken) (reason : SupersededReason)
      (handlerWindowMs nonInclusionWindowMs : Int)
  | failSignedNotSubmitted (sessionId : Option JsString) (failureReason : JsString)
  | settleCrashedBeforeBroadcast (sessionId : Option JsString) (failureReason : JsString)
  | recoverLinkedBroadcastUnconfirmed (sessionId : JsString)
  | settleFromPersistedTerminalActivity (sessionId : JsString) (verdict : LinkedActivityVerdict)

/-- What a call gives: the rows it commits and whether it wrote, or what it threw. -/
def SettlementCall.run (now : Instant) (rows : LinkedRows) :
    SettlementCall → Except SettlementError (LinkedRows × Bool)
  | .confirmActivityEvent input context => do
    let (settled, result) ← settleLinkedActivityRowsWith rows rows.activity.sessionId .confirmed
      .confirmed fun row => runConfirmActivityEvent now row input context
    .ok (settled, result.applied)
  | .confirmActivityEventStatusOnly source context => do
    let (settled, result) ← settleLinkedActivityRowsWith rows rows.activity.sessionId .confirmed
      .confirmed fun row => runConfirmActivityEventStatusOnly now row source context
    .ok (settled, result.applied)
  | .failActivityEvent input context =>
    match linkedIntentOutcomeForFailure input.failureCode with
    | none => do
      -- no outcome of the intent: the update of the activity alone
      let result ←
        (runFailActivityEvent now rows.activity input context false false).mapError .activity
      .ok (rows.withActivity result.row, result.applied)
    | some intentOutcome => do
      let (settled, result) ← settleLinkedActivityRowsWith rows rows.activity.sessionId
        intentOutcome (.definitivelyFailed input.failureCode)
        fun row => runFailActivityEvent now row input context false false
      .ok (settled, result.applied)
  | .markSupersededUnproven claimToken reason handlerWindowMs nonInclusionWindowMs => do
    let (settled, result) ← settleLinkedActivityRowsWith rows rows.activity.sessionId
      .supersededUnproven .supersededUnproven fun row =>
        runMarkSupersededUnproven now claimToken row reason handlerWindowMs nonInclusionWindowMs
    .ok (settled, result.applied)
  | .failSignedNotSubmitted sessionId failureReason => do
    let (settled, result) ← settleLinkedActivityRowsWith rows sessionId .signedNotSubmitted
      (.definitivelyFailed .broadcastError) fun row =>
        runFailActivityEvent now row ⟨.broadcastError, failureReason⟩ .handlerReturn false false
    .ok (settled, result.applied)
  | .settleCrashedBeforeBroadcast sessionId failureReason => do
    let (settled, result) ← settleLinkedActivityRowsWith rows sessionId .crashedBeforeBroadcast
      (.definitivelyFailed .broadcastError) fun row =>
        runFailActivityEvent now row ⟨.broadcastError, failureReason⟩ .handlerReturn true false
    .ok (settled, result.applied)
  | .recoverLinkedBroadcastUnconfirmed sessionId =>
    Activity.recoverLinkedBroadcastUnconfirmed rows sessionId
  | .settleFromPersistedTerminalActivity sessionId verdict =>
    Activity.settleFromPersistedTerminalActivity rows sessionId verdict

structure TimedCall where
  now : Instant
  call : SettlementCall

/-- The rows after a call: one transaction, which commits or is rolled back. -/
def settleStep (rows : LinkedRows) (timed : TimedCall) : LinkedRows :=
  match timed.call.run timed.now rows with
  | .ok (committed, _) => committed
  | .error _ => rows

end Vex.Activity
