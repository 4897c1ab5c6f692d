import Vex.Approvals.Rows
import Vex.Activity.Rows
import Vex.Wallet.TransferIntents
import Vex.Wallet.TransactionIntents
import Vex.Lighter.OrderIntents
import Vex.Lighter.LifecycleIntents
import Vex.Lighter.WithdrawalIntents
import Vex.Lighter.OnboardingIntents

/-!
# The money state of a session

One statement asks every table it knows for rows of a session that could still
move funds, or whose outcome is not proved: `getUnresolvedMoneyStateForSession`.
Where it finds none the session is clear, and its transcript may be rewritten.

Beside it stands what its answer is for (`MayHaveLeft`): the rows of the money
state machines that are in a state in which a transaction or an order may have
left, and its outcome is not recorded. Intents of a leverage change name no
session, so none is linked to one.
-/

namespace Vex.Money

open Vex.Library
open Vex.Runtime (Instant)
open Vex.Approvals (Approval ApprovalItem ApprovalIntent ApprovalExecutionStatus)
open Vex.Wallet.TransferIntents (WalletIntent WalletIntentStatus)
open Vex.Wallet.TransactionIntents (WalletTransactionIntent WalletTransactionIntentStatus)
open Vex.Activity (AgentActivityStatus AgentActivityFailureCode)
open Vex.Lighter hiding Instant

/-! ## The tables -/

/-- The statuses of `wallet_wrap_intents`. -/
inductive WalletWrapIntentStatus where
  | pending
  | consuming
  | executed
  | failed
  | broadcastUnconfirmed
  | supersededUnproven
  | reviewRequired
  | auditFailed
  | cancelled
  | expired
  deriving DecidableEq

structure WalletWrapIntent where
  intentId : JsString
  sessionId : JsString
  status : WalletWrapIntentStatus
  expiresAt : Instant
  txHash : Option JsString

/-- The statuses of `protocol_executions`. -/
inductive ExecutionStatus where
  | intent
  | succeeded
  | failed
  deriving DecidableEq

structure ProtocolExecution where
  id : Nat
  sessionId : Option JsString
  toolId : JsString
  executionStatus : ExecutionStatus

/-- What the statement reads of an activity; its role is the text of the column. -/
structure AgentActivity where
  id : Nat
  sessionId : Option JsString
  eventRole : JsString
  txHash : Option JsString
  status : AgentActivityStatus
  failureCode : Option AgentActivityFailureCode

/-- The tables with the money state machines. A row of the approval queue that is older than the
table of approval intents has no companion. -/
structure MoneyTables where
  approvals : List Approval
  legacyQueue : List (JsString × ApprovalItem)
  walletIntents : List WalletIntent
  walletTransactionIntents : List WalletTransactionIntent
  walletWrapIntents : List WalletWrapIntent
  protocolExecutions : List ProtocolExecution
  onboardingIntents : List OnboardingIntents.Row
  agentActivity : List AgentActivity
  orderIntents : List OrderIntents.Row
  lifecycleIntents : List LifecycleIntents.Row
  withdrawalIntents : List WithdrawalIntents.Row

def MoneyTables.empty : MoneyTables where
  approvals := []
  legacyQueue := []
  walletIntents := []
  walletTransactionIntents := []
  walletWrapIntents := []
  protocolExecutions := []
  onboardingIntents := []
  agentActivity := []
  orderIntents := []
  lifecycleIntents := []
  withdrawalIntents := []

/-! ## The statement -/

/-- The kinds of a `MoneyStateReason`. -/
inductive MoneyStateKind where
  | approvalQueuePending
  | approvalInFlight
  | walletIntentLive
  | walletConfirmationUnknown
  | walletTransactionIntentLive
  | walletTransactionConfirmationUnknown
  | walletWrapIntentLive
  | walletWrapConfirmationUnknown
  | protocolExecutionIntent
  | lighterOnboardingUnresolved
  | agentActivityPending
  deriving DecidableEq

/-- The structural label of a reason: one of two texts, or the column it is taken from. -/
inductive MoneyStateDetail where
  | queuePending
  | intentUndecided
  | execution (status : ApprovalExecutionStatus)
  | walletIntent (status : WalletIntentStatus)
  | walletTransactionIntent (status : WalletTransactionIntentStatus)
  | walletWrapIntent (status : WalletWrapIntentStatus)
  | tool (toolId : JsString)
  | onboarding (state : OnboardingIntents.ExecutionState)
  | activity (eventRole : JsString)
  deriving DecidableEq

structure MoneyStateReason where
  kind : MoneyStateKind
  ref : JsString
  detail : MoneyStateDetail
  deriving DecidableEq

inductive UnresolvedMoneyState where
  | clear
  | unresolved (reasons : List MoneyStateReason)
  deriving DecidableEq

def maxReasons : Nat := 50

def idText (id : Nat) : JsString := JsString.ofString (toString id)

section Branches

variable (now : Instant) (sessionId : JsString) (tables : MoneyTables)

/-- An undecided intent whose queue row is not pending. -/
def IntentUndecided (row : Approval) : Prop :=
  row.intent.sessionId = sessionId ∧ row.intent.decision = none ∧ row.queue.status ≠ .pending

def ApprovalInFlight (row : Approval) : Prop :=
  row.intent.sessionId = sessionId ∧ row.intent.decision = some .approved
    ∧ row.intent.executionStatus ∈
      ([.notStarted, .dispatching, .indeterminate] : List ApprovalExecutionStatus)

def WalletIntentLive (row : WalletIntent) : Prop :=
  row.sessionId = sessionId
    ∧ (row.status = .consuming ∨ (row.status = .pending ∧ row.expiresAt > now))

/-- The activity linked to a failed transfer proves a mined revert. -/
def RevertProven (activities : List AgentActivity) (row : WalletIntent) : Prop :=
  ∃ activity ∈ activities, some activity.id = row.activityId
    ∧ activity.sessionId = some row.sessionId
    ∧ activity.eventRole = JsString.ofString "wallet_transfer" ∧ activity.txHash = row.txHash
    ∧ activity.status = .definitivelyFailed ∧ activity.failureCode = some .minedRevert

/-- A transfer with a hash and no proof of what became of it. -/
def WalletConfirmationUnknown (row : WalletIntent) : Prop :=
  row.sessionId = sessionId ∧ row.txHash ≠ none ∧ (row.status ∈
        ([.broadcastUnconfirmed, .reviewRequired, .auditFailed] : List WalletIntentStatus)
      ∨ (row.status = .failed ∧ row.failureReason ≠ some Wallet.TransferIntents.chainReverted
        ∧ ¬ RevertProven tables.agentActivity row))

def WalletTransactionIntentLive (row : WalletTransactionIntent) : Prop :=
  row.sessionId = sessionId
    ∧ (row.status ∈ ([.consuming, .broadcastUnconfirmed] : List WalletTransactionIntentStatus)
      ∨ (row.status = .pending ∧ row.expiresAt > now))

/-- A transaction with a hash in no state that proves its outcome. -/
def WalletTransactionConfirmationUnknown (row : WalletTransactionIntent) : Prop :=
  row.sessionId = sessionId ∧ row.txHash ≠ none
    ∧ row.status ∉ ([.executed, .failed, .supersededUnproven, .broadcastUnconfirmed] :
      List WalletTransactionIntentStatus)

/-- A wrap that is claimed, unconfirmed or in review, or can be claimed. -/
def WalletWrapIntentLive (row : WalletWrapIntent) : Prop :=
  row.sessionId = sessionId ∧ (row.status ∈
        ([.consuming, .broadcastUnconfirmed, .reviewRequired] : List WalletWrapIntentStatus)
      ∨ (row.status = .pending ∧ row.expiresAt > now))

/-- A wrap with a hash in no state that proves its outcome. -/
def WalletWrapConfirmationUnknown (row : WalletWrapIntent) : Prop :=
  row.sessionId = sessionId ∧ row.txHash ≠ none
    ∧ row.status ∉ ([.executed, .failed, .supersededUnproven, .broadcastUnconfirmed,
      .reviewRequired] : List WalletWrapIntentStatus)

def LighterOnboardingUnresolved (row : OnboardingIntents.Row) : Prop :=
  row.sessionId = sessionId
    ∧ row.executionState ∉ ([.credited, .failed] : List OnboardingIntents.ExecutionState)
    ∧ (row.approvalStatus = .approved ∨ (row.approvalStatus = .approvalPending ∧ row.expiresAt > now))

instance : DecidablePred (IntentUndecided sessionId) :=
  fun _ => inferInstanceAs (Decidable (_ ∧ _))

instance : DecidablePred (ApprovalInFlight sessionId) :=
  fun _ => inferInstanceAs (Decidable (_ ∧ _))

instance : DecidablePred (WalletIntentLive now sessionId) :=
  fun _ => inferInstanceAs (Decidable (_ ∧ _))

instance (activities : List AgentActivity) : DecidablePred (RevertProven activities) :=
  fun _ => inferInstanceAs (Decidable (∃ _ ∈ _, _))

instance : DecidablePred (WalletConfirmationUnknown sessionId tables) :=
  fun _ => inferInstanceAs (Decidable (_ ∧ _))

instance : DecidablePred (WalletTransactionIntentLive now sessionId) :=
  fun _ => inferInstanceAs (Decidable (_ ∧ _))

instance : DecidablePred (WalletTransactionConfirmationUnknown sessionId) :=
  fun _ => inferInstanceAs (Decidable (_ ∧ _))

instance : DecidablePred (WalletWrapIntentLive now sessionId) :=
  fun _ => inferInstanceAs (Decidable (_ ∧ _))

instance : DecidablePred (WalletWrapConfirmationUnknown sessionId) :=
  fun _ => inferInstanceAs (Decidable (_ ∧ _))

instance : DecidablePred (LighterOnboardingUnresolved now sessionId) :=
  fun _ => inferInstanceAs (Decidable (_ ∧ _))

/-- One branch of the union: the rows that match, each with its reason. -/
def branch {ρ : Type} (rows : List ρ) (matches_ : ρ → Prop) [DecidablePred matches_]
    (kind : MoneyStateKind) (ref : ρ → JsString) (detail : ρ → MoneyStateDetail) :
    List MoneyStateReason :=
  (rows.filter matches_).map fun row => ⟨kind, ref row, detail row⟩

def MoneyTables.approvalQueue : List (JsString × ApprovalItem) :=
  tables.approvals.map (fun row => (row.approvalId, row.queue)) ++ tables.legacyQueue

/-- `UNRESOLVED_MONEY_STATE_SQL`, before its limit. -/
def unresolvedMoneyStateRows : List MoneyStateReason :=
  branch tables.approvalQueue (fun row => row.2.sessionId = sessionId ∧ row.2.status = .pending)
      .approvalQueuePending (·.1) (fun _ => .queuePending)
    ++ branch tables.approvals (IntentUndecided sessionId) .approvalQueuePending (·.approvalId)
      (fun _ => .intentUndecided)
    ++ branch tables.approvals (ApprovalInFlight sessionId) .approvalInFlight (·.approvalId)
      (fun row => .execution row.intent.executionStatus)
    ++ branch tables.walletIntents (WalletIntentLive now sessionId) .walletIntentLive (·.intentId)
      (fun row => .walletIntent row.status)
    ++ branch tables.walletIntents (WalletConfirmationUnknown sessionId tables)
      .walletConfirmationUnknown (·.intentId) (fun row => .walletIntent row.status)
    ++ branch tables.walletTransactionIntents (WalletTransactionIntentLive now sessionId)
      .walletTransactionIntentLive (·.intentId) (fun row => .walletTransactionIntent row.status)
    ++ branch tables.walletTransactionIntents (WalletTransactionConfirmationUnknown sessionId)
      .walletTransactionConfirmationUnknown (·.intentId)
      (fun row => .walletTransactionIntent row.status)
    ++ branch tables.walletWrapIntents (WalletWrapIntentLive now sessionId) .walletWrapIntentLive
      (·.intentId) (fun row => .walletWrapIntent row.status)
    ++ branch tables.walletWrapIntents (WalletWrapConfirmationUnknown sessionId)
      .walletWrapConfirmationUnknown (·.intentId) (fun row => .walletWrapIntent row.status)
    ++ branch tables.protocolExecutions
      (fun row => row.sessionId = some sessionId ∧ row.executionStatus = .intent)
      .protocolExecutionIntent (fun row => idText row.id) (fun row => .tool row.toolId)
    ++ branch tables.onboardingIntents (LighterOnboardingUnresolved now sessionId)
      .lighterOnboardingUnresolved (·.intentId) (fun row => .onboarding row.executionState)
    ++ branch tables.agentActivity
      (fun row => row.sessionId = some sessionId ∧ row.status = .pending)
      .agentActivityPending (fun row => idText row.id) (fun row => .activity row.eventRole)

def getUnresolvedMoneyStateForSession : UnresolvedMoneyState :=
  match (unresolvedMoneyStateRows now sessionId tables).take maxReasons with
  | [] => .clear
  | reasons => .unresolved reasons

end Branches

/-! ## What may have left -/

/-- The states of an order that was staged for its submission and has no outcome. -/
def orderOut : List OrderIntents.ExecutionState :=
  [.submitted, .apiAccepted, .sequencerPending, .ambiguous]

/-- The states of a lifecycle action that was staged for its submission and has no outcome. -/
def lifecycleOut : List LifecycleIntents.ExecutionState :=
  [.submissionStaged, .apiAccepted, .sequencerPending, .ambiguous]

/-- The states of a withdrawal that was staged for its submission and has not arrived. -/
def withdrawalOut : List WithdrawalIntents.ExecutionState :=
  WithdrawalIntents.reconcilableStates

/-- The states of an onboarding action that was staged for its submission and has no outcome. -/
def onboardingOut : List OnboardingIntents.ExecutionState :=
  [.approveSubmitted, .depositSubmitted, .depositConfirmed, .keyRegistrationTxStaged,
    .changePubKeySubmitted, .ambiguous]

/-- A row linked to the session is in a state in which a transaction or an order may have left
without its outcome being recorded. -/
inductive MayHaveLeft (tables : MoneyTables) (sessionId : JsString) : Prop
  | approval (row : Approval) (member : row ∈ tables.approvals)
      (linked : row.intent.sessionId = sessionId)
      (out : row.intent.executionStatus = .dispatching ∨ row.intent.executionStatus = .indeterminate)
  | walletIntent (row : WalletIntent) (member : row ∈ tables.walletIntents)
      (linked : row.sessionId = sessionId)
      (out : row.status ∈ ([.consuming, .broadcastUnconfirmed, .reviewRequired, .auditFailed] :
          List WalletIntentStatus)
        ∨ (row.status = .failed ∧ row.txHash ≠ none
          ∧ row.failureReason ≠ some Wallet.TransferIntents.chainReverted
          ∧ ¬ RevertProven tables.agentActivity row))
  | walletTransactionIntent (row : WalletTransactionIntent)
      (member : row ∈ tables.walletTransactionIntents) (linked : row.sessionId = sessionId)
      (out : row.status = .consuming ∨ row.status = .broadcastUnconfirmed ∨ (row.txHash ≠ none
          ∧ row.status ∉ ([.executed, .failed, .supersededUnproven] :
            List WalletTransactionIntentStatus)))
  | protocolExecution (row : ProtocolExecution) (member : row ∈ tables.protocolExecutions)
      (linked : row.sessionId = some sessionId) (out : row.executionStatus = .intent)
  | agentActivity (row : AgentActivity) (member : row ∈ tables.agentActivity)
      (linked : row.sessionId = some sessionId) (out : row.status = .pending)
  | onboarding (row : OnboardingIntents.Row) (member : row ∈ tables.onboardingIntents)
      (linked : row.sessionId = sessionId) (out : row.executionState ∈ onboardingOut)
  | order (row : OrderIntents.Row) (member : row ∈ tables.orderIntents)
      (linked : row.sessionId = sessionId) (out : row.executionState ∈ orderOut)
  | lifecycle (row : LifecycleIntents.Row) (member : row ∈ tables.lifecycleIntents)
      (linked : row.sessionId = sessionId) (out : row.executionState ∈ lifecycleOut)
  | withdrawal (row : WithdrawalIntents.Row) (member : row ∈ tables.withdrawalIntents)
      (linked : row.sessionId = sessionId) (out : row.executionState ∈ withdrawalOut)

end Vex.Money
