import Vex.Approvals.Rows

/-!
# Decisions about an approval

The guarded updates of the two rows and the decision transactions that are made
of them: approve, with its expiry, its checks of the run, the permission and the
project; reject and expire; the refusal of pending Studio intents; and the
operator's stop, which rejects the pending rows of a session.

A decision transaction holds the locks of both rows from its first statement, so
it is one function from the rows it found to the rows it leaves. The release of
a rejected fee setup in its own table is left out.
-/

namespace Vex.Approvals

open Vex.Library
open Vex.Runtime (Instant Permission MissionRun MissionRunStatus)

/-! ## The repositories' guarded updates -/

/-- `approveWith`: the row it returns, none where the approval was resolved. -/
def approveWith (now : Instant) (item : ApprovalItem) : Option ApprovalItem :=
  if item.status = .pending then some { item with status := .approved, resolvedAt := some now }
  else none

def rejectWith (now : Instant) (item : ApprovalItem) : Option ApprovalItem :=
  if item.status = .pending then some { item with status := .rejected, resolvedAt := some now }
  else none

structure MarkDecisionInput where
  kind : ApprovalDecision
  reason : Option JsString
  idempotencyKey : Option JsString
  refusalReason : Option ApprovalRefusalReason

/-- `markDecisionWith`: the row it wrote, none where a decision was there. -/
def markDecisionWith (now : Instant) (input : MarkDecisionInput) (intent : ApprovalIntent) :
    Option ApprovalIntent :=
  if intent.decision = none then
    some { intent with
      decision := some input.kind
      decidedAt := some now
      decisionReason := input.reason
      idempotencyKey := input.idempotencyKey
      refusalReason := input.refusalReason }
  else none

variable {now : Instant} {item : ApprovalItem}

theorem approveWith_of_pending (pending : item.status = .pending) :
    approveWith now item = some { item with status := .approved, resolvedAt := some now } :=
  if_pos pending

theorem rejectWith_of_pending (pending : item.status = .pending) :
    rejectWith now item = some { item with status := .rejected, resolvedAt := some now } :=
  if_pos pending

theorem markDecisionWith_of_undecided {input : MarkDecisionInput} {intent : ApprovalIntent}
    (undecided : intent.decision = none) :
    markDecisionWith now input intent = some { intent with
      decision := some input.kind
      decidedAt := some now
      decisionReason := input.reason
      idempotencyKey := input.idempotencyKey
      refusalReason := input.refusalReason } :=
  if_pos undecided

/-! ## The decision transactions -/

def toolResultExpiredReason : JsString := JsString.ofString "expired_ttl"

def toolResultPolicyDriftReason : JsString := JsString.ofString "policy_drift_blocked"

def permissionRank : Permission → Nat
  | .restricted => 0
  | .full => 1

def isPermissionMoreRestrictive (live atEnqueue : Permission) : Bool :=
  permissionRank live < permissionRank atEnqueue

/-- `ApprovalDecisionInconsistencyError`: the approval it names and what was found. -/
structure ApprovalDecisionInconsistencyError where
  approvalId : JsString
  detail : String
  deriving DecidableEq

def ApprovalDecision.text : ApprovalDecision → String
  | .approved => "approved"
  | .rejected => "rejected"
  | .rejectedStop => "rejected_stop"

def QueueStatus.text : QueueStatus → String
  | .pending => "pending"
  | .approved => "approved"
  | .rejected => "rejected"

inductive ApprovalDriftKind where
  | sessionPermission
  | projectPermission
  | projectDeleted
  | scopeChanged
  deriving DecidableEq

structure DriftVerdict where
  driftKind : ApprovalDriftKind
  refusalReason : Option ApprovalRefusalReason
  livePermission : Permission
  deriving DecidableEq

/-- `ApproveSnapshot`; each carries the rows the transaction found. -/
inductive ApproveSnapshot where
  | notFound
  | cachedApproved (row : Approval)
  | alreadyRejected (row : Approval)
  | runTerminated (row : Approval) (runStatus : MissionRunStatus)
  | expiredInTx (row : Approval) (expiredAt queueResolvedAt : Instant)
  | policyDriftBlocked (row : Approval) (queueResolvedAt : Instant) (reason : JsString)
      (permissionAtEnqueue : Permission) (drift : DriftVerdict)
  | approvedInTx (row : Approval) (queueResolvedAt : Instant)

inductive RejectSnapshot where
  | notFound
  | cachedRejected (row : Approval)
  | alreadyApproved (row : Approval)
  | rejectedInTx (row : Approval) (queueResolvedAt : Instant) (reason : JsString)

/-- What an approve reads besides the two rows, under its locks: the permission of the session,
the latest run of the session and the project of the intent. -/
structure Readings where
  sessionPermissionLive : Permission
  recentRun : Option MissionRun
  project : Option Project

def studioExpiryRefusalReason (intent : ApprovalIntent) : Option ApprovalRefusalReason :=
  if intent.origin = .studioMcp then some .expired else none

/-- Write the decision to the queue and to the intent, in this order; a miss of either is an
inconsistency. -/
def decideBoth (row : Approval) (path : String) (state : String)
    (item : Option ApprovalItem) (intent : Option ApprovalIntent) :
    Except ApprovalDecisionInconsistencyError Approval :=
  match item with
  | none => .error ⟨row.approvalId, path ++ " queue CAS missed despite " ++ state⟩
  | some item =>
    match intent with
    | none => .error ⟨row.approvalId, path ++ " intent CAS missed despite decision=null"⟩
    | some intent => .ok { row with queue := item, intent := intent }

/-- The rejection of a row inside a decision transaction. -/
def rejectBoth (now : Instant) (row : Approval) (path : String) (reason : JsString)
    (refusalReason : Option ApprovalRefusalReason) :
    Except ApprovalDecisionInconsistencyError Approval :=
  decideBoth row path "FOR UPDATE" (rejectWith now row.queue)
    (markDecisionWith now ⟨.rejected, some reason, some row.approvalId, refusalReason⟩ row.intent)

def autoRejectInTx (now : Instant) (row : Approval) (expiresAt : Instant) :
    Except ApprovalDecisionInconsistencyError (ApproveSnapshot × Approval) := do
  let decided ← rejectBoth now row "expired-in-tx" toolResultExpiredReason
    (studioExpiryRefusalReason row.intent)
  return (.expiredInTx row expiresAt now, decided)

def policyDriftRejectInTx (now : Instant) (row : Approval) (drift : DriftVerdict) :
    Except ApprovalDecisionInconsistencyError (ApproveSnapshot × Approval) := do
  let decided ← rejectBoth now row "policy-drift" toolResultPolicyDriftReason drift.refusalReason
  return (.policyDriftBlocked row now toolResultPolicyDriftReason row.queue.permissionAtEnqueue drift,
    decided)

/-- `readProjectDrift`: none where the authority behind a Studio approval still holds. -/
def readProjectDrift (readings : Readings) (row : Approval) : Option DriftVerdict :=
  match row.intent.projectId, readings.project with
  | none, _ => some ⟨.projectDeleted, some .projectDeleted, readings.sessionPermissionLive⟩
  | some _, none => some ⟨.projectDeleted, some .projectDeleted, readings.sessionPermissionLive⟩
  | some _, some project =>
    if project.deletedAt ≠ none then
      some ⟨.projectDeleted, some .projectDeleted, readings.sessionPermissionLive⟩
    else if row.intent.scopeVersionAtEnqueue ≠ none
        ∧ row.intent.scopeVersionAtEnqueue ≠ some project.scopeVersion then
      some ⟨.scopeChanged, some .scopeChanged, project.permission⟩
    else if isPermissionMoreRestrictive project.permission row.queue.permissionAtEnqueue then
      some ⟨.projectPermission, none, project.permission⟩
    else none

/-- The run of the approval ended after the approval was made. -/
def terminatedRun (readings : Readings) (row : Approval) : Option MissionRunStatus :=
  match row.intent.missionRunId, readings.recentRun with
  | some _, some run =>
    match run.endedAt with
    | some endedAt =>
      if run.status.Terminal ∧ endedAt > row.queue.createdAt then some run.status else none
    | none => none
  | _, _ => none

/-- The authority that moved since the approval was made: the session's, then the project's. -/
def driftOf (readings : Readings) (row : Approval) : Option DriftVerdict :=
  if isPermissionMoreRestrictive readings.sessionPermissionLive row.queue.permissionAtEnqueue then
    some ⟨.sessionPermission, none, readings.sessionPermissionLive⟩
  else if row.intent.origin = .studioMcp then readProjectDrift readings row
  else none

/-- The decision of an approve that nothing stands against. -/
def approveInTx (now : Instant) (row : Approval) :
    Except ApprovalDecisionInconsistencyError (ApproveSnapshot × Approval) := do
  let decided ← decideBoth row "approve" "FOR UPDATE" (approveWith now row.queue)
    (markDecisionWith now ⟨.approved, none, some row.approvalId, none⟩ row.intent)
  return (.approvedInTx row now, decided)

/-- `buildApproveSnapshot`, of an approval that is there. -/
def buildApproveSnapshot (readings : Readings) (now : Instant) (row : Approval) :
    Except ApprovalDecisionInconsistencyError (ApproveSnapshot × Approval) :=
  match row.intent.decision with
  | some decision =>
    if row.queue.status = .pending then
      .error ⟨row.approvalId, "decision=" ++ decision.text ++ " but queue.status=pending"⟩
    else if decision = .approved then .ok (.cachedApproved row, row)
    else .ok (.alreadyRejected row, row)
  | none =>
    if row.queue.status ≠ .pending then
      .error ⟨row.approvalId, "queue.status=" ++ row.queue.status.text ++ " but decision=null"⟩
    else
      match row.intent.expiresAt.filter (· ≤ now) with
      | some expiresAt => autoRejectInTx now row expiresAt
      | none =>
        match terminatedRun readings row with
        | some runStatus => .ok (.runTerminated row runStatus, row)
        | none =>
          match driftOf readings row with
          | some drift => policyDriftRejectInTx now row drift
          | none => approveInTx now row

/-- `buildRejectSnapshot`, of an approval that is there. -/
def buildRejectSnapshot (now : Instant) (reason : JsString) (row : Approval) :
    Except ApprovalDecisionInconsistencyError (RejectSnapshot × Approval) :=
  match row.intent.decision with
  | some decision =>
    if row.queue.status = .pending then
      .error ⟨row.approvalId, "decision=" ++ decision.text ++ " but queue.status=pending"⟩
    else if decision = .approved then .ok (.alreadyApproved row, row)
    else .ok (.cachedRejected row, row)
  | none =>
    if row.queue.status ≠ .pending then
      .error ⟨row.approvalId, "queue.status=" ++ row.queue.status.text ++ " but decision=null"⟩
    else do
      let decided ← rejectBoth now row "reject" reason
        (if reason = toolResultExpiredReason then studioExpiryRefusalReason row.intent else none)
      return (.rejectedInTx row now reason, decided)

/-! ## Refusals and stops -/

inductive StudioRefusalTarget where
  | all
  | project (projectId : JsString)
  | approval (approvalId : JsString)

/-- The undecided Studio intents that `lockTargets` locks. -/
def StudioRefusalTarget.covers (target : StudioRefusalTarget) (row : Approval) : Bool :=
  row.intent.origin = .studioMcp && row.intent.decision = none &&
    match target with
    | .all => true
    | .project projectId => row.intent.projectId = some projectId
    | .approval approvalId => row.approvalId = approvalId

inductive StudioPendingRefusalReason where
  | lock
  | disconnect
  | cancelled
  | projectDeleted
  | scopeChanged
  | vexQuit
  deriving DecidableEq

def StudioPendingRefusalReason.cause : StudioPendingRefusalReason → ApprovalRefusalReason
  | .lock => .lock
  | .disconnect => .disconnect
  | .cancelled => .cancelled
  | .projectDeleted => .projectDeleted
  | .scopeChanged => .scopeChanged
  | .vexQuit => .vexQuit

/-- `REFUSAL_SENTENCES`. -/
def StudioPendingRefusalReason.sentence : StudioPendingRefusalReason → String
  | .lock => "Vex was locked before this action was approved, so it was cancelled. " ++
      "Nothing was executed and no funds moved. Unlock Vex and ask again."
  | .disconnect => "The coding agent that requested this action disconnected before it was " ++
      "approved, so it was cancelled. Nothing was executed and no funds moved."
  | .cancelled => "The coding agent cancelled this request before it was approved. Nothing " ++
      "was executed and no funds moved."
  | .projectDeleted => "The Vex project this action belonged to was deleted, so the action was " ++
      "cancelled. Nothing was executed and no funds moved."
  | .scopeChanged => "The project's permission or wallet selection changed while this action " ++
      "was waiting for approval, so it was cancelled rather than run under the " ++
      "old settings. Nothing was executed and no funds moved. Ask again to run " ++
      "under the new scope."
  | .vexQuit => "Vex shut down before this action was approved, so it was cancelled. " ++
      "Nothing was executed and no funds moved."

/-- `refusePendingStudioIntents`, on one row: the queue, then the intent. -/
def refusePendingStudioIntent (now : Instant) (target : StudioRefusalTarget)
    (reason : StudioPendingRefusalReason) (row : Approval) : Approval :=
  if target.covers row then
    match rejectWith now row.queue with
    | none => row
    | some item =>
      match markDecisionWith now
        ⟨.rejected, some (JsString.ofString reason.sentence), some row.approvalId,
          some reason.cause⟩ row.intent with
      | none => { row with queue := item }
      | some intent => { row with queue := item, intent := intent }
  else row

/-- The rows that a stop of the session rejects. -/
def Approval.PendingIn (row : Approval) (sessionId : JsString) : Prop :=
  row.queue.sessionId = sessionId ∧ row.queue.status = .pending

instance (row : Approval) (sessionId : JsString) : Decidable (row.PendingIn sessionId) :=
  inferInstanceAs (Decidable (_ ∧ _))

/-- `rejectPendingApprovalsWithClient`, on one row: the queue alone is written. -/
def rejectPendingApproval (now : Instant) (sessionId : JsString) (row : Approval) : Approval :=
  if row.PendingIn sessionId then
    match rejectWith now row.queue with
    | none => row
    | some item => { row with queue := item }
  else row

/-! ## The enqueue -/

inductive EnqueueGateVerdict where
  | clear (dispatchGeneration : Option Int)
  | autoRejected (runStatus : Option MissionRunStatus)
  | refused (reason : JsString)

structure EnqueueApprovalInput where
  sessionId : JsString
  missionRunId : Option JsString
  permission : Permission
  origin : ApprovalOrigin
  projectId : Option JsString
  scopeVersion : Option Int
  expiresAt : Instant

/-- The rows that `enqueueWith` and `createWith` insert. -/
def enqueued (now : Instant) (approvalId : JsString) (input : EnqueueApprovalInput)
    (dispatchGeneration : Option Int) : Approval where
  approvalId := approvalId
  queue := {
    status := .pending
    sessionId := input.sessionId
    permissionAtEnqueue := input.permission
    createdAt := now
    resolvedAt := none }
  intent := {
    sessionId := input.sessionId
    missionRunId := input.missionRunId
    origin := input.origin
    projectId := input.projectId
    scopeVersionAtEnqueue := input.scopeVersion
    dispatchGenerationAtEnqueue := dispatchGeneration
    expiresAt := some input.expiresAt
    idempotencyKey := none
    decidedAt := none
    decision := none
    decisionReason := none
    refusalReason := none
    executionStatus := .notStarted
    executionResultHash := none
    dispatchStartedAt := none
    resultMessageId := none
    resumeConsumedAt := none
    resumeCueMessageId := none
    settlement := none }

/-- `enqueueApprovalIntentWithGate`: the rows it commits, none where the gate refused. An approval
of a dead run is rejected on both sides at once. -/
def enqueueApprovalIntentWithGate (now : Instant) (approvalId : JsString)
    (input : EnqueueApprovalInput) : EnqueueGateVerdict → Option Approval
  | .refused _ => none
  | .clear dispatchGeneration => some (enqueued now approvalId input dispatchGeneration)
  | .autoRejected _ =>
    let row := enqueued now approvalId input none
    match rejectWith now row.queue,
        markDecisionWith now ⟨.rejectedStop, some (JsString.ofString "operator_stop"), none, none⟩
          row.intent with
    | some item, some intent => some { row with queue := item, intent := intent }
    | _, _ => none

end Vex.Approvals
