import Vex.Library.Table
import Vex.Runtime.Missions

/-!
# Approval rows

An approval is a row of `approval_queue`, which says whether it is pending, and
its companion row of `approval_intents`, which carries the decision, what became
of the execution and of the resume. The companion references the queue's row and
is inserted with it, so a table of approvals has both rows under one id.

The tool call and its digest, the preview, the policy and the risk columns are
left out: no statement that is modelled reads them.
-/

namespace Vex.Approvals

open Vex.Library
open Vex.Runtime (Instant Permission)

/-- The statuses of `approval_queue`. -/
inductive QueueStatus where
  | pending
  | approved
  | rejected
  deriving DecidableEq

inductive ApprovalDecision where
  | approved
  | rejected
  | rejectedStop
  deriving DecidableEq

inductive ApprovalOrigin where
  | agent
  | studioMcp
  | desk
  deriving DecidableEq

/-- `ApprovalRefusalReason`: the causes of a pending refusal, then those of a later one. -/
inductive ApprovalRefusalReason where
  | lock
  | disconnect
  | cancelled
  | projectDeleted
  | scopeChanged
  | vexQuit
  | stopped
  | generationSuperseded
  | scopeUnavailable
  | expired
  deriving DecidableEq

inductive ApprovalExecutionStatus where
  | notStarted
  | dispatching
  | succeeded
  | failed
  | indeterminate
  deriving DecidableEq

/-- `ApprovalItem`: the row of the queue. -/
structure ApprovalItem where
  status : QueueStatus
  sessionId : JsString
  permissionAtEnqueue : Permission
  createdAt : Instant
  resolvedAt : Option Instant

/-- `ApprovalIntent`: the companion row. -/
structure ApprovalIntent where
  sessionId : JsString
  missionRunId : Option JsString
  origin : ApprovalOrigin
  projectId : Option JsString
  scopeVersionAtEnqueue : Option Int
  dispatchGenerationAtEnqueue : Option Int
  expiresAt : Option Instant
  idempotencyKey : Option JsString
  decidedAt : Option Instant
  decision : Option ApprovalDecision
  decisionReason : Option JsString
  refusalReason : Option ApprovalRefusalReason
  executionStatus : ApprovalExecutionStatus
  executionResultHash : Option JsString
  dispatchStartedAt : Option Instant
  resultMessageId : Option Nat
  resumeConsumedAt : Option Instant
  resumeCueMessageId : Option Nat
  settlement : Option JsString
  deriving DecidableEq

structure Approval where
  approvalId : JsString
  queue : ApprovalItem
  intent : ApprovalIntent

abbrev ApprovalTable := Table Approval.approvalId

/-- `Project`: what a decision reads of it. -/
structure Project where
  scopeVersion : Int
  permission : Permission
  deletedAt : Option Instant
  deriving DecidableEq

end Vex.Approvals
