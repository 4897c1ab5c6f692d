import Vex.Library.JsString

/-!
# Mission runs

The statuses of a mission run, the reasons it stopped for, and what the
transactions that move a run read and write of its row. The stop summary and the
stop evidence, the iteration count, the capital baseline and the last checkpoint of
a run are left out: nothing that is modelled reads them.
-/

namespace Vex.Runtime

open Vex.Library

/-- A moment, in milliseconds. `NOW()` is the moment a transaction began. -/
abbrev Instant := Int

inductive MissionRunStatus where
  | running
  | pausedApproval
  | pausedWake
  | pausedError
  | pausedUser
  | pausedPlanAcceptance
  | pausedUserForm
  | completed
  | failed
  | stopped
  | cancelled
  deriving DecidableEq

def terminalRunStatuses : List MissionRunStatus := [.completed, .failed, .stopped, .cancelled]

def MissionRunStatus.Terminal (status : MissionRunStatus) : Prop := status ∈ terminalRunStatuses

instance (status : MissionRunStatus) : Decidable status.Terminal :=
  inferInstanceAs (Decidable (status ∈ terminalRunStatuses))

def approvalResumeClaimableRunStatuses : List MissionRunStatus := [.pausedApproval, .running]

/-- `StopReason`: the business reasons, then the runtime ones. -/
inductive StopReason where
  | goalReached
  | deadlineReached
  | capitalDepleted
  | maxLossHit
  | noViableOpportunity
  | emergencyStop
  | userStopped
  | approvalRequired
  | checkpointPause
  | iterationLimit
  | timeout
  | waitingForWake
  | waitingForCompactCommit
  | compactUnableAtCritical
  | systemError
  | userPaused
  | planAcceptanceRequired
  | userFormRequired
  | noProgress
  | restartOrphan
  | toolCallLoop
  /-- Recorded by the error path of a mission, outside the two lists. -/
  | providerError
  deriving DecidableEq

/-- `MissionRun`. `autoRetryEnabled` is what `snapshotAutoRetryEnabled` reads off the frozen
contract of the run. -/
structure MissionRun where
  id : JsString
  missionId : JsString
  sessionId : JsString
  status : MissionRunStatus
  startedAt : Instant
  endedAt : Option Instant
  stopReason : Option StopReason
  errorRetryCount : Nat
  autoRetryUnsafe : Bool
  autoRetryEnabled : Bool

inductive Permission where
  | restricted
  | full
  deriving DecidableEq

end Vex.Runtime
