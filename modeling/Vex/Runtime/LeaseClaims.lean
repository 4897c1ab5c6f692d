import Vex.Library.Runs
import Vex.Runtime.RunnerLeases

/-!
# Claims of the runner lease, statement by statement

A claim is one transaction of two or three statements that other transactions
come between: a run claim locks its run, every claim locks the lease that is
there and checks it, and the last statement writes run and lease and commits. A
lease that is there stays locked from the check to the end; where there is none
there is nothing to lock.

The heartbeat, the release by the handle of a claim, the operator's stop and
other writers of the runs are steps of their own. `Held.claim`, `Phase.claimed`'s
number and `lapsed` record the history that the rows do not: which attempt's claim
wrote the lease, in which order the claims came, and whose lease ran out or was
deleted by a stop.
-/

namespace Vex.Runtime

open Vex.Library

inductive ClaimKind where
  /-- `claimSessionLease`. -/
  | session
  /-- `claimRunLeaseAndFlipToRunning`. -/
  | run (missionRunId : JsString) (fromStatuses : List MissionRunStatus)
  /-- `claimRunForAutoRetry`. -/
  | autoRetry (missionRunId : JsString) (expectedAttempt : Nat)

structure ClaimInput where
  kind : ClaimKind
  ownerId : JsString
  processKind : LeaseProcessKind
  ttlMs : Nat

def ClaimInput.missionRunId (input : ClaimInput) : Option JsString :=
  match input.kind with
  | .session => none
  | .run missionRunId _ => some missionRunId
  | .autoRetry missionRunId _ => some missionRunId

/-- What a claim hands to `acquireLease`. -/
def ClaimInput.acquire (input : ClaimInput) : AcquireInput where
  missionRunId := input.missionRunId
  ownerId := input.ownerId
  processKind := input.processKind
  ttlMs := input.ttlMs

def leaseTtlMs : Nat := 5 * 60000

/-- The claim `claimResumeContinuation` makes for an agent's approval: of its run where it has one,
else of the session. The owner string is the approval's, whoever resumes it. -/
def claimResumeContinuation (ownerPrefix approvalId : JsString) (missionRunId : Option JsString) :
    ClaimInput where
  kind := match missionRunId with
    | none => .session
    | some id => .run id approvalResumeClaimableRunStatuses
  ownerId := ownerPrefix ++ JsString.ofString "-" ++ approvalId
  processKind := .electronMain
  ttlMs := leaseTtlMs

inductive AutoRetryIneligibleReason where
  | runMissing
  | sessionMismatch
  | statusChanged
  | stampedUnsafe
  | stopReason
  | attemptMismatch
  | notFull
  | optOut
  deriving DecidableEq

/-- The answer of a claim that did not get the lease. -/
inductive Refusal where
  | leaseBusy (currentLease : RunnerLease)
  | statusMismatch (currentStatus : Option MissionRunStatus)
  | ineligible (reason : AutoRetryIneligibleReason)
  deriving DecidableEq

/-- The checks of `claimRunLeaseAndFlipToRunningWith` on the run it has locked. -/
def runRefusal (fromStatuses : List MissionRunStatus) : Option MissionRun → Option Refusal
  | none => some (.statusMismatch none)
  | some run =>
    if run.status ∈ fromStatuses then none else some (.statusMismatch (some run.status))

/-- The checks of `claimRunForAutoRetry` on the run it has locked. -/
def autoRetryRefusal (sessionId : JsString) (expectedAttempt : Nat) (permission : Permission) :
    Option MissionRun → Option Refusal
  | none => some (.ineligible .runMissing)
  | some run =>
    if run.sessionId ≠ sessionId then some (.ineligible .sessionMismatch)
    else if run.status ≠ .pausedError then some (.ineligible .statusChanged)
    else if run.autoRetryUnsafe then some (.ineligible .stampedUnsafe)
    else if run.stopReason ≠ some .providerError then some (.ineligible .stopReason)
    else if run.errorRetryCount ≠ expectedAttempt then some (.ineligible .attemptMismatch)
    else if permission ≠ .full then some (.ineligible .notFull)
    else if !run.autoRetryEnabled then some (.ineligible .optOut)
    else none

inductive Phase where
  | notMade
  /-- The transaction has begun. -/
  | opened (start : Instant)
  /-- The run is locked and passed the checks. -/
  | runLocked (start : Instant) (previousStatus : MissionRunStatus)
  /-- The lease passed the check; it was there and is locked, or there was none. -/
  | validated (start : Instant) (previousStatus : Option MissionRunStatus) (found : Bool)
  /-- The lease is claimed and its handle is live, or a heartbeat found the lease gone. -/
  | claimed (number : Nat) (live : Bool)
  | refused (answer : Refusal)
  /-- The upsert returned no row and the claim threw. -/
  | threw
  | rolledBack
  | released
  deriving DecidableEq

structure Attempt where
  input : ClaimInput
  phase : Phase

/-- The lease row, and the attempt whose claim wrote it. -/
structure Held where
  row : RunnerLease
  claim : Nat
  deriving DecidableEq

/-- One session: its rows, the locks on them and the attempts. -/
structure Session where
  sessionId : JsString
  clock : Instant
  permission : Permission
  lease : Option Held
  leaseLock : Option Nat
  runs : JsString → Option MissionRun
  runLocks : JsString → Option Nat
  pendingWakes : Nat
  attempts : Nat → Attempt
  claims : Nat
  lapsed : Nat → Bool

namespace Session

/-- The session before anything happened in it. -/
def initial (sessionId : JsString) (permission : Permission) (clock : Instant)
    (runs : JsString → Option MissionRun) (pendingWakes : Nat) (input : ClaimInput) : Session where
  sessionId := sessionId
  clock := clock
  permission := permission
  lease := none
  leaseLock := none
  runs := runs
  runLocks := fun _ => none
  pendingWakes := pendingWakes
  attempts := fun _ => ⟨input, .notMade⟩
  claims := 0
  lapsed := fun _ => false

variable (s : Session)

def enter (a : Nat) (phase : Phase) : Session :=
  { s with attempts := Function.update s.attempts a { s.attempts a with phase := phase } }

/-- The transaction of the attempt ends, and with it its locks. -/
def unlock (a : Nat) : Session :=
  { s with
    leaseLock := if s.leaseLock = some a then none else s.leaseLock
    runLocks := fun id => if s.runLocks id = some a then none else s.runLocks id }

/-- The transaction of the attempt ends in a phase. -/
def finish (a : Nat) (phase : Phase) : Session := (s.unlock a).enter a phase

/-- No other transaction holds the lock on the lease. -/
def LeaseFree (a : Option Nat) : Prop := s.leaseLock = none ∨ s.leaseLock = a

instance (a : Option Nat) : Decidable (s.LeaseFree a) :=
  inferInstanceAs (Decidable (_ = none ∨ _ = a))

/-- No transaction but the attempt's own holds the lock on the run. -/
def RunFree (a : Option Nat) (id : JsString) : Prop := s.runLocks id = none ∨ s.runLocks id = a

instance (a : Option Nat) (id : JsString) : Decidable (s.RunFree a id) :=
  inferInstanceAs (Decidable (_ = none ∨ _ = a))

/-- The lease that is held past its expiry has lapsed. -/
def noteExpiry : Session :=
  match s.lease with
  | none => s
  | some held =>
    if held.row.expiresAt < s.clock then
      { s with lapsed := Function.update s.lapsed held.claim true }
    else s

/-- The lease that is deleted by a stop has lapsed. -/
def noteStopped : Session :=
  match s.lease with
  | none => s
  | some held => { s with lapsed := Function.update s.lapsed held.claim true }

/-! ## The statements of a claim -/

def begin (a : Nat) (input : ClaimInput) : Option Session :=
  if (s.attempts a).phase = .notMade then
    some { s with attempts := Function.update s.attempts a ⟨input, .opened s.clock⟩ }
  else none

/-- `SELECT … FROM mission_runs … FOR UPDATE` and the checks on the row. -/
def readRun (a : Nat) : Option Session :=
  match (s.attempts a).phase, (s.attempts a).input.kind with
  | .opened start, .run id fromStatuses =>
    if s.RunFree (some a) id then some (answer start id (runRefusal fromStatuses (s.runs id)))
    else none
  | .opened start, .autoRetry id expectedAttempt =>
    if s.RunFree (some a) id then
      some (answer start id (autoRetryRefusal s.sessionId expectedAttempt s.permission (s.runs id)))
    else none
  | _, _ => none
where
  answer (start : Instant) (id : JsString) : Option Refusal → Session
    | some refusal => s.finish a (.refused refusal)
    | none =>
      match s.runs id with
      | none => s
      | some run =>
        { s.enter a (.runLocked start run.status) with
          runLocks := Function.update s.runLocks id (some a) }

/-- When the transaction of an attempt that comes to the lease began, and the status its run
had: a session claim comes there at once. -/
def beforeLease (a : Nat) : Option (Instant × Option MissionRunStatus) :=
  match (s.attempts a).phase, (s.attempts a).input.kind with
  | .opened start, .session => some (start, none)
  | .runLocked start previousStatus, .run _ _ => some (start, some previousStatus)
  | .runLocked start previousStatus, .autoRetry _ _ => some (start, some previousStatus)
  | _, _ => none

/-- `SELECT … FROM runner_leases … FOR UPDATE` and the check on the row, with the reading of
`new Date()`. -/
def readLease (a : Nat) (newDate : Instant) : Option Session :=
  match s.beforeLease a with
  | none => none
  | some (start, previousStatus) =>
    if s.LeaseFree (some a) then
      match s.lease with
      | none => some (s.enter a (.validated start previousStatus false))
      | some held =>
        if leaseBusy newDate (s.attempts a).input.ownerId held.row then
          some (s.finish a (.refused (.leaseBusy held.row)))
        else
          some { s.enter a (.validated start previousStatus true) with leaseLock := some a }
    else none

/-- The run a claim flips: `running`, and nothing else of the row changes. -/
def flipToRunning (id : JsString) : Session :=
  { s with
    runs := Function.update s.runs id ((s.runs id).map fun run => { run with status := .running }) }

/-- The run of the claim is flipped, and the wakes of a run that slept are cancelled unless the
claim is an automatic retry. -/
def flip (kind : ClaimKind) (previousStatus : Option MissionRunStatus) : Session :=
  match kind with
  | .session => s
  | .run id _ =>
    { s.flipToRunning id with
      pendingWakes := if previousStatus = some .pausedWake then 0 else s.pendingWakes }
  | .autoRetry id _ => s.flipToRunning id

/-- The last statements of a claim: the run, then `acquireLease`, then `COMMIT`. Where the upsert
returns no row the claim throws and nothing is written. -/
def write (a : Nat) : Option Session :=
  match (s.attempts a).phase with
  | .validated start previousStatus _ =>
    if s.LeaseFree (some a) then
      match acquireLease start (s.attempts a).input.acquire (s.lease.map Held.row) with
      | none => some (s.finish a .threw)
      | some row =>
        some { (s.flip (s.attempts a).input.kind previousStatus).finish a
            (.claimed s.claims true) with
          lease := some ⟨row, a⟩
          claims := s.claims + 1 }
    else none
  | _ => none

/-- The transaction fails before its commit. -/
def rollback (a : Nat) : Option Session :=
  match (s.attempts a).phase with
  | .opened _ | .runLocked _ _ | .validated _ _ _ => some (s.finish a .rolledBack)
  | _ => none

/-! ## The handle of a claim, and the others -/

/-- `heartbeatTick`, whose statement began at `since`. A renewal that finds no row ends the
handle, not the runner. -/
def heartbeat (a : Nat) (since : Instant) : Option Session :=
  match (s.attempts a).phase with
  | .claimed number true =>
    if since ≤ s.clock ∧ s.LeaseFree none then
      match s.lease, renewLease since (s.attempts a).input.ownerId (s.attempts a).input.ttlMs
        (s.lease.map Held.row) with
      | some held, some row => some { s with lease := some { held with row := row } }
      | _, _ => some (s.enter a (.claimed number false))
    else none
  | _ => none

/-- `release`, by `runResumeAfterDecision` or by `discardContinuation`: the delete names the
owner. A handle that has ended deletes nothing. -/
def release (a : Nat) : Option Session :=
  match (s.attempts a).phase with
  | .claimed _ true =>
    if s.LeaseFree none then
      some { s.enter a .released with
        lease := s.lease.filter fun held =>
          !releaseLease (s.attempts a).input.ownerId held.row }
    else none
  | .claimed _ false => some (s.enter a .released)
  | _ => none

/-- `release` whose statement failed, or a process that died: the row stays. -/
def abandon (a : Nat) : Option Session :=
  match (s.attempts a).phase with
  | .claimed _ _ => some (s.enter a .released)
  | _ => none

/-- `applyUserStopWithClient` for a run: nothing is written where the run is missing or
terminal. -/
def userStop (id : JsString) : Option Session :=
  if s.LeaseFree none ∧ s.RunFree none id then
    match s.runs id with
    | none => none
    | some run =>
      if run.status.Terminal then none
      else
        some { s.noteStopped with
          lease := none
          pendingWakes := 0
          runs := Function.update s.runs id (some { run with
              status := .stopped
              stopReason := some .userStopped
              endedAt := some s.clock }) }
  else none

end Session

inductive Event where
  | begin (a : Nat) (input : ClaimInput)
  | readRun (a : Nat)
  | readLease (a : Nat) (newDate : Instant)
  | write (a : Nat)
  | rollback (a : Nat)
  | heartbeat (a : Nat) (since : Instant)
  | release (a : Nat)
  | abandon (a : Nat)
  | userStop (id : JsString)
  /-- Another writer of the runs, of the wakes or of the session's permission commits. -/
  | otherWrite (id : JsString) (run : Option MissionRun) (pendingWakes : Nat)
      (permission : Permission)
  | tick (clock : Instant)

namespace Session

def apply (s : Session) : Event → Option Session
  | .begin a input => s.begin a input
  | .readRun a => s.readRun a
  | .readLease a newDate => s.readLease a newDate
  | .write a => s.write a
  | .rollback a => s.rollback a
  | .heartbeat a since => s.heartbeat a since
  | .release a => s.release a
  | .abandon a => s.abandon a
  | .userStop id => s.userStop id
  | .otherWrite id run pendingWakes permission =>
    if s.RunFree none id then
      some { s with
        runs := Function.update s.runs id run
        pendingWakes := pendingWakes
        permission := permission }
    else none
  | .tick clock => if s.clock ≤ clock then some { s with clock := clock } else none

/-- What an event leads to; the lease that has run out by then has lapsed. -/
def step (s : Session) (event : Event) : Session :=
  orStay (fun s event => (apply s event).map noteExpiry) s event

end Session

end Vex.Runtime
