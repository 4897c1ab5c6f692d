import Vex.Runtime.LoopWakes

/-!
# The wake executor

A pass claims the due rows of runs, reads the due rows of sessions, and handles the rows one
after the other. What a pass does between two transactions is a phase of it, so other passes,
the writers of the runs and of the leases, the stops and a crash come between any two.

`World.started` records the history that the rows do not: whose slice was started, in the order
the slices came. A session's continuation is delivered when its slice starts.
-/

namespace Vex.Runtime

open Vex.Library

/-- Where a pass is. A row it handles is claimed under an owner. -/
inductive PassPhase where
  /-- `claimDue` has committed. -/
  | listing
  /-- Between two rows. -/
  | next
  /-- The run was read, and it sleeps. -/
  | checked (wake : WakeRow)
  /-- The run was read, and it is in error. -/
  | retrying (wake : WakeRow)
  /-- The lease is acquired. -/
  | claimed (wake : WakeRow) (ownerId : JsString)
  /-- The banner is there and the slice runs. -/
  | slice (wake : WakeRow) (ownerId : JsString)
  /-- The `finally` block. -/
  | releasing (wake : WakeRow) (ownerId : JsString)
  deriving DecidableEq

def PassPhase.wake : PassPhase → Option WakeRow
  | .listing | .next => none
  | .checked wake | .retrying wake | .claimed wake _ | .slice wake _ | .releasing wake _ =>
    some wake

/-- A call of `tick`, with the rows that are still to be handled. -/
structure Pass where
  now : Instant
  limit : Nat
  phase : PassPhase
  queue : List WakeRow
  deriving DecidableEq

/-- The rows, the passes, and whose slice was started. -/
structure World where
  db : Database
  passes : Nat → Option Pass
  started : List JsString

def World.initial (db : Database) : World where
  db := db
  passes := fun _ => none
  started := []

/-! ## One row -/

/-- The owner under which `handleClaimed` and `handleAgentSessionClaimed` claim. -/
def wakeExecutorOwner (wake : WakeRow) : JsString := JsString.ofString "wake-executor-" ++ wake.id

/-- The owner under which `handleAutoRetryClaimed` claims. -/
def autoRetryOwner (wake : WakeRow) : JsString := JsString.ofString "auto-retry-" ++ wake.id

/-- What a row's claim hands to `acquireLease`. -/
def wakeLease (missionRunId : Option JsString) (ownerId : JsString) : AcquireInput where
  missionRunId := missionRunId
  ownerId := ownerId
  processKind := .electronMain
  ttlMs := leaseTtlMs

/-- `handleAgentSessionClaimed`, to its claim. -/
def handleAgentSessionClaimed (db : Database) (now tickNow : Instant) (wake : WakeRow) :
    Database × PassPhase :=
  let claim := claimSessionWakeAtomically db now tickNow wake.id
    (wakeLease none (wakeExecutorOwner wake))
  (claim.1, if claim.2 = .claimed then .claimed wake (wakeExecutorOwner wake) else .next)

/-- `handleClaimed` of a run's row, to the routing on what was read. -/
def routeWake (wake : WakeRow) : Option MissionRun → PassPhase
  | none => .next
  | some run =>
    if wake.autoRetry then
      if run.status ≠ .pausedError then .next else .retrying wake
    else if run.status ≠ .pausedWake then .next
    else .checked wake

/-- `handleClaimed`, to the claim of a session's row or to the read of a run. A call that throws is
caught by `tick`, which goes on to the next row. -/
def handleClaimed (db : Database) (now tickNow : Instant) (wake : WakeRow) (throws : Bool) :
    Database × PassPhase :=
  if throws then (db, .next)
  else
    match wake.missionRunId with
    | none => handleAgentSessionClaimed db now tickNow wake
    | some runId => (db, routeWake wake (db.runs runId))

def claimHandled (db : Database) (wake : WakeRow) (ownerId : JsString) (throws : Bool) :
    Except Refusal Database → Database × PassPhase
  | .ok claimed => if throws then (db, .next) else (claimed, .claimed wake ownerId)
  | .error _ => (db, .next)

/-- `claimRunLeaseAndFlipToRunning` of a row whose run sleeps. -/
def claimSleeping (db : Database) (now : Instant) (wake : WakeRow) (runId : JsString) :
    Except Refusal Database :=
  claimRunLeaseAndFlipToRunning db now wake.sessionId runId [.pausedWake]
    (wakeLease (some runId) (wakeExecutorOwner wake))

/-- `claimRunForAutoRetry` of a row whose run is in error. -/
def claimFailed (db : Database) (now : Instant) (wake : WakeRow) (runId : JsString) :
    Except Refusal Database :=
  claimRunForAutoRetry db now wake.sessionId runId wake.attempt
    (wakeLease (some runId) (autoRetryOwner wake))

/-- `releaseLease` of the handle, unless it fails. -/
def Database.release (db : Database) (sessionId ownerId : JsString) (throws : Bool) : Database :=
  if throws then db
  else
    { db with
      leases := Function.update db.leases sessionId
        ((db.leases sessionId).filter fun row => !releaseLease ownerId row) }

def Database.putRun (db : Database) (runId : JsString) (run : MissionRun) : Database :=
  { db with runs := Function.update db.runs runId (some run) }

namespace World

variable (s : World)

/-- The pass is at another point, and the rows may have changed. -/
def move (p : Nat) (pass : Option Pass) (db : Database) : World :=
  { s with db := db, passes := Function.update s.passes p pass }

/-- `tick`, to `claimDue`. -/
def tick (p : Nat) (now : Instant) (limit : Nat) (locked : List JsString) : Option World :=
  match s.passes p with
  | some _ => none
  | none =>
    let claim := claimDue s.db.wakes now limit locked
    some (s.move p (some ⟨now, limit, .listing, claim.2⟩) { s.db with wakes := claim.1 })

def handle (p : Nat) (pass : Pass) (handled : Database × PassPhase) : World :=
  s.move p (some { pass with phase := handled.2 }) handled.1

/-- The next transaction of a pass. `throws` says that what it waits for throws: the statement,
the banner or the slice. -/
def advance (p : Nat) (now : Instant) (throws : Bool) : Option World :=
  match s.passes p with
  | none => none
  | some pass =>
    match pass.phase with
    | .listing =>
      some (s.move p (if throws then none
          else some { pass with
            phase := .next
            queue := pass.queue ++ listDueSessionScoped s.db.wakes pass.now pass.limit })
        s.db)
    | .next =>
      match pass.queue with
      | [] => some (s.move p none s.db)
      | wake :: rest => some (s.handle p { pass with queue := rest }
          (handleClaimed s.db now pass.now wake throws))
    | .checked wake =>
      match wake.missionRunId with
      | none => none
      | some runId => some (s.handle p pass
          (claimHandled s.db wake (wakeExecutorOwner wake) throws
            (claimSleeping s.db now wake runId)))
    | .retrying wake =>
      match wake.missionRunId with
      | none => none
      | some runId => some (s.handle p pass
          (claimHandled s.db wake (autoRetryOwner wake) throws (claimFailed s.db now wake runId)))
    | .claimed wake ownerId =>
      if throws then some (s.handle p pass (s.db, .releasing wake ownerId))
      else
        some { s.handle p pass (s.db, .slice wake ownerId) with
          started := s.started ++ [wake.id] }
    | .slice wake ownerId => some (s.handle p pass (s.db, .releasing wake ownerId))
    | .releasing wake ownerId =>
      some (s.handle p pass (s.db.release wake.sessionId ownerId throws, .next))

/-! ## The others -/

/-- `enqueue`, by a run that defers, by a park or by a retry that is scheduled. -/
def enqueue (id : JsString) (input : EnqueueInput) : World :=
  { s with db := { s.db with wakes := (Runtime.enqueue s.db.wakes input id).1 } }

def setWakes (wakes : WakeTable) : World := { s with db := { s.db with wakes := wakes } }

/-- `updateStatusIfNotTerminal` to `paused_wake`. -/
def park (runId : JsString) : Option World :=
  match s.db.runs runId with
  | none => none
  | some run =>
    if run.status.Terminal then none
    else some { s with
      db := s.db.putRun runId
        { run with status := .pausedWake, stopReason := some .waitingForWake } }

/-- Another writer of the runs, to a status that is not `paused_wake`. -/
def writeRun (runId : JsString) (run : MissionRun) : Option World :=
  if run.status = .pausedWake then none else some { s with db := s.db.putRun runId run }

/-- `claimRunLeaseAndFlipToRunning` by whoever resumes a run. `recovers` says that the caller
cancels the wakes of the session in the same transaction. -/
def resume (now : Instant) (sessionId runId : JsString) (fromStatuses : List MissionRunStatus)
    (input : AcquireInput) (recovers : Bool) : Option World :=
  match claimRunLeaseAndFlipToRunning s.db now sessionId runId fromStatuses input with
  | .error _ => none
  | .ok claimed =>
    some { s with
      db := { claimed with
        wakes := if recovers then cancelForSession claimed.wakes sessionId
          else claimed.wakes } }

/-- `observeAndApplyControl` of a pause. -/
def pause (sessionId runId : JsString) : Option World :=
  match s.db.runs runId with
  | none => none
  | some run =>
    if run.status.Terminal then none
    else
      let paused := s.db.putRun runId
        { run with status := .pausedUser, stopReason := some .userPaused }
      some { s with
        db := { paused with
          wakes := if run.status = .pausedWake then cancelForSession s.db.wakes sessionId
            else s.db.wakes } }

/-- `applyUserStopWithClient` of a run: nothing is written where the run is missing or terminal. -/
def userStop (now : Instant) (sessionId runId : JsString) : Option World :=
  match s.db.runs runId with
  | none => none
  | some run =>
    if run.status.Terminal then none
    else
      let stopped := s.db.putRun runId { run with
          status := .stopped
          stopReason := some .userStopped
          endedAt := some now }
      some { s with
        db := { stopped with
          wakes := cancelForSession s.db.wakes sessionId
          leases := Function.update s.db.leases sessionId none } }

end World

inductive Act where
  | tick (p : Nat) (now : Instant) (limit : Nat) (locked : List JsString)
  | advance (p : Nat) (now : Instant) (throws : Bool)
  /-- The process of a pass dies. -/
  | crash (p : Nat)
  | enqueue (id : JsString) (input : EnqueueInput)
  | cancelForSession (sessionId : JsString)
  | cancelForegroundStoppedSessionWake (sessionId : JsString)
  | promotePendingWake (now : Instant) (wakeId : JsString)
  | park (runId : JsString)
  | writeRun (runId : JsString) (run : MissionRun)
  | resume (now : Instant) (sessionId runId : JsString) (fromStatuses : List MissionRunStatus)
      (input : AcquireInput) (recovers : Bool)
  | pause (sessionId runId : JsString)
  | userStop (now : Instant) (sessionId runId : JsString)
  /-- Another holder acquires, renews or releases the lease of a session. -/
  | writeLease (sessionId : JsString) (lease : Option RunnerLease)
  | writePermission (sessionId : JsString) (permission : Permission)

namespace World

def apply (s : World) : Act → Option World
  | .tick p now limit locked => s.tick p now limit locked
  | .advance p now throws => s.advance p now throws
  | .crash p => some (s.move p none s.db)
  | .enqueue id input => some (s.enqueue id input)
  | .cancelForSession sessionId => some (s.setWakes (Runtime.cancelForSession s.db.wakes sessionId))
  | .cancelForegroundStoppedSessionWake sessionId =>
    some (s.setWakes (Runtime.cancelForegroundStoppedSessionWake s.db.wakes sessionId))
  | .promotePendingWake now wakeId =>
    some (s.setWakes (Runtime.promotePendingWake s.db.wakes now wakeId))
  | .park runId => s.park runId
  | .writeRun runId run => s.writeRun runId run
  | .resume now sessionId runId fromStatuses input recovers =>
    s.resume now sessionId runId fromStatuses input recovers
  | .pause sessionId runId => s.pause sessionId runId
  | .userStop now sessionId runId => s.userStop now sessionId runId
  | .writeLease sessionId lease =>
    some { s with
      db := { s.db with leases := Function.update s.db.leases sessionId lease } }
  | .writePermission sessionId permission =>
    some { s with
      db := { s.db with permission := Function.update s.db.permission sessionId permission } }

def step : World → Act → World := orStay apply

end World

end Vex.Runtime
