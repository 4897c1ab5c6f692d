import Vex.Library.Table
import Vex.Runtime.LeaseClaims

/-!
# Wake requests

The rows of `loop_wake_requests` and the transactions on them. A row that names a run wakes
that run, and a row that names none continues its session. A row goes from `pending` to
`consumed` or to `cancelled` and is never pending again; a session has at most one pending
row, which the insert asks for.

A transaction is one step here, given its moment and which rows other transactions hold
locked. A claim that throws is rolled back, so it is no answer of these functions.
-/

namespace Vex.Runtime

open Vex.Library

/-- `LoopWakeStatus`. -/
inductive WakeStatus where
  | pending
  | consumed
  | cancelled
  deriving DecidableEq

/-- `LoopWakeRequest`. Of the payload, whether its trigger is `AUTO_RETRY_WAKE_TRIGGER`, and its
attempt where that is a number. -/
structure WakeRow where
  id : JsString
  sessionId : JsString
  missionRunId : Option JsString
  dueAt : Instant
  status : WakeStatus
  autoRetry : Bool
  attempt : Option Nat
  deriving DecidableEq

abbrev WakeTable := Table WakeRow.id

structure EnqueueInput where
  sessionId : JsString
  missionRunId : Option JsString
  dueAt : Instant
  autoRetry : Bool
  attempt : Option Nat

/-- The row that is inserted, under an id that is generated. -/
def EnqueueInput.row (input : EnqueueInput) (id : JsString) : WakeRow where
  id := id
  sessionId := input.sessionId
  missionRunId := input.missionRunId
  dueAt := input.dueAt
  status := .pending
  autoRetry := input.autoRetry
  attempt := input.attempt

/-! ## Statements -/

def getPendingForSession (wakes : WakeTable) (sessionId : JsString) : Option WakeRow :=
  wakes.rows.find? fun row => row.sessionId = sessionId && row.status = .pending

/-- `enqueue`: nothing is inserted where the session has a pending row. -/
def enqueue (wakes : WakeTable) (input : EnqueueInput) (id : JsString) :
    WakeTable × Option WakeRow :=
  if (getPendingForSession wakes input.sessionId).isSome || (wakes.find? id).isSome then (wakes, none)
  else (wakes.put (input.row id), some (input.row id))

/-- The pending rows of a kind are given another status. -/
def WakeRow.settle (which : WakeRow → Bool) (status : WakeStatus) (row : WakeRow) : WakeRow :=
  if row.status = .pending ∧ which row = true then { row with status := status } else row

theorem WakeRow.settle_id (which : WakeRow → Bool) (status : WakeStatus) (row : WakeRow) :
    (row.settle which status).id = row.id := by
  unfold WakeRow.settle
  split <;> rfl

def settle (wakes : WakeTable) (which : WakeRow → Bool) (status : WakeStatus) : WakeTable :=
  wakes.rewrite (WakeRow.settle which status) (WakeRow.settle_id which status)

/-- `CANCEL_PENDING_FOR_SESSION_SQL`, with which the claims and the stops cancel too. -/
def cancelForSession (wakes : WakeTable) (sessionId : JsString) : WakeTable :=
  settle wakes (·.sessionId = sessionId) .cancelled

def cancelForegroundStoppedSessionWake (wakes : WakeTable) (sessionId : JsString) : WakeTable :=
  settle wakes (fun row => row.sessionId = sessionId && row.missionRunId.isNone) .cancelled

/-- The pending rows that are due, of runs or of sessions, the earliest first. -/
def dueRows (wakes : WakeTable) (now : Instant) (ofRuns : Bool) : List WakeRow :=
  (wakes.rows.filter fun row =>
    row.status = .pending && row.dueAt ≤ now && row.missionRunId.isSome = ofRuns).mergeSort
    fun row other => row.dueAt ≤ other.dueAt

/-- The rows `claimDue` takes: those that another transaction holds locked are skipped. -/
def pickDue (wakes : WakeTable) (now : Instant) (limit : Nat) (locked : List JsString) :
    List WakeRow :=
  ((dueRows wakes now true).filter fun row => row.id ∉ locked).take limit

def claimDue (wakes : WakeTable) (now : Instant) (limit : Nat) (locked : List JsString) :
    WakeTable × List WakeRow :=
  let picked := pickDue wakes now limit locked
  (settle wakes (fun row => row ∈ picked) .consumed,
    picked.map fun row => { row with status := .consumed })

def listDueSessionScoped (wakes : WakeTable) (now : Instant) (limit : Nat) : List WakeRow :=
  (dueRows wakes now false).take limit

def lockDueSessionScopedWith (wakes : WakeTable) (wakeId : JsString) (now : Instant) :
    Option WakeRow :=
  (wakes.find? wakeId).filter fun row =>
    row.status = .pending && row.missionRunId.isNone && row.dueAt ≤ now

def consumeLockedWith (wakes : WakeTable) (wakeId : JsString) : WakeTable :=
  settle wakes (·.id = wakeId) .consumed

/-- The row with another deadline, if it is pending. -/
def WakeRow.postpone (wakeId : JsString) (dueAt : Instant) (attempt : Option Nat) (row : WakeRow) :
    WakeRow :=
  if row.id = wakeId ∧ row.status = .pending then
    { row with dueAt := dueAt, attempt := attempt <|> row.attempt }
  else row

def deferLockedWith (wakes : WakeTable) (wakeId : JsString) (dueAt : Instant) (attempt : Nat) :
    WakeTable :=
  wakes.rewrite (WakeRow.postpone wakeId dueAt (some attempt)) fun row => by
    unfold WakeRow.postpone
    split <;> rfl

/-- `promotePendingWake` of a row that its watch matches. -/
def promotePendingWake (wakes : WakeTable) (now : Instant) (wakeId : JsString) : WakeTable :=
  wakes.rewrite (fun row => row.postpone wakeId (min row.dueAt now) none) fun row => by
    unfold WakeRow.postpone
    split <;> rfl

/-! ## Claims -/

/-- The rows the claims read and write. -/
structure Database where
  wakes : WakeTable
  runs : JsString → Option MissionRun
  leases : JsString → Option RunnerLease
  permission : JsString → Permission

def leaseRefusal (now : Instant) (ownerId : JsString) : Option RunnerLease → Option Refusal
  | none => none
  | some lease => if leaseBusy now ownerId lease then some (.leaseBusy lease) else none

variable (db : Database) (now : Instant)

def Database.lease (sessionId : JsString) (input : AcquireInput) : Database :=
  { db with
    leases := Function.update db.leases sessionId (acquireLease now input (db.leases sessionId)) }

def Database.setStatus (runId : JsString) (status : MissionRunStatus) : Database :=
  { db with
    runs := Function.update db.runs runId
      ((db.runs runId).map fun run => { run with status := status }) }

def Database.Is (runId : JsString) (status : MissionRunStatus) : Prop :=
  (db.runs runId).map (·.status) = some status

instance (runId : JsString) (status : MissionRunStatus) : Decidable (db.Is runId status) :=
  inferInstanceAs (Decidable (_ = _))

def claimRunLeaseAndFlipToRunning (sessionId runId : JsString)
    (fromStatuses : List MissionRunStatus) (input : AcquireInput) : Except Refusal Database :=
  match runRefusal fromStatuses (db.runs runId) with
  | some refusal => .error refusal
  | none =>
    match leaseRefusal now input.ownerId (db.leases sessionId) with
    | some refusal => .error refusal
    | none =>
      .ok ({ db with
        wakes := if db.Is runId .pausedWake then cancelForSession db.wakes sessionId
          else db.wakes }.setStatus runId .running |>.lease now sessionId input)

/-- `claimRunForAutoRetry`: an attempt that is no number is `-1`, which no run counts. -/
def claimRunForAutoRetry (sessionId runId : JsString) (expectedAttempt : Option Nat)
    (input : AcquireInput) : Except Refusal Database :=
  match expectedAttempt with
  | none => .error (.ineligible .attemptMismatch)
  | some attempt =>
    match autoRetryRefusal sessionId attempt (db.permission sessionId) (db.runs runId) with
    | some refusal => .error refusal
    | none =>
      match leaseRefusal now input.ownerId (db.leases sessionId) with
      | some refusal => .error refusal
      | none => .ok ((db.setStatus runId .running).lease now sessionId input)

def readAttempt (wake : WakeRow) : Nat := wake.attempt.getD 0

def sessionWakeRetryBaseMs : Nat := 5000

def sessionWakeRetryMaxMs : Nat := 60000

def backoffDelayMs (attempt : Nat) : Nat :=
  min (sessionWakeRetryBaseMs * 2 ^ (attempt - 1)) sessionWakeRetryMaxMs

inductive ClaimSessionWakeOutcome where
  | claimed
  | leaseBusy (attempt : Nat) (dueAt : Instant)
  | notClaimable
  deriving DecidableEq

/-- `claimSessionWakeAtomically`; `tickNow` is the moment of the pass. -/
def claimSessionWakeAtomically (tickNow : Instant) (wakeId : JsString) (input : AcquireInput) :
    Database × ClaimSessionWakeOutcome :=
  match lockDueSessionScopedWith db.wakes wakeId tickNow with
  | none => (db, .notClaimable)
  | some locked =>
    match leaseRefusal now input.ownerId (db.leases locked.sessionId) with
    | some _ =>
      let attempt := readAttempt locked + 1
      let dueAt := tickNow + backoffDelayMs attempt
      ({ db with wakes := deferLockedWith db.wakes locked.id dueAt attempt },
        .leaseBusy attempt dueAt)
    | none =>
      ({ db with wakes := consumeLockedWith db.wakes locked.id }.lease now locked.sessionId
        input, .claimed)

end Vex.Runtime
