import Vex.Library.Runs
import Vex.Library.Slot
import Vex.Approvals.Decisions
import Vex.Approvals.StudioGate

/-!
# The dispatch of an approved call

Everything that acts on one approval after it was enqueued: the decisions, the
calls that hold an approved row and try for its slot, the tool they invoke and
the outcome they commit, the passes that find a row unfinished, the refusals, the
reconcilers and the restart of the process. Each transaction is one event, and
events of any number of calls come in any order.

What a call does before its slot transaction (its lease, its context) only keeps
it from going on, so a call may leave at any point. An invocation, a refusal of a
call that had not started and every outcome that is committed are counted beside
the rows.
-/

namespace Vex.Approvals.Dispatch

open Vex.Library
open Vex.Runtime (Instant)

/-- Where a call of the approval runtime stands. -/
inductive Flight where
  | idle
  /-- It read the approved rows and has not tried for the slot. -/
  | approved
  /-- It has the slot, and the stop gate keeps it from dispatching. -/
  | stopped
  /-- It has the slot, under the generation that a Studio claim saw. -/
  | claimed (generation : Option Int)
  /-- The tool is running. -/
  | running
  /-- The call returned, threw, or was refused behind the claim. -/
  | returned (status : SettledStatus)
  /-- It rejected the approval and owes the agent the tool result. -/
  | rejecting
  deriving DecidableEq

/-- An invocation of the tool: the decision of the row when it was invoked, and the generation
that the claim saw. -/
structure Invocation where
  decision : Option ApprovalDecision
  claimedUnder : Option Int
  deriving DecidableEq

/-- The rows of one approval, the Studio gate, and who is at work on it. -/
structure World where
  row : Approval
  dispatchGeneration : Int
  flights : Nat → Flight
  invocations : List Invocation
  refusals : Nat
  records : List SettledStatus
  notices : Nat

inductive Event where
  | approve (flight : Nat) (now : Instant) (readings : Readings)
  | reject (flight : Nat) (now : Instant) (reason : JsString)
  | refusePending (now : Instant) (target : StudioRefusalTarget) (reason : StudioPendingRefusalReason)
  | stopPending (now : Instant) (sessionId : JsString)
  | resume (flight : Nat)
  | claimSlot (flight : Nat) (now : Instant) (stopped : Bool)
  | studioGate (flight : Nat) (now : Instant) (stopped : Bool) (project : Option Project)
      (expectedScopeVersion : Int)
  | refuseCall (flight : Nat)
  | invoke (flight : Nat)
  | returns (flight : Nat) (status : SettledStatus)
  | settle (flight : Nat) (unprovable : Bool) (resultHash settlement : Option JsString)
      (resultMessageId : Nat)
  | leave (flight : Nat)
  | refuseUnstarted (reason : ApprovalRefusalReason) (cause : StudioRefusalCause)
  | resolveAbandoned (now : Instant) (leaseExpiresAt : Option Instant) (resultMessageId : Nat)
  | markStudioIndeterminate (settlement resultHash : Option JsString)
  | repairDesk (resultHash : Option JsString)
  | markDeskAbandoned (startedBefore : Instant)
  | recordRejection (flight : Nat) (resultMessageId : Nat)
  | advanceGeneration
  | restart

namespace World

variable (codec : SettlementCodec) (w : World)

def fly (flight : Nat) (at_ : Flight) : World :=
  { w with flights := Function.update w.flights flight at_ }

def write (intent : ApprovalIntent) : World := { w with row := { w.row with intent := intent } }

def record (status : SettledStatus) (intent : ApprovalIntent) : World :=
  { w.write intent with records := w.records ++ [status] }

/-- The call that rejected an approval owes the agent a tool result; nobody else is owed one. -/
def owed (row : Approval) : Flight := if row.intent.origin = .agent then .rejecting else .idle

def approve (flight : Nat) (now : Instant) (readings : Readings) : World :=
  if w.flights flight ≠ .idle then w
  else
    match buildApproveSnapshot readings now w.row with
    | .error _ => w
    | .ok (.approvedInTx .., row) => { w with row := row }.fly flight .approved
    | .ok (.expiredInTx .., row) => { w with row := row }.fly flight (owed row)
    | .ok (.policyDriftBlocked .., row) => { w with row := row }.fly flight (owed row)
    | .ok (_, row) => { w with row := row }

/-- The rows and the call after a reject or an expiry. -/
def reject (flight : Nat) (now : Instant) (reason : JsString) : World :=
  if w.flights flight ≠ .idle then w
  else
    match buildRejectSnapshot now reason w.row with
    | .error _ => w
    | .ok (.rejectedInTx .., row) => { w with row := row }.fly flight (owed row)
    | .ok (_, row) => { w with row := row }

/-- `applyResumableLifecycleRow` and the desk's recovery, which dispatch a row they find approved
and not started. -/
def resume (flight : Nat) : World :=
  if w.flights flight = .idle ∧ w.row.intent.origin ≠ .studioMcp
      ∧ w.row.intent.decision = some .approved ∧ w.row.intent.executionStatus = .notStarted then
    w.fly flight .approved
  else w

/-- `claimDispatchSlotUnderStopGate`: the slot is claimed also where the gate stops the call. -/
def claimSlot (flight : Nat) (now : Instant) (stopped : Bool) : World :=
  if w.flights flight = .approved ∧ w.row.intent.origin ≠ .studioMcp then
    match casMarkDispatchingWith now w.row.intent with
    | none => w.fly flight .idle
    | some claimed =>
      if stopped then
        { (w.write claimed).fly flight .stopped with refusals := w.refusals + 1 }
      else (w.write claimed).fly flight (.claimed none)
  else w

/-- The gate of a Studio dispatch; a call whose slot was lost refuses the row next. -/
def studioGate (flight : Nat) (now : Instant) (stopped : Bool) (project : Option Project)
    (expectedScopeVersion : Int) : World :=
  if w.flights flight = .approved ∧ w.row.intent.origin = .studioMcp then
    match runStudioDispatchGate codec now stopped w.dispatchGeneration project expectedScopeVersion
      w.row.intent with
    | (.claimed, claimed) => (w.write claimed).fly flight (.claimed (some w.dispatchGeneration))
    | (.refused _ _ true, refused) =>
      { (w.record .failed refused).fly flight .idle with refusals := w.refusals + 1 }
    | (_, _) => w.fly flight .idle
  else w

/-- The refusal of a Studio row that has not started: by its call, by the repair of that write, or
at the start of a process. -/
def refuseUnstarted (reason : ApprovalRefusalReason) (cause : StudioRefusalCause) : World :=
  match Approvals.refuseUnstarted codec reason cause w.row.intent with
  | (.refused _ _ true, refused) =>
    { w.record .failed refused with refusals := w.refusals + 1 }
  | _ => w

/-- A check behind the claim refuses the call: its identity, its digest, its card. -/
def refuseCall (flight : Nat) : World :=
  match w.flights flight with
  | .claimed _ => { w.fly flight (.returned .failed) with refusals := w.refusals + 1 }
  | _ => w

def invoke (flight : Nat) : World :=
  match w.flights flight with
  | .claimed generation =>
    { w.fly flight .running with
      invocations := w.invocations ++ [⟨w.row.intent.decision, generation⟩] }
  | _ => w

def returns (flight : Nat) (status : SettledStatus) : World :=
  if w.flights flight = .running then w.fly flight (.returned status) else w

/-- The statement an outcome of the origin is committed with. -/
def settlement (status : SettledStatus) (resultHash settlement : Option JsString)
    (resultMessageId : Nat) (intent : ApprovalIntent) : IntentCas :=
  match intent.origin, status with
  | .agent, status => commitExecutionResultWith intent status resultHash resultMessageId
  | .desk, status => commitDeskSettlementWith intent status resultHash
  | .studioMcp, .indeterminate => casMarkIndeterminateWithSettlementWith intent settlement resultHash
  | .studioMcp, status => commitStudioSettlementWith intent status resultHash settlement none

/-- The status a call records: what it came back with, and `indeterminate` where the write of
that failed for a call of the desk or of Studio. -/
def recorded (origin : ApprovalOrigin) (unprovable : Bool) (status : SettledStatus) : SettledStatus :=
  if unprovable ∧ origin ≠ .agent then .indeterminate else status

/-- The call commits its outcome, or finds that the row left `dispatching`. -/
def settleAs (flight : Nat) (status : SettledStatus) (resultHash body : Option JsString)
    (resultMessageId : Nat) : World :=
  match settlement status resultHash body resultMessageId w.row.intent with
  | none => w.fly flight .idle
  | some settled => (w.record status settled).fly flight .idle

def settle (flight : Nat) (unprovable : Bool) (resultHash body : Option JsString)
    (resultMessageId : Nat) : World :=
  match w.flights flight with
  | .stopped => w.settleAs flight .failed resultHash body resultMessageId
  | .returned status =>
    w.settleAs flight (recorded w.row.intent.origin unprovable status) resultHash body
      resultMessageId
  | _ => w

/-- Another writer settles a dispatch as indeterminate. -/
def abandon : IntentCas → World
  | none => w
  | some written => w.record .indeterminate written

/-- The reconciler resolves a dispatch of the agent that it finds abandoned. -/
def resolveAbandoned (now : Instant) (leaseExpiresAt : Option Instant) (resultMessageId : Nat) :
    World :=
  if w.row.intent.origin = .agent ∧ w.row.intent.decision = some .approved then
    w.abandon (resolveAbandonedDispatch now leaseExpiresAt resultMessageId w.row.intent)
  else w

/-- `commitDecisionToolResult` of a rejection. -/
def recordRejection (flight : Nat) (resultMessageId : Nat) : World :=
  if w.flights flight = .rejecting then
    { (w.write (attachResultMessageWith w.row.intent resultMessageId)).fly flight .idle with
      notices := w.notices + 1 }
  else w

def step : Event → World
  | .approve flight now readings => w.approve flight now readings
  | .reject flight now reason => w.reject flight now reason
  | .refusePending now target reason =>
    { w with row := refusePendingStudioIntent now target reason w.row }
  | .stopPending now sessionId => { w with row := rejectPendingApproval now sessionId w.row }
  | .resume flight => w.resume flight
  | .claimSlot flight now stopped => w.claimSlot flight now stopped
  | .studioGate flight now stopped project expectedScopeVersion =>
    w.studioGate codec flight now stopped project expectedScopeVersion
  | .refuseCall flight => w.refuseCall flight
  | .invoke flight => w.invoke flight
  | .returns flight status => w.returns flight status
  | .settle flight unprovable resultHash body resultMessageId =>
    w.settle flight unprovable resultHash body resultMessageId
  | .leave flight => w.fly flight .idle
  | .refuseUnstarted reason cause => w.refuseUnstarted codec reason cause
  | .resolveAbandoned now leaseExpiresAt resultMessageId =>
    w.resolveAbandoned now leaseExpiresAt resultMessageId
  | .markStudioIndeterminate body resultHash =>
    w.abandon (casMarkIndeterminateWithSettlementWith w.row.intent body resultHash)
  | .repairDesk resultHash =>
    w.abandon (commitDeskSettlementWith w.row.intent .indeterminate resultHash)
  | .markDeskAbandoned startedBefore =>
    w.abandon (markAbandonedDeskDispatchIndeterminate w.row.intent startedBefore)
  | .recordRejection flight resultMessageId => w.recordRejection flight resultMessageId
  | .advanceGeneration => { w with dispatchGeneration := w.dispatchGeneration + 1 }
  | .restart => { w with flights := fun _ => .idle }

end World

/-- The rows as they were enqueued, and nobody at work on them. -/
def enqueuedWorld (row : Approval) (dispatchGeneration : Int) : World where
  row := row
  dispatchGeneration := dispatchGeneration
  flights _ := .idle
  invocations := []
  refusals := 0
  records := []
  notices := 0

/-! ## The slot of an approval -/

def slotPhase : ApprovalExecutionStatus → SlotPhase SettledStatus
  | .notStarted => .free
  | .dispatching => .taken
  | .succeeded => .settled .succeeded
  | .failed => .settled .failed
  | .indeterminate => .settled .indeterminate

theorem slotPhase_settled (status : SettledStatus) :
    slotPhase status.executionStatus = .settled status := by
  cases status <;> rfl

variable {status : ApprovalExecutionStatus}

theorem slotPhase_eq_free : slotPhase status = .free ↔ status = .notStarted := by
  cases status <;> simp [slotPhase]

theorem slotPhase_eq_settled {settled : SettledStatus} :
    slotPhase status = .settled settled ↔ status = settled.executionStatus := by
  cases status <;> cases settled <;> simp [slotPhase, SettledStatus.executionStatus]

def World.slot (w : World) : Slot Nat SettledStatus where
  phase := slotPhase w.row.intent.executionStatus
  Ready a := ∃ generation, w.flights a = .claimed generation
  uses := w.invocations.length
  refusals := w.refusals
  records := w.records.length

end Vex.Approvals.Dispatch
