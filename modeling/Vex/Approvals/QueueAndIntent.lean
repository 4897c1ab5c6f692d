import Vex.Library.Runs
import Vex.Approvals.Decisions

/-!
# The queue and the intent

Every path that decides an approval writes the queue and the intent, except the
operator's stop, which rejects the pending rows of the queue and leaves their
intents undecided. As long as no stop finds an approval pending in its session
the two sides agree (`decisions_agree`): no decision call finds them apart, and
whatever is undecided can still be rejected. A stop that finds one breaks the
agreement (`rejectPendingApproval_agrees_iff`), and from then on every decision
path reports the approval as impossible.
-/

namespace Vex.Approvals

open Vex.Library
open Vex.Runtime (Instant Permission MissionRun MissionRunStatus)

/-! ## The tables and the transactions on them -/

/-- The tables that decisions read and write. -/
structure World where
  approvals : ApprovalTable
  runs : Table MissionRun.id
  permissions : JsString → Permission
  projects : JsString → Option Project
  /-- A session-scoped stop request is open. -/
  sessionStopOpen : JsString → Bool

namespace World

variable (w : World)

/-- `getRunBySession`: the run of the session that started last. -/
def getRunBySession (sessionId : JsString) : Option MissionRun :=
  (w.runs.rows.filter fun run => run.sessionId = sessionId).foldl
    (fun latest run =>
      match latest with
      | none => some run
      | some other => if other.startedAt < run.startedAt then some run else some other)
    none

def ActiveRun (sessionId : JsString) : Prop :=
  ∃ run ∈ w.runs.rows, run.sessionId = sessionId ∧ ¬ run.status.Terminal

instance (sessionId : JsString) : Decidable (w.ActiveRun sessionId) :=
  inferInstanceAs (Decidable (∃ run ∈ w.runs.rows, _))

def Stoppable (id : JsString) : Prop := ∃ run, w.runs.find? id = some run ∧ ¬ run.status.Terminal

/-- What an approve of the rows reads besides them. -/
def readings (row : Approval) : Readings where
  sessionPermissionLive := w.permissions row.intent.sessionId
  recentRun := w.getRunBySession row.intent.sessionId
  project := row.intent.projectId.bind w.projects

/-- Run a snapshot builder on the rows of an approval, in a transaction of its own. -/
def decideWith {Snapshot : Type} (approvalId : JsString) (notFound : Snapshot)
    (build : Approval → Except ApprovalDecisionInconsistencyError (Snapshot × Approval)) :
    Except ApprovalDecisionInconsistencyError (Snapshot × World) :=
  match w.approvals.find? approvalId with
  | none => .ok (notFound, w)
  | some row =>
    match build row with
    | .error raised => .error raised
    | .ok (snapshot, row) => .ok (snapshot, { w with approvals := w.approvals.put row })

/-- The decision of `prepareApprove`. -/
def prepareApprove (now : Instant) (approvalId : JsString) :=
  w.decideWith approvalId .notFound fun row => buildApproveSnapshot (w.readings row) now row

/-- The decision of `prepareReject`. -/
def prepareReject (now : Instant) (approvalId reason : JsString) :=
  w.decideWith approvalId .notFound (buildRejectSnapshot now reason)

/-- The decision of `expireApproval`, called inline or by the sweep. -/
def expireApproval (now : Instant) (approvalId : JsString) :=
  w.prepareReject now approvalId toolResultExpiredReason

/-- The rows that `getExpired` gives to the sweep. -/
def getExpired (now : Instant) : List Approval :=
  w.approvals.rows.filter fun row =>
    row.intent.expiresAt.any (· < now) && row.intent.decision = none &&
      row.queue.status = .pending

def refusePendingStudioIntents (now : Instant) (target : StudioRefusalTarget)
    (reason : StudioPendingRefusalReason) : World :=
  { w with
    approvals := w.approvals.rewrite (refusePendingStudioIntent now target reason) (by
      intro row
      unfold refusePendingStudioIntent
      split
      · split
        · rfl
        · split <;> rfl
      · rfl) }

def rejectPendingApprovalsWithClient (now : Instant) (sessionId : JsString) : World :=
  { w with
    approvals := w.approvals.rewrite (rejectPendingApproval now sessionId) (by
      intro row
      unfold rejectPendingApproval
      split
      · split <;> rfl
      · rfl) }

/-- `applyUserStopWithClient`, which the stop for an edit also runs. -/
def applyUserStopWithClient (now : Instant) (sessionId runId : JsString) : World :=
  match w.runs.find? runId with
  | none => w
  | some run =>
    if run.status.Terminal then w
    else
      { w.rejectPendingApprovalsWithClient now sessionId with
        runs := w.runs.put { run with
          status := .stopped
          stopReason := some .userStopped
          endedAt := some now } }

def applySessionStopWithClient (now : Instant) (sessionId : JsString) : World :=
  { w.rejectPendingApprovalsWithClient now sessionId with
    sessionStopOpen := fun id => if id = sessionId then false else w.sessionStopOpen id }

/-- `enqueueSessionStopRequest`; the request is retained where something will observe it. -/
def enqueueSessionStopRequest (now : Instant) (sessionId : JsString) (retained : Bool) : World :=
  if w.ActiveRun sessionId ∨ w.sessionStopOpen sessionId = true then w
  else
    { w.rejectPendingApprovalsWithClient now sessionId with
      sessionStopOpen := fun id => if id = sessionId then retained else w.sessionStopOpen id }

/-- `reject` of the queue's repository, as `rejectPendingApprovalsForSession` calls it for each
approval of an aborted run's session. -/
def rejectQueueRow (now : Instant) (approvalId : JsString) : World :=
  match w.approvals.find? approvalId with
  | none => w
  | some row =>
    match rejectWith now row.queue with
    | none => w
    | some item => { w with approvals := w.approvals.put { row with queue := item } }

end World

inductive Event where
  | enqueue (now : Instant) (approvalId : JsString) (input : EnqueueApprovalInput)
      (verdict : EnqueueGateVerdict)
  | approve (now : Instant) (approvalId : JsString)
  | reject (now : Instant) (approvalId reason : JsString)
  | expire (now : Instant) (approvalId : JsString)
  | refuse (now : Instant) (target : StudioRefusalTarget) (reason : StudioPendingRefusalReason)
  | userStop (now : Instant) (sessionId runId : JsString)
  | stopForEdit (now : Instant) (sessionId runId : JsString)
  | sessionStop (now : Instant) (sessionId : JsString)
  | enqueueSessionStop (now : Instant) (sessionId : JsString) (retained : Bool)
  | abortReject (now : Instant) (approvalId : JsString)
  /-- Other writers of the runs, the permissions and the projects commit. -/
  | otherWrite (runs : Table MissionRun.id) (permissions : JsString → Permission)
      (projects : JsString → Option Project)

namespace World

variable (w : World)

/-- The world after a decision call: one that throws is rolled back. -/
def after {Snapshot : Type}
    (result : Except ApprovalDecisionInconsistencyError (Snapshot × World)) : World :=
  match result with
  | .ok (_, w') => w'
  | .error _ => w

def step : Event → World
  | .enqueue now approvalId input verdict =>
    match w.approvals.find? approvalId, enqueueApprovalIntentWithGate now approvalId input verdict with
    | none, some row => { w with approvals := w.approvals.put row }
    | _, _ => w
  | .approve now approvalId => w.after (w.prepareApprove now approvalId)
  | .reject now approvalId reason => w.after (w.prepareReject now approvalId reason)
  | .expire now approvalId => w.after (w.expireApproval now approvalId)
  | .refuse now target reason => w.refusePendingStudioIntents now target reason
  | .userStop now sessionId runId => w.applyUserStopWithClient now sessionId runId
  | .stopForEdit now sessionId runId => w.applyUserStopWithClient now sessionId runId
  | .sessionStop now sessionId => w.applySessionStopWithClient now sessionId
  | .enqueueSessionStop now sessionId retained => w.enqueueSessionStopRequest now sessionId retained
  | .abortReject now approvalId => w.rejectQueueRow now approvalId
  | .otherWrite runs permissions projects =>
    { w with runs := runs, permissions := permissions, projects := projects }

def NonePending (sessionId : JsString) : Prop :=
  ∀ row ∈ w.approvals.rows, ¬ row.PendingIn sessionId

/-- A stop that is applied finds no approval pending in its session. -/
def StopsNothingPending (w : World) : Event → Prop
  | .userStop _ sessionId runId => w.Stoppable runId → w.NonePending sessionId
  | .stopForEdit _ sessionId runId => w.Stoppable runId → w.NonePending sessionId
  | .sessionStop _ sessionId => w.NonePending sessionId
  | .enqueueSessionStop _ sessionId _ =>
    ¬ (w.ActiveRun sessionId ∨ w.sessionStopOpen sessionId = true) → w.NonePending sessionId
  | .abortReject _ approvalId =>
    ∀ row, w.approvals.find? approvalId = some row → row.queue.status ≠ .pending
  | _ => True

end World

/-! ## One approval -/

/-- The two sides of an approval agree about its decision. -/
structure Approval.Agrees (row : Approval) : Prop where
  pending : row.queue.status = .pending ↔ row.intent.decision = none
  approved : row.queue.status = .approved ↔ row.intent.decision = some .approved
  rejected : row.queue.status = .rejected ↔
    row.intent.decision = some .rejected ∨ row.intent.decision = some .rejectedStop

variable {row : Approval}

theorem agrees_of_rejected (queue : row.queue.status = .rejected)
    (intent : row.intent.decision = some .rejected ∨ row.intent.decision = some .rejectedStop) :
    row.Agrees := by
  constructor <;> rcases intent with decided | decided <;> simp [queue, decided]

theorem rejectBoth_of_pending (agrees : row.Agrees) (pending : row.queue.status = .pending)
    (now : Instant) (path : String) (reason : JsString)
    (refusalReason : Option ApprovalRefusalReason) :
    ∃ decided, rejectBoth now row path reason refusalReason = .ok decided ∧ decided.Agrees
      ∧ decided.approvalId = row.approvalId ∧ decided.intent.decision = some .rejected := by
  have undecided := agrees.pending.mp pending
  unfold rejectBoth decideBoth
  rw [rejectWith_of_pending pending, markDecisionWith_of_undecided undecided]
  exact ⟨_, rfl, agrees_of_rejected rfl (Or.inl rfl), rfl, rfl⟩

theorem buildApproveSnapshot_agrees (agrees : row.Agrees) (readings : Readings) (now : Instant) :
    ∃ snapshot decided,
      buildApproveSnapshot readings now row = .ok (snapshot, decided) ∧ decided.Agrees
        ∧ decided.approvalId = row.approvalId := by
  unfold buildApproveSnapshot
  cases decision : row.intent.decision with
  | some given =>
    have resolved : row.queue.status ≠ .pending := by
      intro pending
      rw [agrees.pending.mp pending] at decision
      cases decision
    simp only [if_neg resolved]
    split_ifs with approved
    · exact ⟨_, row, rfl, agrees, rfl⟩
    · exact ⟨_, row, rfl, agrees, rfl⟩
  | none =>
    have pending := agrees.pending.mpr decision
    simp only [pending, ne_eq, not_true_eq_false, if_false]
    split
    case h_1 expiresAt _ =>
      obtain ⟨decided, rejected, agrees', same, -⟩ := rejectBoth_of_pending agrees pending now
        "expired-in-tx" toolResultExpiredReason (studioExpiryRefusalReason row.intent)
      refine ⟨.expiredInTx row expiresAt now, decided, ?_, agrees', same⟩
      rw [autoRejectInTx, rejected]
      rfl
    case h_2 =>
      split
      case h_1 runStatus _ => exact ⟨_, row, rfl, agrees, rfl⟩
      case h_2 =>
        split
        case h_1 drift _ =>
          obtain ⟨decided, rejected, agrees', same, -⟩ := rejectBoth_of_pending agrees
            pending now "policy-drift" toolResultPolicyDriftReason drift.refusalReason
          refine ⟨.policyDriftBlocked row now toolResultPolicyDriftReason
            row.queue.permissionAtEnqueue drift, decided, ?_, agrees', same⟩
          rw [policyDriftRejectInTx, rejected]
          rfl
        case h_2 =>
          unfold approveInTx decideBoth
          rw [approveWith_of_pending pending, markDecisionWith_of_undecided decision]
          exact ⟨_, _, rfl, by constructor <;> simp, rfl⟩

theorem buildRejectSnapshot_agrees (agrees : row.Agrees) (now : Instant) (reason : JsString) :
    ∃ snapshot decided,
      buildRejectSnapshot now reason row = .ok (snapshot, decided) ∧ decided.Agrees
        ∧ decided.approvalId = row.approvalId
        ∧ (row.intent.decision = none → snapshot = .rejectedInTx row now reason
          ∧ decided.intent.decision = some .rejected) := by
  unfold buildRejectSnapshot
  cases decision : row.intent.decision with
  | some given =>
    have resolved : row.queue.status ≠ .pending := by
      intro pending
      rw [agrees.pending.mp pending] at decision
      cases decision
    simp only [if_neg resolved]
    split_ifs with approved
    · exact ⟨_, row, rfl, agrees, rfl, nofun⟩
    · exact ⟨_, row, rfl, agrees, rfl, nofun⟩
  | none =>
    have pending := agrees.pending.mpr decision
    obtain ⟨decided, rejected, agrees', same, now'⟩ := rejectBoth_of_pending agrees pending now
      "reject" reason
      (if reason = toolResultExpiredReason then studioExpiryRefusalReason row.intent else none)
    refine ⟨.rejectedInTx row now reason, decided, ?_, agrees', same, fun _ => ⟨rfl, now'⟩⟩
    simp only [pending, ne_eq, not_true_eq_false, if_false, rejected]
    rfl

theorem refusePendingStudioIntent_agrees (agrees : row.Agrees) (now : Instant)
    (target : StudioRefusalTarget) (reason : StudioPendingRefusalReason) :
    (refusePendingStudioIntent now target reason row).Agrees := by
  unfold refusePendingStudioIntent
  split_ifs with covered
  case neg => exact agrees
  case pos =>
    have undecided : row.intent.decision = none := by
      simp only [StudioRefusalTarget.covers, Bool.and_eq_true, decide_eq_true_eq] at covered
      exact covered.1.2
    rw [rejectWith_of_pending (agrees.pending.mpr undecided),
      markDecisionWith_of_undecided undecided]
    exact agrees_of_rejected rfl (Or.inl rfl)

theorem rejectPendingApproval_agrees_iff (agrees : row.Agrees) (now : Instant)
    (sessionId : JsString) :
    (rejectPendingApproval now sessionId row).Agrees ↔ ¬ row.PendingIn sessionId := by
  unfold rejectPendingApproval
  split_ifs with pending
  case neg => exact iff_of_true agrees pending
  case pos =>
    rw [rejectWith_of_pending pending.2]
    refine iff_of_false ?_ (not_not_intro pending)
    intro apart
    have undecided := agrees.pending.mp pending.2
    rcases apart.rejected.mp rfl with decided | decided <;>
      · rw [undecided] at decided
        cases decided

theorem enqueue_agrees {now : Instant} {approvalId : JsString} {input : EnqueueApprovalInput}
    {verdict : EnqueueGateVerdict}
    (inserted : enqueueApprovalIntentWithGate now approvalId input verdict = some row) :
    row.Agrees := by
  cases verdict with
  | refused reason => cases inserted
  | clear dispatchGeneration =>
    cases inserted
    constructor <;> simp [enqueued]
  | autoRejected runStatus =>
    cases inserted
    exact agrees_of_rejected rfl (Or.inr rfl)

/-! ## Runs -/

namespace World

/-- The two sides of every approval agree. -/
def Agree (w : World) : Prop := ∀ row ∈ w.approvals.rows, row.Agrees

/-- What the agreement gives every decision call: it answers, and what is undecided it can still
decide. -/
structure Coherent (w : World) : Prop where
  agree : w.Agree
  approve : ∀ now approvalId, ∃ snapshot w', w.prepareApprove now approvalId = .ok (snapshot, w')
  reject : ∀ now approvalId reason, ∃ snapshot w',
    w.prepareReject now approvalId reason = .ok (snapshot, w')
  expire : ∀ now approvalId, ∃ snapshot w', w.expireApproval now approvalId = .ok (snapshot, w')
  undecided : ∀ row ∈ w.approvals.rows, row.intent.decision = none → ∀ now reason, ∃ w' decided,
    w.prepareReject now row.approvalId reason = .ok (.rejectedInTx row now reason, w')
      ∧ w'.approvals.find? row.approvalId = some decided
      ∧ decided.intent.decision = some .rejected

variable {w : World}

section
variable (agree : w.Agree)
include agree

theorem agree_put {row : Approval} (agrees : row.Agrees) :
    Agree { w with approvals := w.approvals.put row } := by
  intro other member
  rcases Table.mem_put.mp member with rfl | ⟨there, -⟩
  · exact agrees
  · exact agree other there

theorem decideWith_agree {Snapshot : Type} {approvalId : JsString} {notFound : Snapshot}
    {build : Approval → Except ApprovalDecisionInconsistencyError (Snapshot × Approval)}
    (keeps : ∀ row, row.Agrees → ∃ snapshot decided, build row = .ok (snapshot, decided)
      ∧ decided.Agrees) :
    ∃ snapshot w', w.decideWith approvalId notFound build = .ok (snapshot, w') ∧ w'.Agree := by
  unfold decideWith
  split
  case h_1 => exact ⟨notFound, w, rfl, agree⟩
  case h_2 row found =>
    obtain ⟨snapshot, decided, built, agrees⟩ := keeps row (agree row (Table.find?_eq_some.mp found).1)
    rw [built]
    exact ⟨snapshot, _, rfl, agree_put agree agrees⟩

theorem prepareApprove_agree (now : Instant) (approvalId : JsString) :
    ∃ snapshot w', w.prepareApprove now approvalId = .ok (snapshot, w') ∧ w'.Agree := by
  refine decideWith_agree agree ?_
  intro row agrees
  obtain ⟨snapshot, decided, built, agrees', -⟩ :=
    buildApproveSnapshot_agrees agrees (w.readings row) now
  exact ⟨snapshot, decided, built, agrees'⟩

theorem prepareReject_agree (now : Instant) (approvalId reason : JsString) :
    ∃ snapshot w', w.prepareReject now approvalId reason = .ok (snapshot, w') ∧ w'.Agree := by
  refine decideWith_agree agree ?_
  intro row agrees
  obtain ⟨snapshot, decided, built, agrees', -⟩ := buildRejectSnapshot_agrees agrees now reason
  exact ⟨snapshot, decided, built, agrees'⟩

theorem rejectPending_agree {sessionId : JsString} (none_ : w.NonePending sessionId) (now : Instant)
    :
    (w.rejectPendingApprovalsWithClient now sessionId).Agree := by
  intro row member
  obtain ⟨old, there, rfl⟩ := List.mem_map.mp member
  exact (rejectPendingApproval_agrees_iff (agree old there) now sessionId).mpr (none_ old there)

theorem userStop_agree {sessionId runId : JsString}
    (meets : w.Stoppable runId → w.NonePending sessionId) (now : Instant) :
    (w.applyUserStopWithClient now sessionId runId).Agree := by
  unfold applyUserStopWithClient
  split
  case h_1 => exact agree
  case h_2 run found =>
    split_ifs with terminal
    case pos => exact agree
    case neg => exact rejectPending_agree agree (meets ⟨run, found, terminal⟩) now

theorem step_agree {event : Event} (meets : w.StopsNothingPending event) :
    (w.step event).Agree := by
  cases event with
  | enqueue now approvalId input verdict =>
    unfold step
    dsimp only
    split
    case h_1 row _ inserted => exact agree_put agree (enqueue_agrees inserted)
    case h_2 => exact agree
  | approve now approvalId =>
    obtain ⟨snapshot, w', answered, agree'⟩ := prepareApprove_agree agree now approvalId
    rw [step, answered]
    exact agree'
  | reject now approvalId reason =>
    obtain ⟨snapshot, w', answered, agree'⟩ := prepareReject_agree agree now approvalId reason
    rw [step, answered]
    exact agree'
  | expire now approvalId =>
    obtain ⟨snapshot, w', answered, agree'⟩ :=
      prepareReject_agree agree now approvalId toolResultExpiredReason
    rw [step, expireApproval, answered]
    exact agree'
  | refuse now target reason =>
    intro row member
    obtain ⟨old, there, rfl⟩ := List.mem_map.mp member
    exact refusePendingStudioIntent_agrees (agree old there) now target reason
  | userStop now sessionId runId => exact userStop_agree agree meets now
  | stopForEdit now sessionId runId => exact userStop_agree agree meets now
  | sessionStop now sessionId => exact rejectPending_agree agree meets now
  | enqueueSessionStop now sessionId retained =>
    change (w.enqueueSessionStopRequest now sessionId retained).Agree
    unfold enqueueSessionStopRequest
    split_ifs with skipped
    case pos => exact agree
    case neg => exact rejectPending_agree agree (meets skipped) now
  | abortReject now approvalId =>
    change (w.rejectQueueRow now approvalId).Agree
    unfold rejectQueueRow
    split
    case h_1 => exact agree
    case h_2 row found =>
      rw [rejectWith, if_neg (meets row found)]
      exact agree
  | otherWrite runs permissions projects => exact agree

theorem Agree.coherent : w.Coherent where
  agree := agree
  approve := fun now approvalId => by
    obtain ⟨snapshot, w', answered, -⟩ := prepareApprove_agree agree now approvalId
    exact ⟨snapshot, w', answered⟩
  reject := fun now approvalId reason => by
    obtain ⟨snapshot, w', answered, -⟩ := prepareReject_agree agree now approvalId reason
    exact ⟨snapshot, w', answered⟩
  expire := fun now approvalId => by
    obtain ⟨snapshot, w', answered, -⟩ :=
      prepareReject_agree agree now approvalId toolResultExpiredReason
    exact ⟨snapshot, w', answered⟩
  undecided := by
    intro row member undecided now reason
    obtain ⟨snapshot, decided, built, -, same, decides⟩ :=
      buildRejectSnapshot_agrees (agree row member) now reason
    obtain ⟨rfl, rejected⟩ := decides undecided
    refine ⟨{ w with approvals := w.approvals.put decided }, decided, ?_, ?_, rejected⟩
    · rw [prepareReject, World.decideWith, Table.find?_eq_some.mpr ⟨member, rfl⟩]
      dsimp only
      rw [built]
    · rw [← same]
      exact Table.find?_put_self w.approvals decided

end

/-- The tables before any approval was made. -/
def initial (runs : Table MissionRun.id) (permissions : JsString → Permission)
    (projects : JsString → Option Project) : World where
  approvals := Table.empty
  runs := runs
  permissions := permissions
  projects := projects
  sessionStopOpen := fun _ => false

/-- **The queue and the intent agree** in every run in which no stop finds an approval pending in
its session: every decision call answers, and whatever is undecided can be decided. -/
theorem decisions_agree (runs : Table MissionRun.id) (permissions : JsString → Permission)
    (projects : JsString → Option Project) {events : List Event}
    (meets : Along step StopsNothingPending (initial runs permissions projects) events) :
    (run step (initial runs permissions projects) events).Coherent :=
  (Along.induction (motive := Agree) (fun _ _ meets agree => step_agree agree meets) (by
    intro row member
    cases member) meets).coherent

/-! ## A stop that finds an approval pending -/

def waiting : MissionRun where
  id := JsString.ofString "run"
  missionId := JsString.ofString "mission"
  sessionId := JsString.ofString "session"
  status := .pausedApproval
  startedAt := 0
  endedAt := none
  stopReason := none
  errorRetryCount := 0
  autoRetryUnsafe := false
  autoRetryEnabled := false

def transferApproval : EnqueueApprovalInput where
  sessionId := JsString.ofString "session"
  missionRunId := some (JsString.ofString "run")
  permission := .restricted
  origin := .agent
  projectId := none
  scopeVersion := none
  expiresAt := 3600000

def oneRun : World :=
  initial (Table.empty.put waiting) (fun _ => .restricted) (fun _ => none)

/-- A run in which nothing is stopped. -/
theorem decisions_agree_rejected :
    (run step oneRun [.enqueue 0 [1] transferApproval (.clear none), .reject 5 [1] [2],
      .userStop 9 (JsString.ofString "session") (JsString.ofString "run")]).Coherent := by
  refine decisions_agree (Table.empty.put waiting) (fun _ => .restricted) (fun _ => none) ?_
  refine ⟨trivial, trivial, ?_, trivial⟩
  intro _ row member
  have all : ∀ row ∈ (run step oneRun [.enqueue 0 [1] transferApproval (.clear none),
      .reject 5 [1] [2]]).approvals.rows, row.queue.status ≠ .pending := by decide
  exact fun pending => all row member pending.2

/-- A stop rejects the queue's row and leaves the intent undecided; from then on an approve, a
reject and an expiry all report the approval as inconsistent, and the sweep no longer sees it. -/
theorem stop_strands_intent :
    let w := run step oneRun [.enqueue 0 [1] transferApproval (.clear none),
      .userStop 5 (JsString.ofString "session") (JsString.ofString "run")]
    (∃ row ∈ w.approvals.rows, row.queue.status = .rejected ∧ row.intent.decision = none)
      ∧ (∀ row ∈ w.approvals.rows, ¬ row.Agrees)
      ∧ (∃ raised, w.prepareApprove 9 [1] = .error raised)
      ∧ (∃ raised, w.prepareReject 9 [1] [2] = .error raised)
      ∧ (∃ raised, w.expireApproval 9999999 [1] = .error raised)
      ∧ w.getExpired 9999999 = [] := by
  dsimp only
  refine ⟨by decide, ?_, ⟨_, rfl⟩, ⟨_, rfl⟩, ⟨_, rfl⟩, by decide⟩
  have apart : ∀ row ∈ (run step oneRun [.enqueue 0 [1] transferApproval (.clear none),
      .userStop 5 (JsString.ofString "session") (JsString.ofString "run")]).approvals.rows,
      row.queue.status = .rejected ∧ row.intent.decision = none := by decide
  intro row member agrees
  have := agrees.pending.mpr (apart row member).2
  rw [(apart row member).1] at this
  cases this

end World

end Vex.Approvals
