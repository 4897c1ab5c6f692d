import Vex.Activity.LinkedIntents
import Vex.Library.Runs

/-!
# What the calls make of one linked intent

The rows of an activity that one intent links are unsettled or settled as an
outcome. Unsettled rows have a pending activity, or one that failed with a code
the coordinator has no outcome for. A settlement that ends the activity settles
the rows, and settled rows are never changed again (`settled_run`).

The argument is the same for both tables: it is made for a lawful arm.
-/

namespace Vex.Activity

open Vex.Library
open Vex.Wallet (Instant)

namespace IntentArm

variable {ι : Type} (arm : IntentArm ι)

def coordinate (now : Instant) (linked : LinkedBy ι) (how : Coordinated) :
    Except SettlementError (LinkedBy ι × Bool) :=
  (arm.settleRows linked (how.sessionId linked.activity) how.outcome how.target
    fun row => how.write.run now row).map fun settled => (settled.1, settled.2.applied)

def failAlone (now : Instant) (linked : LinkedBy ι) (input : FailActivityEventInput)
    (context : TerminalWriteContext) : Except SettlementError (LinkedBy ι × Bool) :=
  (((TerminalWrite.failActivityEvent input context).run now linked.activity).mapError
    .activity).map fun result => ({ linked with activity := result.row }, result.applied)

/-- A call on the rows of an activity that one intent links. -/
def run (now : Instant) (linked : LinkedBy ι) (call : SettlementCall) :
    Except SettlementError (LinkedBy ι × Bool) :=
  match call.coordinated with
  | some how => arm.coordinate now linked how
  | none =>
    match call with
    | .failActivityEvent input context => failAlone now linked input context
    | .recoverLinkedBroadcastUnconfirmed sessionId => arm.recoverRows linked sessionId
    | .settleFromPersistedTerminalActivity sessionId verdict =>
      arm.settlePersisted linked sessionId verdict
    | _ => .ok (linked, false)

def step (linked : LinkedBy ι) (timed : TimedCall) : LinkedBy ι :=
  match arm.run timed.now linked timed.call with
  | .ok (committed, _) => committed
  | .error _ => linked

/-- The activity ended the way an outcome says. -/
def Ended (activity : AgentActivityEvent) : LinkedIntentRepairOutcome → Prop
  | .confirmed => activity.status = .confirmed
  | .reverted =>
    activity.status = .definitivelyFailed ∧ activity.failureCode = some .minedRevert
  | .supersededUnproven =>
    activity.status = .supersededUnproven ∨ (activity.status = .definitivelyFailed
        ∧ activity.failureCode = some .solanaSignatureExpired)
  | .crashedBeforeBroadcast => activity.status = .definitivelyFailed
  | .signedNotSubmitted =>
    activity.status = .definitivelyFailed ∧ activity.failureCode = some .broadcastError

/-- The activity failed with a code that says nothing about the intent. -/
def FailedAlone (activity : AgentActivityEvent) : Prop :=
  activity.status = .definitivelyFailed ∧ ∃ code, activity.failureCode = some code
    ∧ linkedIntentOutcomeForFailure code = none

/-- Rows that are not settled. `Recovered` says whether a recovery may have run before. -/
structure Unsettled (Recovered : Prop) (linked : LinkedBy ι) : Prop where
  link : arm.Linked linked.activity linked.intent
  opened : arm.Open linked.activity linked.intent
  activity : linked.activity.status = .pending ∨ FailedAlone linked.activity
  execution : linked.execution.executionStatus ≠ .succeeded
  consuming : arm.phase linked.intent = .consuming → linked.execution.executionStatus = .intent
  unrecovered : ¬Recovered → arm.phase linked.intent = .consuming

structure Settled (Recovered : Prop) (outcome : LinkedIntentRepairOutcome)
    (linked : LinkedBy ι) : Prop where
  link : arm.Linked linked.activity linked.intent
  states : arm.matchesOutcome linked.intent linked.activity outcome = true
  fits : HashFits linked.activity outcome
  ended : Ended linked.activity outcome
  completed : linked.execution.executionStatus ≠ .intent
  succeeded : linked.execution.executionStatus = .succeeded → outcome = .confirmed
  unrecovered : ¬Recovered → outcome = .confirmed → linked.execution.executionStatus = .succeeded

/-- The rows are unsettled or settled as some outcome. -/
def Consistent (Recovered : Prop) (linked : LinkedBy ι) : Prop :=
  arm.Unsettled Recovered linked ∨ ∃ outcome, arm.Settled Recovered outcome linked

variable {arm}

variable {outcome : LinkedIntentRepairOutcome} {linked : LinkedBy ι}

theorem Settled.not_pending {Recovered : Prop} (settled : arm.Settled Recovered outcome linked) :
    linked.activity.status ≠ .pending := by
  have ended := settled.ended
  cases outcome with
  | confirmed | crashedBeforeBroadcast => simp [show linked.activity.status = _ from ended]
  | reverted => simp [ended.1]
  | supersededUnproven => rcases ended with ended | ended <;> simp [ended]
  | signedNotSubmitted => simp [ended.1]

variable {activity : AgentActivityEvent}

theorem not_maySettle_of_states (lawful : arm.Lawful) {intent : ι}
    (states : arm.matchesOutcome intent activity outcome = true) (other : LinkedIntentRepairOutcome)
    :
    ¬MaySettle (arm.phase intent) other := by
  rw [(lawful.states _ _ _ states).1]
  cases outcome <;> cases other <;> simp [MaySettle, outcomePhase]

/-! ## The writers of the activity -/

variable {now : Instant} {row : AgentActivityEvent} {write : TerminalWrite} {result : CasResult}

theorem write_of_terminal (terminal : row.status ≠ .pending) (ran : write.run now row = .ok result)
    :
    result.row = row ∧ result.applied = false := by
  rcases TerminalWrite.run_cases ran with missed | ⟨pending, -⟩
  · exact missed
  · exact absurd pending terminal

variable {call : SettlementCall} {how : Coordinated}

theorem written_target (coordinated : call.coordinated = some how) (now : Instant)
    (row : AgentActivityEvent) :
    activityMatchesTarget (how.write.written now row) how.target = true := by
  cases call with
  | confirmActivityEvent input context | confirmActivityEventStatusOnly source context
  | markSupersededUnproven claimToken reason handlerWindowMs nonInclusionWindowMs =>
    obtain rfl := Option.some.inj coordinated
    rfl
  | failActivityEvent input context =>
    obtain ⟨outcome, -, rfl⟩ := Option.map_eq_some_iff.1 coordinated
    simp [activityMatchesTarget, TerminalWrite.written, failedWith]
  | failSignedNotSubmitted sessionId failureReason
  | settleCrashedBeforeBroadcast sessionId failureReason =>
    obtain rfl := Option.some.inj coordinated
    simp [activityMatchesTarget, TerminalWrite.written, failedWith]
  | recoverLinkedBroadcastUnconfirmed sessionId => cases coordinated
  | settleFromPersistedTerminalActivity sessionId verdict => cases coordinated

theorem ended_of_target (coordinated : call.coordinated = some how)
    (target : activityMatchesTarget row how.target = true) : Ended row how.outcome := by
  cases call with
  | confirmActivityEvent input context | confirmActivityEventStatusOnly source context =>
    obtain rfl := Option.some.inj coordinated
    have confirmed : row.status = .confirmed := of_decide_eq_true target
    exact confirmed
  | failActivityEvent input context =>
    obtain ⟨outcome, known, rfl⟩ := Option.map_eq_some_iff.1 coordinated
    obtain ⟨failed, code⟩ := of_decide_eq_true target
    unfold linkedIntentOutcomeForFailure at known
    split at known
    case h_1 revert =>
      obtain rfl := Option.some.inj known
      exact ⟨failed, revert ▸ code⟩
    case h_2 expired =>
      obtain rfl := Option.some.inj known
      exact .inr ⟨failed, expired ▸ code⟩
    case h_3 refused =>
      obtain rfl := Option.some.inj known
      exact failed
    case h_4 => cases known
  | markSupersededUnproven claimToken reason handlerWindowMs nonInclusionWindowMs =>
    obtain rfl := Option.some.inj coordinated
    exact .inl (of_decide_eq_true target)
  | failSignedNotSubmitted sessionId failureReason =>
    obtain rfl := Option.some.inj coordinated
    obtain ⟨failed, code⟩ := of_decide_eq_true target
    exact ⟨failed, code⟩
  | settleCrashedBeforeBroadcast sessionId failureReason =>
    obtain rfl := Option.some.inj coordinated
    exact (of_decide_eq_true target).1
  | recoverLinkedBroadcastUnconfirmed sessionId => cases coordinated
  | settleFromPersistedTerminalActivity sessionId verdict => cases coordinated

theorem ended_of_persisted (proves : persistedActivityProvesOutcome row outcome = true) :
    Ended row outcome := by
  cases outcome with
  | crashedBeforeBroadcast => exact (of_decide_eq_true proves).1
  | signedNotSubmitted =>
    obtain ⟨failed, -, code⟩ := of_decide_eq_true proves
    exact ⟨failed, code⟩
  | confirmed => cases proves
  | reverted => cases proves
  | supersededUnproven => cases proves

/-! ## A settlement through the coordinator -/

variable {committed : LinkedBy ι}

variable {target : LinkedActivityTarget}

/-- What a settlement that committed did: it left the intent and the execution, because the
activity proves nothing, or it settled them. -/
theorem settleRows_cases {sessionId : Option JsString}
    {write : AgentActivityEvent → Except ActivityError CasResult}
    (ran : arm.settleRows linked sessionId outcome target write = .ok (committed, result)) :
    linked.activity.sessionId = sessionId
      ∧ arm.assertCanSettle linked.intent linked.activity outcome = .ok ()
      ∧ write linked.activity = .ok result
      ∧ ((result.applied = false ∧ activityMatchesTarget result.row target = false
            ∧ persistedActivityProvesOutcome result.row outcome = false
            ∧ committed = { linked with activity := result.row })
        ∨ ((result.applied = true ∨ activityMatchesTarget result.row target = true
              ∨ persistedActivityProvesOutcome result.row outcome = true)
            ∧ ∃ settled, arm.settle linked.intent linked.activity outcome = .ok settled
              ∧ committed = { activity := result.row
                              intent := settled
                              execution := completeExecution outcome.text (outcome = .confirmed)
                                linked.execution })) := by
  unfold settleRows at ran
  obtain ⟨_, session, ran⟩ := bind_eq_ok.1 ran
  obtain ⟨_, asserted, ran⟩ := bind_eq_ok.1 ran
  obtain ⟨written, wrote, ran⟩ := bind_eq_ok.1 ran
  obtain ⟨_, -, ran⟩ := bind_eq_ok.1 ran
  rw [requireActivity, refuseIf_eq_ok, not_not] at session
  rw [mapError_eq_ok] at wrote
  split_ifs at ran with stays
  · obtain ⟨rfl, rfl⟩ := Prod.mk.inj (Except.ok.inj ran)
    simp only [Bool.not_eq_true] at stays
    exact ⟨session, asserted, wrote, .inl ⟨stays.1, stays.2.1, stays.2.2, rfl⟩⟩
  · obtain ⟨settled, moved, ran⟩ := bind_eq_ok.1 ran
    obtain ⟨rfl, rfl⟩ := Prod.mk.inj (Except.ok.inj ran)
    refine ⟨session, asserted, wrote, .inr ⟨?_, settled, moved, rfl⟩⟩
    by_contra proves
    push Not at proves
    exact stays proves

theorem completeExecution_of_completed {status : String} {success : Bool}
    {execution : ExecutionCompletion} (completed : execution.executionStatus ≠ .intent) :
    completeExecution status success execution = execution := if_neg completed

theorem completeExecution_status (status : String) (success : Bool)
    (execution : ExecutionCompletion) :
    (completeExecution status success execution).executionStatus
      = if execution.executionStatus = .intent then if success then .succeeded else .failed
        else execution.executionStatus := by
  unfold completeExecution
  split_ifs <;> rfl

variable {stated : LinkedIntentRepairOutcome}

theorem settleRows_of_settled (lawful : arm.Lawful) {Recovered : Prop}
    (settled : arm.Settled Recovered stated linked) {sessionId : Option JsString}
    (ran : arm.settleRows linked sessionId outcome target (fun row => write.run now row)
      = .ok (committed, result)) : committed = linked ∧ result.applied = false := by
  obtain ⟨-, asserted, wrote, stays | ⟨-, moved, advanced, rfl⟩⟩ := settleRows_cases ran
  · obtain ⟨same, missed⟩ := write_of_terminal settled.not_pending wrote
    refine ⟨?_, missed⟩
    rw [stays.2.2.2, same]
  · obtain ⟨same, missed⟩ := write_of_terminal settled.not_pending wrote
    refine ⟨?_, missed⟩
    -- the intent may only settle as what it states
    obtain ⟨-, may | states⟩ := (lawful.assertion _ _ _).1 asserted
    · exact absurd may (not_maySettle_of_states lawful settled.states outcome)
    · rw [lawful.matched _ _ _ states] at advanced
      obtain rfl := Except.ok.inj advanced
      rw [same, completeExecution_of_completed settled.completed]

/-- A settlement of unsettled rows leaves them, or settles them as its outcome; it settles them
where it wrote on the activity. -/
theorem settleRows_of_unsettled (lawful : arm.Lawful) {Recovered : Prop}
    (unsettled : arm.Unsettled Recovered linked) (coordinated : call.coordinated = some how)
    {sessionId : Option JsString}
    (ran : arm.settleRows linked sessionId how.outcome how.target (fun row => how.write.run now row)
      = .ok (committed, result)) :
    (committed = linked ∧ result.applied = false) ∨
      arm.Settled Recovered how.outcome committed := by
  obtain ⟨-, asserted, wrote, stays | ⟨proved, moved, advanced, rfl⟩⟩ := settleRows_cases ran
  · refine .inl ⟨?_, stays.1⟩
    rcases TerminalWrite.run_cases wrote with ⟨same, -⟩ | ⟨-, -, -, applied⟩
    · rw [stays.2.2.2, same]
    · rw [stays.1] at applied
      cases applied
  · right
    obtain ⟨fits, -⟩ := (lawful.assertion _ _ _).1 asserted
    obtain ⟨states, link⟩ := lawful.settled _ _ _ _ unsettled.link unsettled.opened fits advanced
    have keeps := TerminalWrite.run_keepsLink wrote
    obtain ⟨id, session, role, kind, family, hash⟩ := keeps
    have ended : Ended result.row how.outcome := by
      rcases proved with applied | target | proves
      · rcases TerminalWrite.run_cases wrote with ⟨-, missed⟩ | ⟨-, -, written, -⟩
        · rw [applied] at missed
          cases missed
        · rw [written]
          exact ended_of_target coordinated (written_target coordinated now _)
      · exact ended_of_target coordinated target
      · exact ended_of_persisted proves
    refine ⟨lawful.linkedCongr _ _ _ id session role kind family link, ?_, ?_, ended, ?_, ?_, ?_⟩
    · rw [lawful.matchesCongr _ _ _ _ hash]
      exact states
    · rw [HashFits, hash]
      exact fits
    · rw [completeExecution_status]
      split_ifs with opened confirmed
      · decide
      · decide
      · exact opened
    · intro succeeded
      rw [completeExecution_status] at succeeded
      split_ifs at succeeded with opened confirmed
      · exact of_decide_eq_true confirmed
      · exact absurd succeeded unsettled.execution
    · intro unrecovered confirmed
      rw [completeExecution_status, if_pos (unsettled.consuming (unsettled.unrecovered unrecovered)),
        if_pos (decide_eq_true confirmed)]

/-! ## The calls that do not go through the coordinator -/

variable {wrote : Bool}

theorem coordinate_eq_ok (ran : arm.coordinate now linked how = .ok (committed, wrote)) :
    ∃ result, arm.settleRows linked (how.sessionId linked.activity) how.outcome how.target
        (fun row => how.write.run now row) = .ok (committed, result) ∧ result.applied = wrote := by
  obtain ⟨⟨settled, result⟩, settles, same⟩ := map_eq_ok.1 ran
  obtain ⟨rfl, rfl⟩ := Prod.mk.inj same
  exact ⟨result, settles, rfl⟩

variable {input : FailActivityEventInput} {context : TerminalWriteContext}

theorem failAlone_cases (ran : failAlone now linked input context = .ok (committed, wrote)) :
    (committed = linked ∧ wrote = false) ∨ (linked.activity.status = .pending ∧ wrote = true
        ∧ committed = { linked with activity := failedWith now linked.activity input }) := by
  obtain ⟨result, fails, same⟩ := map_eq_ok.1 ran
  rw [mapError_eq_ok] at fails
  obtain ⟨rfl, rfl⟩ := Prod.mk.inj same
  rcases TerminalWrite.run_cases fails with ⟨kept, missed⟩ | ⟨pending, -, written, applied⟩
  · exact .inl ⟨by rw [kept], missed⟩
  · exact .inr ⟨pending, applied, by rw [written]; rfl⟩

variable {sessionId : JsString}

theorem recoverRows_cases (ran : arm.recoverRows linked sessionId = .ok (committed, wrote)) :
    (committed = linked ∧ wrote = false) ∨
      ∃ txHash recover recovered, linked.activity.txHash = some txHash ∧ arm.recover = some recover
        ∧ recover linked.intent linked.activity txHash = .ok recovered
        ∧ committed = { linked with
            intent := recovered
            execution := completeExecution "broadcast_unconfirmed" false linked.execution } := by
  obtain ⟨_, -, found⟩ := bind_eq_ok.1 ran
  cases staged : linked.activity.txHash with
  | none =>
    rw [staged] at found
    obtain ⟨rfl, rfl⟩ := Prod.mk.inj (Except.ok.inj found)
    exact .inl ⟨rfl, rfl⟩
  | some txHash =>
    cases known : arm.recover with
    | none =>
      rw [staged, known] at found
      cases found
    | some recover =>
      rw [staged, known] at found
      obtain ⟨recovered, advanced, moved⟩ := bind_eq_ok.1 found
      obtain ⟨rfl, -⟩ := Prod.mk.inj (Except.ok.inj moved)
      exact .inr ⟨txHash, recover, recovered, rfl, rfl, advanced, rfl⟩

variable {verdict : LinkedActivityVerdict}

/-- A settlement from the activity changed nothing, or the activity carries the verdict and the
intent was settled as it. -/
theorem settlePersisted_cases
    (ran : arm.settlePersisted linked sessionId verdict = .ok (committed, wrote)) :
    (committed = linked ∧ wrote = false) ∨ (activityMatchesOutcome linked.activity verdict = true
        ∧ arm.assertCanSettle linked.intent linked.activity verdict.outcome = .ok ()
        ∧ ∃ settled, arm.settle linked.intent linked.activity verdict.outcome = .ok settled
          ∧ committed = { linked with
              intent := settled
              execution := completeExecution verdict.outcome.text (verdict.outcome = .confirmed)
                linked.execution }) := by
  obtain ⟨_, -, found⟩ := bind_eq_ok.1 ran
  by_cases carries : activityMatchesOutcome linked.activity verdict = true
  case neg =>
    rw [if_pos carries] at found
    obtain ⟨rfl, rfl⟩ := Prod.mk.inj (Except.ok.inj found)
    exact .inl ⟨rfl, rfl⟩
  case pos =>
    rw [if_neg (not_not.2 carries)] at found
    cases known : arm.recover with
    | none =>
      rw [known] at found
      obtain ⟨rfl, rfl⟩ := Prod.mk.inj (Except.ok.inj found)
      exact .inl ⟨rfl, rfl⟩
    | some recover =>
      rw [known] at found
      obtain ⟨_, asserted, found⟩ := bind_eq_ok.1 found
      obtain ⟨settled, advanced, moved⟩ := bind_eq_ok.1 found
      obtain ⟨rfl, -⟩ := Prod.mk.inj (Except.ok.inj moved)
      exact .inr ⟨carries, asserted, settled, advanced, rfl⟩

/-! ## Settled rows -/

theorem coordinate_of_settled (lawful : arm.Lawful) {Recovered : Prop}
    (settled : arm.Settled Recovered stated linked)
    (ran : arm.coordinate now linked how = .ok (committed, wrote)) : committed = linked := by
  obtain ⟨result, ran, -⟩ := coordinate_eq_ok ran
  exact (settleRows_of_settled lawful settled ran).1

theorem failAlone_of_settled {Recovered : Prop} (settled : arm.Settled Recovered stated linked)
    (ran : failAlone now linked input context = .ok (committed, wrote)) : committed = linked := by
  rcases failAlone_cases ran with ⟨same, -⟩ | ⟨pending, -⟩
  · exact same
  · exact absurd pending settled.not_pending

theorem recoverRows_of_settled (lawful : arm.Lawful) {Recovered : Prop}
    (settled : arm.Settled Recovered stated linked)
    (ran : arm.recoverRows linked sessionId = .ok (committed, wrote)) : committed = linked := by
  rcases recoverRows_cases ran with ⟨same, -⟩ | ⟨txHash, recover, recovered, staged, known, moved, -⟩
  · exact same
  · -- a settled intent neither consumes nor waits for its broadcast
    obtain ⟨-, unconfirmed, -, consuming | rfl⟩ := lawful.recovered _ known _ _ _ _ staged
      settled.link moved
    · rw [(lawful.states _ _ _ settled.states).1] at consuming
      cases stated <;> cases consuming
    · rw [(lawful.states _ _ _ settled.states).1] at unconfirmed
      cases stated <;> cases unconfirmed

theorem settlePersisted_of_settled (lawful : arm.Lawful) {Recovered : Prop}
    (settled : arm.Settled Recovered stated linked)
    (ran : arm.settlePersisted linked sessionId verdict = .ok (committed, wrote)) :
    committed = linked := by
  rcases settlePersisted_cases ran with ⟨same, -⟩ | ⟨-, asserted, moved, advanced, rfl⟩
  · exact same
  · obtain ⟨-, may | states⟩ := (lawful.assertion _ _ _).1 asserted
    · exact absurd may (not_maySettle_of_states lawful settled.states _)
    · rw [lawful.matched _ _ _ states] at advanced
      obtain rfl := Except.ok.inj advanced
      rw [completeExecution_of_completed settled.completed]

theorem run_of_settled (lawful : arm.Lawful) {Recovered : Prop}
    (settled : arm.Settled Recovered stated linked)
    (ran : arm.run now linked call = .ok (committed, wrote)) : committed = linked := by
  unfold run at ran
  split at ran
  · exact coordinate_of_settled lawful settled ran
  · split at ran
    · exact failAlone_of_settled settled ran
    · exact recoverRows_of_settled lawful settled ran
    · exact settlePersisted_of_settled lawful settled ran
    · exact (Prod.mk.inj (Except.ok.inj ran)).1.symm

/-! ## Unsettled rows -/

theorem failAlone_of_unsettled (lawful : arm.Lawful) {Recovered : Prop}
    (unsettled : arm.Unsettled Recovered linked)
    (alone : linkedIntentOutcomeForFailure input.failureCode = none)
    (ran : failAlone now linked input context = .ok (committed, wrote)) :
    arm.Unsettled Recovered committed := by
  rcases failAlone_cases ran with ⟨rfl, -⟩ | ⟨-, -, rfl⟩
  · exact unsettled
  · exact
      { link := lawful.linkedCongr linked.activity _ linked.intent rfl rfl rfl rfl rfl
          unsettled.link
        opened := unsettled.opened
        activity := .inr ⟨rfl, input.failureCode, rfl, alone⟩
        execution := unsettled.execution
        consuming := unsettled.consuming
        unrecovered := unsettled.unrecovered }

theorem recoverRows_of_unsettled (lawful : arm.Lawful) {Recovered : Prop}
    (unsettled : arm.Unsettled Recovered linked) (recovery : Recovered)
    (ran : arm.recoverRows linked sessionId = .ok (committed, wrote)) :
    arm.Unsettled Recovered committed := by
  rcases recoverRows_cases ran with ⟨rfl, -⟩ | ⟨txHash, recover, recovered, staged, known, moved, rfl⟩
  · exact unsettled
  · obtain ⟨link, unconfirmed, hash, -⟩ := lawful.recovered _ known _ _ _ _ staged
      unsettled.link moved
    refine
      { link := link
        opened := .inr ⟨unconfirmed, hash, by simp [staged]⟩
        activity := unsettled.activity
        execution := ?_
        consuming := ?_
        unrecovered := fun never => absurd recovery never }
    · rw [completeExecution_status]
      split
      · decide
      · exact unsettled.execution
    · intro consuming
      rw [show arm.phase recovered = _ from unconfirmed] at consuming
      cases consuming

theorem not_verdict_of_unsettled (unsettled : activity.status = .pending ∨ FailedAlone activity)
    (verdict : LinkedActivityVerdict) : ¬activityMatchesOutcome activity verdict = true := by
  rcases unsettled with pending | ⟨failed, code, recorded, alone⟩
  · cases verdict <;> simp [activityMatchesOutcome, pending]
  · cases verdict with
    | confirmed => simp [activityMatchesOutcome, failed]
    | reverted =>
      simp only [activityMatchesOutcome, failed, recorded, decide_eq_true_eq, true_and,
        Option.some.injEq]
      rintro rfl
      cases alone
    | supersededUnproven =>
      simp only [activityMatchesOutcome, failed, recorded, decide_eq_true_eq, true_and,
        Option.some.injEq, reduceCtorEq, false_or]
      rintro rfl
      cases alone

theorem run_of_unsettled (lawful : arm.Lawful) {Recovered : Prop}
    (unsettled : arm.Unsettled Recovered linked)
    (recovery : ∀ sessionId, call = .recoverLinkedBroadcastUnconfirmed sessionId → Recovered)
    (ran : arm.run now linked call = .ok (committed, wrote)) :
    arm.Consistent Recovered committed := by
  unfold run at ran
  split at ran
  case h_1 how coordinated =>
    obtain ⟨result, settles, -⟩ := coordinate_eq_ok ran
    rcases settleRows_of_unsettled lawful unsettled coordinated settles with ⟨rfl, -⟩ | settled
    · exact .inl unsettled
    · exact .inr ⟨_, settled⟩
  case h_2 alone =>
    split at ran
    · exact .inl (failAlone_of_unsettled lawful unsettled (Option.map_eq_none_iff.1 alone) ran)
    · exact .inl (recoverRows_of_unsettled lawful unsettled (recovery _ rfl) ran)
    · rcases settlePersisted_cases ran with ⟨rfl, -⟩ | ⟨carries, -⟩
      · exact .inl unsettled
      · exact absurd carries (not_verdict_of_unsettled unsettled.activity _)
    · obtain ⟨rfl, -⟩ := Prod.mk.inj (Except.ok.inj ran)
      exact .inl unsettled

/-! ## Runs -/

theorem consistent_step (lawful : arm.Lawful) {Recovered : Prop}
    (consistent : arm.Consistent Recovered linked) {timed : TimedCall}
    (recovery : ∀ sessionId, timed.call = .recoverLinkedBroadcastUnconfirmed sessionId → Recovered)
    :
    arm.Consistent Recovered (arm.step linked timed) := by
  unfold step
  split
  case h_2 => exact consistent
  case h_1 committed wrote ran =>
    rcases consistent with unsettled | ⟨outcome, settled⟩
    · exact run_of_unsettled lawful unsettled recovery ran
    · rw [run_of_settled lawful settled ran]
      exact .inr ⟨outcome, settled⟩

theorem step_of_settled (lawful : arm.Lawful) {Recovered : Prop}
    (settled : arm.Settled Recovered outcome linked) (timed : TimedCall) :
    arm.step linked timed = linked := by
  unfold step
  split
  case h_2 => rfl
  case h_1 committed wrote ran => exact run_of_settled lawful settled ran

theorem settled_run (lawful : arm.Lawful) {Recovered : Prop}
    (settled : arm.Settled Recovered outcome linked) (calls : List TimedCall) :
    Library.run arm.step linked calls = linked := by
  induction calls with
  | nil => rfl
  | cons timed calls ih => rw [run_cons, step_of_settled lawful settled, ih]

/-! ## Repeating a settlement -/

theorem runTerminalCas_of_terminal {guard : Bool} {written : AgentActivityEvent} {miss : CasResult}
    (terminal : row.status ≠ .pending) : runTerminalCas guard written row miss = .ok miss :=
  if_neg fun matched => terminal matched.2

theorem write_again (later : Instant) (ran : write.run now row = .ok result)
    (wrote : result.applied = true) : ∃ again, write.run later result.row = .ok again := by
  rcases TerminalWrite.run_cases ran with ⟨-, missed⟩ | ⟨-, -, written, -⟩
  · rw [wrote] at missed
    cases missed
  · have terminal := (write.written_terminal now row).1
    rw [written]
    cases write with
    | confirmActivityEvent input context =>
      -- what the writer asks of the legs depends on columns it does not write
      simp only [TerminalWrite.run, runConfirmActivityEvent] at ran ⊢
      have role : ((TerminalWrite.confirmActivityEvent input context).written now row).eventRole
          = row.eventRole := rfl
      have legs : assertYieldConfirmLegs
          ((TerminalWrite.confirmActivityEvent input context).written now row) input
            = assertYieldConfirmLegs row input := rfl
      rw [role, legs]
      split at ran
      · cases ran
      case isFalse complete =>
        rw [if_neg complete]
        split at ran
        · cases ran
        · exact ⟨_, runTerminalCas_of_terminal terminal⟩
    | confirmActivityEventStatusOnly source context
    | failHashlessActivityEvent input requireInactiveNonceLease =>
      exact ⟨_, runTerminalCas_of_terminal terminal⟩
    | failActivityEvent input context => exact ⟨_, runTerminalCas_of_terminal terminal⟩
    | markSupersededUnproven claimToken reason handlerWindowMs nonInclusionWindowMs =>
      simp only [TerminalWrite.run, runMarkSupersededUnproven]
      exact ⟨_, runTerminalCas_of_terminal terminal⟩

theorem coordinated_session (coordinated : call.coordinated = some how) {row' : AgentActivityEvent}
    (same : row'.sessionId = row.sessionId) (session : row.sessionId = how.sessionId row) :
    row'.sessionId = how.sessionId row' := by
  cases call with
  | confirmActivityEvent input context | confirmActivityEventStatusOnly source context
  | markSupersededUnproven claimToken reason handlerWindowMs nonInclusionWindowMs =>
    obtain rfl := Option.some.inj coordinated
    rfl
  | failActivityEvent input context =>
    obtain ⟨outcome, -, rfl⟩ := Option.map_eq_some_iff.1 coordinated
    rfl
  | failSignedNotSubmitted sessionId failureReason
  | settleCrashedBeforeBroadcast sessionId failureReason =>
    obtain rfl := Option.some.inj coordinated
    exact same.trans session
  | recoverLinkedBroadcastUnconfirmed sessionId => cases coordinated
  | settleFromPersistedTerminalActivity sessionId verdict => cases coordinated

theorem coordinate_again (lawful : arm.Lawful) {Recovered : Prop}
    (settled : arm.Settled Recovered how.outcome linked)
    (session : linked.activity.sessionId = how.sessionId linked.activity)
    (target : activityMatchesTarget linked.activity how.target = true) {again : CasResult}
    (passes : how.write.run now linked.activity = .ok again) :
    arm.coordinate now linked how = .ok (linked, false) := by
  obtain ⟨same, missed⟩ := write_of_terminal settled.not_pending passes
  have asserted := (lawful.assertion linked.intent linked.activity how.outcome).2
    ⟨settled.fits, .inr settled.states⟩
  have proves : ¬(how.outcome = .signedNotSubmitted
      ∧ ¬persistedActivityProvesOutcome linked.activity how.outcome = true) := by
    rintro ⟨unsent, unproved⟩
    have ended := settled.ended
    have fits := settled.fits
    rw [unsent] at ended fits unproved
    refine unproved (decide_eq_true ⟨ended.1, fun nothing => ?_, ended.2⟩)
    cases fits.1 nothing
  simp only [coordinate, settleRows, requireActivity, refuseIf, session, asserted, passes, same,
    missed, proves, target, lawful.matched _ _ _ settled.states,
    completeExecution_of_completed settled.completed, ne_eq, not_true_eq_false, if_false, ok_bind,
    Except.mapError, false_and, and_false, Except.map]

theorem activity_of_run (terminal : linked.activity.status ≠ .pending)
    (ran : arm.run now linked call = .ok (committed, wrote)) :
    committed.activity = linked.activity := by
  unfold run at ran
  split at ran
  · obtain ⟨result, settles, -⟩ := coordinate_eq_ok ran
    obtain ⟨-, -, wrote, stays | ⟨-, moved, -, rfl⟩⟩ := settleRows_cases settles
    · rw [stays.2.2.2]
      exact (write_of_terminal terminal wrote).1
    · exact (write_of_terminal terminal wrote).1
  · split at ran
    · rcases failAlone_cases ran with ⟨rfl, -⟩ | ⟨pending, -⟩
      · rfl
      · exact absurd pending terminal
    · rcases recoverRows_cases ran with ⟨rfl, -⟩ | ⟨txHash, recover, recovered, -, -, -, rfl⟩
      · rfl
      · rfl
    · rcases settlePersisted_cases ran with ⟨rfl, -⟩ | ⟨-, -, moved, -, rfl⟩
      · rfl
      · rfl
    · rw [(Prod.mk.inj (Except.ok.inj ran)).1]

theorem activity_run (terminal : linked.activity.status ≠ .pending) (calls : List TimedCall) :
    (Library.run arm.step linked calls).activity = linked.activity := by
  induction calls generalizing linked with
  | nil => rfl
  | cons timed calls ih =>
    have kept : (arm.step linked timed).activity = linked.activity := by
      unfold step
      split
      case h_2 => rfl
      case h_1 committed wrote ran => exact activity_of_run terminal ran
    rw [run_cons, ih (by rwa [kept]), kept]

/-! ## Settlements that write -/

/-- A settlement through the coordinator that wrote on the activity has settled the rows, and
passes again at any later moment without changing them. -/
theorem coordinate_wrote (lawful : arm.Lawful) {Recovered : Prop}
    (consistent : arm.Consistent Recovered linked) (coordinated : call.coordinated = some how)
    (ran : arm.coordinate now linked how = .ok (committed, true)) :
    arm.Settled Recovered how.outcome committed ∧
      ∀ later, arm.coordinate later committed how = .ok (committed, false) := by
  obtain ⟨result, settles, wrote⟩ := coordinate_eq_ok ran
  rcases consistent with unsettled | ⟨stated, settled⟩
  case inr =>
    rw [(settleRows_of_settled lawful settled settles).2] at wrote
    cases wrote
  case inl =>
    rcases settleRows_of_unsettled lawful unsettled coordinated settles with ⟨-, missed⟩ | settled
    · rw [missed] at wrote
      cases wrote
    · obtain ⟨session, -, ranWrite, stays | ⟨-, moved, -, rfl⟩⟩ := settleRows_cases settles
      · rw [stays.1] at wrote
        cases wrote
      · refine ⟨settled, fun later => ?_⟩
        obtain ⟨again, passes⟩ := write_again later ranWrite wrote
        refine coordinate_again lawful settled ?_ ?_ passes
        · exact coordinated_session coordinated (TerminalWrite.run_keepsLink ranWrite).2.1 session
        · rcases TerminalWrite.run_cases ranWrite with ⟨-, missed⟩ | ⟨-, -, written, -⟩
          · rw [wrote] at missed
            cases missed
          · rw [written]
            exact written_target coordinated now _

theorem run_again (lawful : arm.Lawful) {Recovered : Prop}
    (consistent : arm.Consistent Recovered linked)
    (settlement : ∀ sessionId, call ≠ .recoverLinkedBroadcastUnconfirmed sessionId)
    (ran : arm.run now linked call = .ok (committed, true)) (calls : List TimedCall)
    (later : Instant) :
    ∃ wrote, arm.run later (Library.run arm.step committed calls) call
      = .ok (Library.run arm.step committed calls, wrote) := by
  have known := ran
  unfold run at ran
  split at ran
  case h_1 how coordinated =>
    obtain ⟨settled, again⟩ := coordinate_wrote lawful consistent coordinated ran
    rw [settled_run lawful settled]
    refine ⟨false, ?_⟩
    simp only [run, coordinated]
    exact again later
  case h_2 alone =>
    split at ran
    case h_1 input context =>
      rcases failAlone_cases ran with ⟨-, missed⟩ | ⟨-, -, rfl⟩
      · cases missed
      · have terminal : (failedWith now linked.activity input).status ≠ .pending := by
          simp [failedWith]
        have kept : (Library.run arm.step
            { linked with activity := failedWith now linked.activity input } calls).activity
              = failedWith now linked.activity input := activity_run terminal calls
        refine ⟨false, ?_⟩
        simp only [run, alone, failAlone, TerminalWrite.run, runFailActivityEvent]
        rw [runTerminalCas_of_terminal (by rw [kept]; exact terminal)]
        simp [Except.mapError, Except.map]
    case h_2 sessionId => exact absurd rfl (settlement sessionId)
    case h_3 sessionId verdict =>
      rcases consistent with unsettled | ⟨stated, settled⟩
      · rcases settlePersisted_cases ran with ⟨-, missed⟩ | ⟨carries, -⟩
        · cases missed
        · exact absurd carries (not_verdict_of_unsettled unsettled.activity _)
      · -- a settled row is the same at every later moment
        obtain rfl := run_of_settled lawful settled known
        rw [settled_run lawful settled]
        exact ⟨true, ran⟩
    case h_4 => cases ran

/-! ## Leaving the consuming state -/

theorem crash_settles (lawful : arm.Lawful) {Recovered : Prop}
    (unsettled : arm.Unsettled Recovered linked) (safe : linked.activity.id ≤ maxSafeInteger)
    (consuming : arm.phase linked.intent = .consuming) (hashless : linked.activity.txHash = none)
    (now : Instant) (reason : JsString) :
    ∃ committed wrote, arm.run now linked
        (.settleCrashedBeforeBroadcast linked.activity.sessionId reason) = .ok (committed, wrote)
      ∧ arm.phase committed.intent = .failed := by
  obtain ⟨settled, moved⟩ := lawful.crashes _ _ unsettled.link safe consuming
  have fits : HashFits linked.activity .crashedBeforeBroadcast := by simp [HashFits, hashless]
  have asserted := (lawful.assertion linked.intent linked.activity .crashedBeforeBroadcast).2
    ⟨fits, .inl consuming⟩
  have states := (lawful.states _ _ _ (lawful.settled _ _ _ _ unsettled.link unsettled.opened fits
    moved).1).1
  obtain ⟨result, passes, proved⟩ : ∃ result,
      runFailActivityEvent now linked.activity ⟨.broadcastError, reason⟩ .handlerReturn true false
        = .ok result
      ∧ (result.applied = true
        ∨ persistedActivityProvesOutcome result.row .crashedBeforeBroadcast = true) := by
    rcases unsettled.activity with pending | ⟨failed, -⟩
    · refine ⟨⟨true, failedWith now linked.activity ⟨.broadcastError, reason⟩, none⟩, ?_, .inl rfl⟩
      simp [runFailActivityEvent, runTerminalCas, claimFence, hashless, pending,
        AgentActivityEvent.checks, failedWith]
    · refine ⟨⟨false, linked.activity, none⟩, ?_, .inr ?_⟩
      · exact runTerminalCas_of_terminal (by simp [failed])
      · simp [persistedActivityProvesOutcome, failed, hashless]
  have goesOn : ¬(result.applied = false
      ∧ activityMatchesTarget result.row (.definitivelyFailed .broadcastError) = false
      ∧ persistedActivityProvesOutcome result.row .crashedBeforeBroadcast = false) := by
    rintro ⟨missed, -, unproved⟩
    rcases proved with applied | proves
    · rw [missed] at applied
      cases applied
    · rw [unproved] at proves
      cases proves
  refine ⟨⟨result.row, settled, completeExecution
    LinkedIntentRepairOutcome.crashedBeforeBroadcast.text
    (LinkedIntentRepairOutcome.crashedBeforeBroadcast = .confirmed) linked.execution⟩,
    result.applied, ?_, states⟩
  simp only [run, SettlementCall.coordinated, coordinate, settleRows, requireActivity, refuseIf,
    asserted, TerminalWrite.run, passes, moved, ne_eq, not_true_eq_false, if_false, ok_bind,
    Except.mapError, reduceCtorEq, false_and, Bool.not_eq_true, goesOn, Except.map]

theorem recovery_moves (lawful : arm.Lawful) {Recovered : Prop}
    (unsettled : arm.Unsettled Recovered linked) (known : arm.recover ≠ none)
    (consuming : arm.phase linked.intent = .consuming) {txHash : JsString}
    (staged : linked.activity.txHash = some txHash) (now : Instant) :
    ∃ sessionId committed, linked.activity.sessionId = some sessionId
      ∧ arm.run now linked (.recoverLinkedBroadcastUnconfirmed sessionId) = .ok (committed, true)
      ∧ arm.phase committed.intent = .broadcastUnconfirmed := by
  obtain ⟨sessionId, session⟩ := lawful.session _ _ unsettled.link
  obtain ⟨recover, found⟩ := Option.ne_none_iff_exists'.1 known
  obtain ⟨recovered, moved⟩ := lawful.recovers _ found _ _ _ unsettled.link staged consuming
  refine ⟨sessionId, ⟨linked.activity, recovered,
    completeExecution "broadcast_unconfirmed" false linked.execution⟩, session, ?_,
    (lawful.recovered _ found _ _ _ _ staged unsettled.link moved).2.1⟩
  simp only [run, SettlementCall.coordinated, recoverRows, requireActivity, refuseIf, session,
    staged, found, moved, ne_eq, not_true_eq_false, if_false, ok_bind]

end IntentArm

end Vex.Activity
