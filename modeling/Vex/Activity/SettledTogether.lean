import Vex.Activity.LinkedOutcomes

/-!
# The linked rows settle together

Whatever calls are made on the rows of an activity that one intent links, in
whatever order and however often, each of them commits or changes nothing, and
the rows agree in every state reached. An accepted settlement takes the intent
out of the consuming state in the same commit, and what it settled stays.

Two things the coordinator does by design (`outcomes_disagree`). A failure whose
code it has no outcome for ends the activity alone, and an execution that a
recovery completed stays failed after its transaction is confirmed.
-/

namespace Vex.Activity

open Vex.Library
open Vex.Wallet (Instant)
open Vex.Wallet.TransferIntents (WalletIntent WalletIntentStatus)
open Vex.Wallet.TransactionIntents (WalletTransactionIntent WalletTransactionIntentStatus)

/-! ## The rows of one intent -/

namespace LinkedRows

def intentPhase (rows : LinkedRows) : IntentPhase :=
  match rows.transactionIntent, rows.transferIntent with
  | some intent, _ => transactionPhase intent.status
  | none, some intent => transferPhase intent.status
  | none, none => .other

def intentHash (rows : LinkedRows) : Option JsString :=
  match rows.transactionIntent, rows.transferIntent with
  | some intent, _ => intent.txHash
  | none, some intent => intent.txHash
  | none, none => none

def executionStatus (rows : LinkedRows) : Option ExecutionStatus :=
  rows.execution.map ExecutionCompletion.executionStatus

end LinkedRows

/-- The rows of a linked intent, as the coordinator finds them. -/
structure Embeds {ι : Type} (arm : IntentArm ι) (embed : LinkedBy ι → LinkedRows) : Prop where
  activity : ∀ linked, (embed linked).activity = linked.activity
  phase : ∀ linked, (embed linked).intentPhase = arm.phase linked.intent
  hash : ∀ linked, (embed linked).intentHash = arm.hash linked.intent
  execution : ∀ linked, (embed linked).execution = some linked.execution
  run : ∀ linked, arm.Linked linked.activity linked.intent → ∀ (now : Instant)
    (call : SettlementCall), call.run now (embed linked)
      = (arm.run now linked call).map fun committed => (embed committed.1, committed.2)

theorem map_map {ε α β γ : Type} (checked : Except ε α) (make : α → β) (then' : β → γ) :
    (checked.map make).map then' = checked.map fun value => then' (make value) := by
  cases checked <;> rfl

theorem run_failAlone {input : FailActivityEventInput}
    (alone : linkedIntentOutcomeForFailure input.failureCode = none)
    (context : TerminalWriteContext) (now : Instant) (rows : LinkedRows) :
    (SettlementCall.failActivityEvent input context).run now rows
      = (((TerminalWrite.failActivityEvent input context).run now rows.activity).mapError
          .activity).map fun result => (rows.withActivity result.row, result.applied) := by
  simp only [SettlementCall.run, alone, TerminalWrite.run]
  cases runFailActivityEvent now rows.activity input context false false <;> rfl

variable {linked : LinkedBy WalletTransactionIntent}

theorem recover_transaction (link : transactionArm.Linked linked.activity linked.intent)
    (sessionId : JsString) :
    recoverLinkedBroadcastUnconfirmed linked.ofTransaction sessionId
      = (transactionArm.recoverRows linked sessionId).map
          fun committed => (committed.1.ofTransaction, committed.2) := by
  obtain ⟨found, -, valid⟩ := transaction_found link
  by_cases session : linked.activity.sessionId = some sessionId
  case neg =>
    simp [recoverLinkedBroadcastUnconfirmed, IntentArm.recoverRows, requireActivity,
      LinkedBy.ofTransaction, refuseIf, session, bind, Except.bind, Except.map]
  case pos =>
    rw [session] at valid
    simp only [recoverLinkedBroadcastUnconfirmed, IntentArm.recoverRows, requireActivity, found,
      show linked.ofTransaction.activity = linked.activity from rfl,
      show linked.ofTransaction.execution = some linked.execution from rfl, session, refuseIf,
      valid, ok_bind, ne_eq, not_true_eq_false, if_false,
      show transactionArm.recover = some recoverIntent from rfl]
    cases linked.activity.txHash with
    | none => rfl
    | some txHash =>
      simp only
      cases recoverIntent linked.intent linked.activity txHash <;> rfl

theorem settlePersisted_transaction (link : transactionArm.Linked linked.activity linked.intent)
    (sessionId : JsString) (verdict : LinkedActivityVerdict) :
    settleFromPersistedTerminalActivity linked.ofTransaction sessionId verdict
      = (transactionArm.settlePersisted linked sessionId verdict).map
          fun committed => (committed.1.ofTransaction, committed.2) := by
  obtain ⟨found, -, valid⟩ := transaction_found link
  have asserted : assertIntentCanSettle linked.intent linked.activity verdict.outcome
      = transactionArm.assertCanSettle linked.intent linked.activity verdict.outcome := rfl
  have settles : settleIntent linked.intent linked.activity verdict.outcome
      = transactionArm.settle linked.intent linked.activity verdict.outcome := rfl
  by_cases session : linked.activity.sessionId = some sessionId
  case neg =>
    simp [settleFromPersistedTerminalActivity, IntentArm.settlePersisted, requireActivity,
      LinkedBy.ofTransaction, refuseIf, session, bind, Except.bind, Except.map]
  case pos =>
    rw [session] at valid
    simp only [settleFromPersistedTerminalActivity, IntentArm.settlePersisted, requireActivity,
      found, show linked.ofTransaction.activity = linked.activity from rfl,
      show linked.ofTransaction.execution = some linked.execution from rfl, session, refuseIf,
      valid, ok_bind, ne_eq, not_true_eq_false, if_false, asserted,
      settleTransactionRows_found found, settles,
      show transactionArm.recover = some recoverIntent from rfl]
    split_ifs
    · cases transactionArm.assertCanSettle linked.intent linked.activity verdict.outcome with
      | error refused => rfl
      | ok =>
        cases transactionArm.settle linked.intent linked.activity verdict.outcome <;> rfl
    · rfl

theorem transaction_embeds : Embeds transactionArm LinkedBy.ofTransaction where
  activity _ := rfl
  phase _ := rfl
  hash _ := rfl
  execution _ := rfl
  run linked link now call := by
    cases coordinated : call.coordinated with
    | some how =>
      rw [SettlementCall.run_coordinated coordinated, settleRows_transaction link _ _ _
        fun result ran => TerminalWrite.run_keepsLink ran]
      simp only [IntentArm.run, coordinated, IntentArm.coordinate, map_map]
      rfl
    | none =>
      cases call with
      | failActivityEvent input context =>
        rw [run_failAlone (Option.map_eq_none_iff.1 coordinated)]
        simp only [IntentArm.run, coordinated, IntentArm.failAlone, map_map]
        rfl
      | recoverLinkedBroadcastUnconfirmed sessionId => exact recover_transaction link sessionId
      | settleFromPersistedTerminalActivity sessionId verdict =>
        exact settlePersisted_transaction link sessionId verdict
      | confirmActivityEvent input context => cases coordinated
      | confirmActivityEventStatusOnly source context => cases coordinated
      | markSupersededUnproven claimToken reason handlerWindowMs nonInclusionWindowMs =>
        cases coordinated
      | failSignedNotSubmitted sessionId failureReason => cases coordinated
      | settleCrashedBeforeBroadcast sessionId failureReason => cases coordinated

theorem transfer_embeds : Embeds transferArm LinkedBy.ofTransfer where
  activity _ := rfl
  phase _ := rfl
  hash _ := rfl
  execution _ := rfl
  run linked link now call := by
    cases coordinated : call.coordinated with
    | some how =>
      rw [SettlementCall.run_coordinated coordinated, settleRows_transfer link _ _ _
        fun result ran => TerminalWrite.run_keepsLink ran]
      simp only [IntentArm.run, coordinated, IntentArm.coordinate, map_map]
      rfl
    | none =>
      cases call with
      | failActivityEvent input context =>
        rw [run_failAlone (Option.map_eq_none_iff.1 coordinated)]
        simp only [IntentArm.run, coordinated, IntentArm.failAlone, map_map]
        rfl
      | recoverLinkedBroadcastUnconfirmed sessionId =>
        -- the recovery only looks for a transaction intent
        change recoverLinkedBroadcastUnconfirmed linked.ofTransfer sessionId
          = (transferArm.recoverRows linked sessionId).map _
        simp only [recoverLinkedBroadcastUnconfirmed, IntentArm.recoverRows, requireActivity,
          refuseIf, show linked.ofTransfer.activity = linked.activity from rfl,
          show transferArm.recover = none from rfl,
          show linked.ofTransfer.linkedTransactionIntent = none from rfl]
        split_ifs
        · rfl
        · cases linked.activity.txHash <;> rfl
      | settleFromPersistedTerminalActivity sessionId verdict =>
        change settleFromPersistedTerminalActivity linked.ofTransfer sessionId verdict
          = (transferArm.settlePersisted linked sessionId verdict).map _
        simp only [settleFromPersistedTerminalActivity, IntentArm.settlePersisted,
          requireActivity, refuseIf,
          show linked.ofTransfer.activity = linked.activity from rfl,
          show transferArm.recover = none from rfl,
          show linked.ofTransfer.linkedTransactionIntent = none from rfl]
        split_ifs <;> rfl
      | confirmActivityEvent input context => cases coordinated
      | confirmActivityEventStatusOnly source context => cases coordinated
      | markSupersededUnproven claimToken reason handlerWindowMs nonInclusionWindowMs =>
        cases coordinated
      | failSignedNotSubmitted sessionId failureReason => cases coordinated
      | settleCrashedBeforeBroadcast sessionId failureReason => cases coordinated

/-! ## Every sequence of calls -/

def IsRecovery (call : SettlementCall) : Prop :=
  ∃ sessionId, call = .recoverLinkedBroadcastUnconfirmed sessionId

def IntentPhase.Terminal (phase : IntentPhase) : Prop :=
  phase = .executed ∨ phase = .failed ∨ phase = .supersededUnproven

structure Agreement (rows : LinkedRows) : Prop where
  confirmed : rows.activity.status = .confirmed ↔ rows.intentPhase = .executed
  confirmedHash : rows.intentPhase = .executed →
    rows.intentHash = rows.activity.txHash ∧ rows.activity.txHash ≠ none
  failed : rows.intentPhase = .failed → rows.activity.status = .definitivelyFailed
  definitivelyFailed : rows.activity.status = .definitivelyFailed → rows.intentPhase = .failed
      ∨ (rows.intentPhase = .supersededUnproven
        ∧ rows.activity.failureCode = some .solanaSignatureExpired)
      ∨ (IntentArm.FailedAlone rows.activity
        ∧ (rows.intentPhase = .consuming ∨ rows.intentPhase = .broadcastUnconfirmed))
  supersededUnproven : rows.activity.status = .supersededUnproven →
    rows.intentPhase = .supersededUnproven
  succeeded : rows.executionStatus = some .succeeded → rows.activity.status = .confirmed
  completed : rows.intentPhase.Terminal → rows.executionStatus ≠ some .intent

theorem Agreement.of_failed {rows : LinkedRows}
    (status : rows.activity.status = .definitivelyFailed) (phase : rows.intentPhase = .failed)
    (unsuccessful : rows.executionStatus ≠ some .succeeded)
    (completed : rows.executionStatus ≠ some .intent) : Agreement rows where
  confirmed := by simp [status, phase]
  confirmedHash executed := by
    rw [phase] at executed
    cases executed
  failed _ := status
  definitivelyFailed _ := .inl phase
  supersededUnproven superseded := by
    rw [status] at superseded
    cases superseded
  succeeded success := absurd success unsuccessful
  completed _ := completed

/-- What a sequence of calls on the rows of an activity promises, wherever it is cut. -/
structure SettlesTogether (start : LinkedRows) (calls : List TimedCall) : Prop where
  /-- A call commits what it reports, or it changes nothing. -/
  atomic : ∀ before timed after, calls = before ++ timed :: after →
    settleStep (run settleStep start before) timed = run settleStep start before ∨
      ∃ wrote, timed.call.run timed.now (run settleStep start before)
        = .ok (settleStep (run settleStep start before) timed, wrote)
  agreement : Agreement (run settleStep start calls)
  /-- Without a recovery the execution succeeds exactly where the activity is confirmed. -/
  execution : start.intentPhase = .consuming → (∀ timed ∈ calls, ¬IsRecovery timed.call) →
    ((run settleStep start calls).activity.status = .confirmed ↔
      (run settleStep start calls).executionStatus = some .succeeded)
  absorbing : ∀ before after, calls = before ++ after →
    (run settleStep start before).intentPhase.Terminal →
      run settleStep start calls = run settleStep start before
  /-- A settlement that wrote succeeds when it is repeated, and changes nothing then. -/
  repeated : ∀ before timed after, calls = before ++ timed :: after → ¬IsRecovery timed.call →
    ∀ committed, timed.call.run timed.now (run settleStep start before) = .ok (committed, true) →
      ∀ later, ∃ wrote, timed.call.run later (run settleStep start calls)
        = .ok (run settleStep start calls, wrote)
  /-- A settlement the activity accepted has settled the intent, if it has an outcome for it. -/
  settles : ∀ before timed after, calls = before ++ timed :: after → timed.call.coordinated ≠ none →
    ∀ committed, timed.call.run timed.now (run settleStep start before) = .ok (committed, true) →
      committed.intentPhase.Terminal
  /-- A consuming intent can still be moved, when nothing is staged or the table is recovered. -/
  movable : (run settleStep start calls).intentPhase = .consuming →
    (run settleStep start calls).activity.id ≤ maxSafeInteger →
    (run settleStep start calls).activity.txHash = none ∨ start.transactionIntent ≠ none →
      ∃ call : SettlementCall, ∀ now, ∃ committed wrote,
        call.run now (run settleStep start calls) = .ok (committed, wrote)
          ∧ (committed.intentPhase = .failed ∨ committed.intentPhase = .broadcastUnconfirmed)

namespace IntentArm

variable {ι : Type} {arm : IntentArm ι}

/-- The rows the handler leaves to be settled: the activity is pending, the intent is open, and
an execution that is not open did not succeed. -/
structure Starts (arm : IntentArm ι) (linked : LinkedBy ι) : Prop where
  link : arm.Linked linked.activity linked.intent
  opened : arm.Open linked.activity linked.intent
  pending : linked.activity.status = .pending
  execution : linked.execution.executionStatus ≠ .succeeded
  consuming : arm.phase linked.intent = .consuming → linked.execution.executionStatus = .intent

variable {linked : LinkedBy ι}

theorem Starts.unsettled (starts : arm.Starts linked) {Recovered : Prop}
    (unrecovered : ¬Recovered → arm.phase linked.intent = .consuming) :
    arm.Unsettled Recovered linked where
  link := starts.link
  opened := starts.opened
  activity := .inl starts.pending
  execution := starts.execution
  consuming := starts.consuming
  unrecovered := unrecovered

theorem Consistent.link {Recovered : Prop} (consistent : arm.Consistent Recovered linked) :
    arm.Linked linked.activity linked.intent := by
  rcases consistent with unsettled | ⟨outcome, settled⟩
  · exact unsettled.link
  · exact settled.link

theorem consistent_run (lawful : arm.Lawful) (consistent : arm.Consistent True linked)
    (calls : List TimedCall) : arm.Consistent True (Library.run arm.step linked calls) :=
  run_induction (motive := arm.Consistent True)
    (fun _ _ holds => consistent_step lawful holds fun _ _ => trivial) consistent calls

theorem consistent_run_unrecovered (lawful : arm.Lawful) (consistent : arm.Consistent False linked)
    {calls : List TimedCall} (unrecovered : ∀ timed ∈ calls, ¬IsRecovery timed.call) :
    arm.Consistent False (Library.run arm.step linked calls) := by
  induction calls generalizing linked with
  | nil => exact consistent
  | cons timed calls ih =>
    refine ih (consistent_step lawful consistent fun sessionId same => ?_)
      fun other member => unrecovered other (List.mem_cons_of_mem _ member)
    exact unrecovered timed List.mem_cons_self ⟨sessionId, same⟩

section Embedded

variable {embed : LinkedBy ι → LinkedRows} (embeds : Embeds arm embed)

include embeds

variable {linked : LinkedBy ι}

theorem step_embed (link : arm.Linked linked.activity linked.intent) (timed : TimedCall) :
    settleStep (embed linked) timed = embed (arm.step linked timed) := by
  unfold settleStep step
  rw [embeds.run linked link]
  cases arm.run timed.now linked timed.call <;> rfl

theorem run_embed (lawful : arm.Lawful) (consistent : arm.Consistent True linked)
    (calls : List TimedCall) :
    Library.run settleStep (embed linked) calls = embed (Library.run arm.step linked calls) := by
  induction calls generalizing linked with
  | nil => rfl
  | cons timed calls ih =>
    rw [run_cons, run_cons, step_embed embeds consistent.link,
      ih (consistent_step lawful consistent fun _ _ => trivial)]

theorem agreement_of_consistent (lawful : arm.Lawful) (consistent : arm.Consistent True linked) :
    Agreement (embed linked) := by
  have phase := embeds.phase linked
  have hash := embeds.hash linked
  have activity := embeds.activity linked
  have status : (embed linked).executionStatus = some linked.execution.executionStatus := by
    rw [LinkedRows.executionStatus, embeds.execution, Option.map_some]
  rcases consistent with unsettled | ⟨outcome, settled⟩
  case inl =>
    have waiting : arm.phase linked.intent = .consuming
        ∨ arm.phase linked.intent = .broadcastUnconfirmed := by
      rcases unsettled.opened with ⟨consuming, -⟩ | ⟨unconfirmed, -⟩
      · exact .inl consuming
      · exact .inr unconfirmed
    have notConfirmed : linked.activity.status ≠ .confirmed
        ∧ linked.activity.status ≠ .supersededUnproven := by
      rcases unsettled.activity with pending | ⟨failed, -⟩
      · simp [pending]
      · simp [failed]
    refine ⟨?_, ?_, ?_, ?_, ?_, ?_, ?_⟩
    · rw [activity, phase]
      refine iff_of_false notConfirmed.1 fun executed => ?_
      rw [executed] at waiting
      rcases waiting with waiting | waiting <;> cases waiting
    · rw [phase]
      intro executed
      rw [executed] at waiting
      rcases waiting with waiting | waiting <;> cases waiting
    · rw [phase]
      intro failed
      rw [failed] at waiting
      rcases waiting with waiting | waiting <;> cases waiting
    · rw [activity, phase]
      intro failed
      rcases unsettled.activity with pending | alone
      · rw [pending] at failed
        cases failed
      · exact .inr (.inr ⟨alone, waiting⟩)
    · rw [activity]
      exact fun superseded => absurd superseded notConfirmed.2
    · rw [status]
      exact fun succeeded => absurd (Option.some.inj succeeded) unsettled.execution
    · rw [phase]
      rintro (terminal | terminal | terminal) <;> rw [terminal] at waiting <;>
        rcases waiting with waiting | waiting <;> cases waiting
  case inr =>
    obtain ⟨intentPhase, intentHash⟩ := lawful.states _ _ _ settled.states
    have ended := settled.ended
    have fits := settled.fits
    have succeeded := settled.succeeded
    have completed : (embed linked).executionStatus ≠ some .intent := by
      rw [status]
      exact fun opened => settled.completed (Option.some.inj opened)
    rw [intentPhase] at phase
    rw [intentHash] at hash
    cases outcome with
    | confirmed =>
      have ended : linked.activity.status = .confirmed := ended
      have staged : linked.activity.txHash ≠ none := fun nothing => by cases fits.1 nothing
      refine ⟨?_, ?_, ?_, ?_, ?_, ?_, fun _ => completed⟩
      · rw [activity, phase]
        exact iff_of_true ended rfl
      · rw [hash, activity]
        exact fun _ => ⟨rfl, staged⟩
      · rw [phase]
        exact fun failed => by cases failed
      · rw [activity, ended]
        exact fun failed => by cases failed
      · rw [activity, ended]
        exact fun superseded => by cases superseded
      · rw [activity]
        exact fun _ => ended
    | reverted | signedNotSubmitted =>
      exact Agreement.of_failed (by rw [activity]; exact ended.1) phase
        (fun success => by cases succeeded (Option.some.inj (status ▸ success))) completed
    | supersededUnproven =>
      refine ⟨?_, ?_, ?_, ?_, ?_, ?_, fun _ => completed⟩
      · rw [activity, phase]
        rcases ended with superseded | ⟨failed, -⟩
        · simp [superseded, outcomePhase]
        · simp [failed, outcomePhase]
      · rw [phase]
        exact fun executed => by cases executed
      · rw [phase]
        exact fun failed => by cases failed
      · rw [activity, phase]
        intro failed
        rcases ended with superseded | ⟨-, code⟩
        · rw [superseded] at failed
          cases failed
        · exact .inr (.inl ⟨rfl, code⟩)
      · rw [phase]
        exact fun _ => rfl
      · rw [status]
        exact fun success => by cases succeeded (Option.some.inj success)
    | crashedBeforeBroadcast =>
      exact Agreement.of_failed (by rw [activity]; exact ended) phase
        (fun success => by cases succeeded (Option.some.inj (status ▸ success))) completed

theorem run_embed_eq_ok (link : arm.Linked linked.activity linked.intent) {now : Instant}
    {call : SettlementCall} {committed : LinkedRows} {wrote : Bool}
    (ran : call.run now (embed linked) = .ok (committed, wrote)) :
    ∃ after, arm.run now linked call = .ok (after, wrote) ∧ embed after = committed := by
  rw [embeds.run linked link] at ran
  obtain ⟨⟨after, wrote'⟩, commits, same⟩ := map_eq_ok.1 ran
  obtain ⟨rfl, rfl⟩ := Prod.mk.inj same
  exact ⟨after, commits, rfl⟩

theorem terminal_of_settled (lawful : arm.Lawful) {Recovered : Prop}
    {outcome : LinkedIntentRepairOutcome} (settled : arm.Settled Recovered outcome linked) :
    (embed linked).intentPhase.Terminal := by
  rw [embeds.phase, (lawful.states _ _ _ settled.states).1]
  cases outcome <;> simp [IntentPhase.Terminal, outcomePhase]

theorem settled_of_terminal {Recovered : Prop} (consistent : arm.Consistent Recovered linked)
    (terminal : (embed linked).intentPhase.Terminal) :
    ∃ outcome, arm.Settled Recovered outcome linked := by
  rcases consistent with unsettled | settled
  · rw [embeds.phase] at terminal
    rcases unsettled.opened with ⟨phase, -⟩ | ⟨phase, -⟩ <;> rw [phase] at terminal <;>
      rcases terminal with terminal | terminal | terminal <;> cases terminal
  · exact settled

/-- Without recoveries the execution of consistent rows succeeded exactly where the activity is
confirmed. -/
theorem execution_of_unrecovered (consistent : arm.Consistent False linked) :
    (embed linked).activity.status = .confirmed ↔
      (embed linked).executionStatus = some .succeeded := by
  rw [embeds.activity, LinkedRows.executionStatus, embeds.execution, Option.map_some,
    Option.some.injEq]
  rcases consistent with unsettled | ⟨outcome, settled⟩
  · refine iff_of_false (fun confirmed => ?_) unsettled.execution
    rcases unsettled.activity with pending | ⟨failed, -⟩
    · rw [pending] at confirmed
      cases confirmed
    · rw [failed] at confirmed
      cases confirmed
  · refine ⟨fun confirmed => settled.unrecovered not_false ?_, fun succeeded => ?_⟩
    · have ended := settled.ended
      cases outcome with
      | confirmed => rfl
      | reverted | signedNotSubmitted => cases ended.1.symm.trans confirmed
      | supersededUnproven =>
        rcases ended with superseded | ⟨failed, -⟩
        · cases superseded.symm.trans confirmed
        · cases failed.symm.trans confirmed
      | crashedBeforeBroadcast =>
        cases (show linked.activity.status = .definitivelyFailed from ended).symm.trans confirmed
    · have ended := settled.ended
      rw [settled.succeeded succeeded] at ended
      exact ended

theorem settlesTogether (lawful : arm.Lawful) (starts : arm.Starts linked)
    (recovered : (embed linked).transactionIntent ≠ none → arm.recover ≠ none)
    (calls : List TimedCall) : SettlesTogether (embed linked) calls := by
  have consistent : arm.Consistent True linked :=
    .inl (starts.unsettled fun never => absurd trivial never)
  have consistentAt : ∀ ops, arm.Consistent True (Library.run arm.step linked ops) :=
    consistent_run lawful consistent
  have embedded : ∀ ops,
      Library.run settleStep (embed linked) ops = embed (Library.run arm.step linked ops) :=
    run_embed embeds lawful consistent
  refine ⟨?_, ?_, ?_, ?_, ?_, ?_, ?_⟩
  · intro before timed after _
    cases ran : timed.call.run timed.now (Library.run settleStep (embed linked) before) with
    | error refused => exact .inl (by simp only [settleStep, ran])
    | ok committed => exact .inr ⟨committed.2, by simp only [settleStep, ran]⟩
  · rw [embedded]
    exact agreement_of_consistent embeds lawful (consistentAt calls)
  · intro consuming unrecovered
    rw [embeds.phase] at consuming
    rw [embedded]
    exact execution_of_unrecovered embeds (consistent_run_unrecovered lawful
      (.inl (starts.unsettled fun _ => consuming)) unrecovered)
  · rintro before after rfl terminal
    rw [embedded] at terminal
    obtain ⟨outcome, settled⟩ := settled_of_terminal embeds (consistentAt before) terminal
    rw [embedded, embedded, run_append, settled_run lawful settled]
  · rintro before timed after rfl settlement committed ran later
    rw [embedded] at ran
    obtain ⟨next, ran, -⟩ := run_embed_eq_ok embeds (consistentAt before).link ran
    have stepped : arm.step (Library.run arm.step linked before) timed = next := by
      simp only [step, ran]
    obtain ⟨wrote, again⟩ := run_again lawful (consistentAt before)
      (fun sessionId same => settlement ⟨sessionId, same⟩) ran after later
    refine ⟨wrote, ?_⟩
    rw [embedded, embeds.run _ (consistentAt _).link, run_append, run_cons, stepped, again]
    rfl
  · rintro before timed after rfl coordinated committed ran
    rw [embedded] at ran
    obtain ⟨next, commits, rfl⟩ := run_embed_eq_ok embeds (consistentAt before).link ran
    obtain ⟨how, how_eq⟩ := Option.ne_none_iff_exists'.1 coordinated
    unfold IntentArm.run at commits
    rw [how_eq] at commits
    exact terminal_of_settled embeds lawful
      (coordinate_wrote lawful (consistentAt before) how_eq commits).1
  · rw [embedded, embeds.phase, embeds.activity]
    intro consuming safe reachable
    have unsettled : arm.Unsettled True (Library.run arm.step linked calls) := by
      rcases consistentAt calls with unsettled | ⟨outcome, settled⟩
      · exact unsettled
      · rw [(lawful.states _ _ _ settled.states).1] at consuming
        cases outcome <;> cases consuming
    cases staged : (Library.run arm.step linked calls).activity.txHash with
    | none =>
      refine ⟨.settleCrashedBeforeBroadcast
        (Library.run arm.step linked calls).activity.sessionId [], fun now => ?_⟩
      obtain ⟨committed, wrote, ran, failed⟩ := crash_settles lawful unsettled safe consuming
        staged now []
      refine ⟨embed committed, wrote, ?_, .inl ?_⟩
      · rw [embeds.run _ unsettled.link, ran]
        rfl
      · rw [embeds.phase, failed]
    | some txHash =>
      rw [staged] at reachable
      have known := recovered (reachable.resolve_left (Option.some_ne_none txHash))
      obtain ⟨sessionId, -, session, -, -⟩ := recovery_moves lawful unsettled known consuming
        staged 0
      refine ⟨.recoverLinkedBroadcastUnconfirmed sessionId, fun now => ?_⟩
      obtain ⟨sessionId', committed, session', ran, unconfirmed⟩ := recovery_moves lawful
        unsettled known consuming staged now
      obtain rfl := Option.some.inj (session.symm.trans session')
      refine ⟨embed committed, true, ?_, .inr ?_⟩
      · rw [embeds.run _ unsettled.link, ran]
        rfl
      · rw [embeds.phase, unconfirmed]

end Embedded

end IntentArm

/-- Rows that the handler leaves to be settled, with the intent of either table. -/
inductive StartsLinked : LinkedRows → Prop where
  | transaction (linked : LinkedBy WalletTransactionIntent) (starts : transactionArm.Starts linked) :
      StartsLinked linked.ofTransaction
  | transfer (linked : LinkedBy WalletIntent) (starts : transferArm.Starts linked) :
      StartsLinked linked.ofTransfer

/-- Along every sequence of calls the rows of an activity settle together. -/
theorem linked_rows_settle_together (start : LinkedRows) (starts : StartsLinked start)
    (calls : List TimedCall) : SettlesTogether start calls := by
  cases starts with
  | transaction linked starts =>
    exact IntentArm.settlesTogether transaction_embeds transactionArm_lawful starts
      (fun _ => Option.some_ne_none _) calls
  | transfer linked starts =>
    exact IntentArm.settlesTogether transfer_embeds transferArm_lawful starts
      (fun none' => absurd rfl none') calls

/-! ## The rows of one transaction -/

def stagedCall : AgentActivityEvent where
  id := 7
  protocolExecutionId := 3
  eventRole := .txContractCall
  kind := .transaction
  chainFamily := .eip155
  chainId := 1
  sessionId := some (JsString.ofString "s")
  status := .pending
  failureCode := none
  failureReason := none
  tokenIn2Address := none
  tokenOut2Address := none
  executed := ⟨none, none, none, none, none, none, none, none⟩
  txHash := some (JsString.ofString "0x07")
  nonceReservationUntil := none
  submitAttemptedAt := some 0
  lastCheckedAt := none
  confirmedAt := none
  updatedAt := 0
  confirmationSource := none
  settlementSource := none
  pendingReason := none
  evmClaimLeaseUntil := none
  evmClaimToken := none
  firstNoninclusionObservedAt := none

def consumedIntent : WalletTransactionIntent where
  intentId := JsString.ofString "i"
  sessionId := JsString.ofString "s"
  proposalDigest := JsString.ofString "d"
  status := .consuming
  failureStage := none
  activityId := some 7
  expiresAt := 60000
  consumedAt := some 0
  cancelledAt := none
  txHash := none
  failureReason := none

/-- The rows of the call, as its handler left them. -/
def stagedRows : LinkedBy WalletTransactionIntent where
  activity := stagedCall
  intent := consumedIntent
  execution := ⟨.intent, false, none⟩

theorem stagedRows_starts : StartsLinked stagedRows.ofTransaction := by
  refine .transaction stagedRows ⟨⟨rfl, rfl, by decide⟩, .inl ⟨rfl, rfl⟩, rfl, by decide, ?_⟩
  exact fun _ => rfl

def confirmCall : SettlementCall :=
  .confirmActivityEvent ⟨none, none, none, none, none, none, none, none⟩ .handlerReturn

theorem linked_rows_settle_together_staged : SettlesTogether stagedRows.ofTransaction
        [⟨1, confirmCall⟩, ⟨2, confirmCall⟩,
          ⟨3, .failActivityEvent ⟨.minedRevert, []⟩ .handlerReturn⟩] :=
  linked_rows_settle_together _ stagedRows_starts _

/-- A failure with a code the coordinator has no outcome for ends the activity and leaves the
intent consuming; an execution that a recovery completed stays failed after the confirmation. -/
theorem outcomes_disagree :
    let failed := run settleStep stagedRows.ofTransaction
      [⟨1, .failActivityEvent ⟨.unknown, []⟩ .handlerReturn⟩]
    let confirmed := run settleStep stagedRows.ofTransaction
      [⟨1, .recoverLinkedBroadcastUnconfirmed (JsString.ofString "s")⟩, ⟨2, confirmCall⟩]
    (failed.activity.status = .definitivelyFailed ∧ failed.intentPhase = .consuming)
      ∧ (confirmed.activity.status = .confirmed ∧ confirmed.intentPhase = .executed
        ∧ confirmed.executionStatus = some .failed) := by
  decide

end Vex.Activity
