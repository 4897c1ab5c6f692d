import Vex.Activity.LinkedSettlement

/-!
# The two intents behind one interface

The coordinator treats the intents of transactions and of transfers alike. An
`IntentArm` is what it does with an intent of one table, and `IntentArm.Lawful`
is what its results rest on: when the intent may settle, and that a settled
intent states the outcome. Both tables are lawful arms, and what the coordinator
does with one linked intent is the same function of the arm
(`run_transaction`, `run_transfer`).
-/

namespace Vex.Activity

open Vex.Library
open Vex.Wallet (Instant CheckViolation)
open Vex.Wallet.TransferIntents (WalletIntent WalletIntentStatus)
open Vex.Wallet.TransactionIntents (WalletTransactionIntent WalletTransactionIntentStatus)

/-- Where an intent stands, in the words the two tables share. -/
inductive IntentPhase where
  | consuming
  | broadcastUnconfirmed
  | executed
  | failed
  | supersededUnproven
  | other
  deriving DecidableEq

def transactionPhase : WalletTransactionIntentStatus → IntentPhase
  | .consuming => .consuming
  | .broadcastUnconfirmed => .broadcastUnconfirmed
  | .executed => .executed
  | .failed => .failed
  | .supersededUnproven => .supersededUnproven
  | .pending | .auditFailed | .cancelled | .expired => .other

def transferPhase : WalletIntentStatus → IntentPhase
  | .consuming => .consuming
  | .broadcastUnconfirmed => .broadcastUnconfirmed
  | .executed => .executed
  | .failed => .failed
  | .supersededUnproven => .supersededUnproven
  | .pending | .reviewRequired | .auditFailed | .cancelled | .expired => .other

/-- The hash an outcome needs on the activity: one for a signature, none for a crash. -/
def HashFits (activity : AgentActivityEvent) (outcome : LinkedIntentRepairOutcome) : Prop :=
  activity.txHash = none ↔ outcome = .crashedBeforeBroadcast

/-- Whether an intent of a phase may settle as an outcome it does not state yet. -/
def MaySettle (phase : IntentPhase) : LinkedIntentRepairOutcome → Prop
  | .signedNotSubmitted | .crashedBeforeBroadcast => phase = .consuming
  | .confirmed | .reverted | .supersededUnproven =>
    phase = .consuming ∨ phase = .broadcastUnconfirmed

def outcomePhase : LinkedIntentRepairOutcome → IntentPhase
  | .confirmed => .executed
  | .reverted | .crashedBeforeBroadcast | .signedNotSubmitted => .failed
  | .supersededUnproven => .supersededUnproven

def outcomeHash (activity : AgentActivityEvent) : LinkedIntentRepairOutcome → Option JsString
  | .confirmed | .reverted | .supersededUnproven => activity.txHash
  | .crashedBeforeBroadcast | .signedNotSubmitted => none

structure IntentArm (ι : Type) where
  phase : ι → IntentPhase
  hash : ι → Option JsString
  /-- The intent and the activity point at each other and agree. -/
  Linked : AgentActivityEvent → ι → Prop
  matchesOutcome : ι → AgentActivityEvent → LinkedIntentRepairOutcome → Bool
  assertCanSettle : ι → AgentActivityEvent → LinkedIntentRepairOutcome → Except SettlementError Unit
  settle : ι → AgentActivityEvent → LinkedIntentRepairOutcome → Except SettlementError ι
  /-- What a recovery makes of the intent, where it knows the table. -/
  recover : Option (ι → AgentActivityEvent → JsString → Except SettlementError ι)

namespace IntentArm

variable {ι : Type}

/-- An intent whose broadcast is not settled: nothing recorded yet, or the activity's hash. -/
def Open (arm : IntentArm ι) (activity : AgentActivityEvent) (intent : ι) : Prop :=
  (arm.phase intent = .consuming ∧ arm.hash intent = none) ∨
    (arm.phase intent = .broadcastUnconfirmed ∧ arm.hash intent = activity.txHash
      ∧ activity.txHash ≠ none)

/-- What the results about the coordinator ask of an arm. -/
structure Lawful (arm : IntentArm ι) : Prop where
  assertion : ∀ intent activity outcome, arm.assertCanSettle intent activity outcome = .ok () ↔
    HashFits activity outcome ∧
      (MaySettle (arm.phase intent) outcome ∨ arm.matchesOutcome intent activity outcome = true)
  states : ∀ intent activity outcome, arm.matchesOutcome intent activity outcome = true →
    arm.phase intent = outcomePhase outcome ∧ arm.hash intent = outcomeHash activity outcome
  matched : ∀ intent activity outcome, arm.matchesOutcome intent activity outcome = true →
    arm.settle intent activity outcome = .ok intent
  settled : ∀ intent activity outcome settled, arm.Linked activity intent →
    arm.Open activity intent → HashFits activity outcome →
      arm.settle intent activity outcome = .ok settled →
        arm.matchesOutcome settled activity outcome = true ∧ arm.Linked activity settled
  recovered : ∀ recover, arm.recover = some recover → ∀ intent activity txHash result,
    activity.txHash = some txHash → arm.Linked activity intent →
      recover intent activity txHash = .ok result →
        arm.Linked activity result ∧ arm.phase result = .broadcastUnconfirmed
          ∧ arm.hash result = activity.txHash
          ∧ (arm.phase intent = .consuming ∨ result = intent)
  /-- Only these columns of the activity matter to the link and to the match. -/
  linkedCongr : ∀ activity activity' intent, activity'.id = activity.id →
    activity'.sessionId = activity.sessionId → activity'.eventRole = activity.eventRole →
    activity'.kind = activity.kind → activity'.chainFamily = activity.chainFamily →
      arm.Linked activity intent → arm.Linked activity' intent
  matchesCongr : ∀ activity activity' intent outcome, activity'.txHash = activity.txHash →
    arm.matchesOutcome intent activity' outcome = arm.matchesOutcome intent activity outcome
  session : ∀ activity intent, arm.Linked activity intent →
    ∃ sessionId, activity.sessionId = some sessionId
  /-- A consuming intent can be settled as crashed, and recovered where the table is known. -/
  crashes : ∀ activity intent, arm.Linked activity intent → activity.id ≤ maxSafeInteger →
    arm.phase intent = .consuming →
      ∃ settled, arm.settle intent activity .crashedBeforeBroadcast = .ok settled
  recovers : ∀ recover, arm.recover = some recover → ∀ activity intent txHash,
    arm.Linked activity intent → activity.txHash = some txHash → arm.phase intent = .consuming →
      ∃ recovered, recover intent activity txHash = .ok recovered

end IntentArm

/-! ## The table of transactions -/

def transactionArm : IntentArm WalletTransactionIntent where
  phase intent := transactionPhase intent.status
  hash intent := intent.txHash
  Linked activity intent :=
    intent.activityId = some activity.id ∧ some intent.sessionId = activity.sessionId
      ∧ Wallet.TransactionIntents.checks intent = true
  matchesOutcome := intentMatchesOutcome
  assertCanSettle := assertIntentCanSettle
  settle := settleIntent
  recover := some recoverIntent

def transferArm : IntentArm WalletIntent where
  phase intent := transferPhase intent.status
  hash intent := intent.txHash
  Linked activity intent :=
    intent.activityId = some activity.id ∧ some intent.sessionId = activity.sessionId
      ∧ activity.eventRole = .walletTransfer ∧ activity.kind = .transfer
      ∧ chainFamilyOf intent.network = activity.chainFamily
  matchesOutcome := transferIntentMatchesOutcome
  assertCanSettle := assertTransferIntentCanSettle
  settle := settleTransferIntent
  recover := none

variable {status : WalletTransactionIntentStatus}

theorem transactionPhase_eq_consuming :
    transactionPhase status = .consuming ↔ status = .consuming := by
  cases status <;> simp [transactionPhase]

theorem transactionPhase_eq_unconfirmed :
    transactionPhase status = .broadcastUnconfirmed ↔ status = .broadcastUnconfirmed := by
  cases status <;> simp [transactionPhase]

theorem transferPhase_eq_consuming {status : WalletIntentStatus} :
    transferPhase status = .consuming ↔ status = .consuming := by
  cases status <;> simp [transferPhase]

theorem transferPhase_eq_unconfirmed {status : WalletIntentStatus} :
    transferPhase status = .broadcastUnconfirmed ↔ status = .broadcastUnconfirmed := by
  cases status <;> simp [transferPhase]

variable {activity : AgentActivityEvent} {outcome : LinkedIntentRepairOutcome}

theorem assertCanSettle_eq_ok {texts : CanSettleTexts} {consuming unconfirmed matched : Bool}
    {phase : IntentPhase} (consumingPhase : phase = .consuming ↔ consuming = true)
    (unconfirmedPhase : phase = .broadcastUnconfirmed ↔ unconfirmed = true) :
    assertCanSettle texts consuming unconfirmed matched activity outcome = .ok () ↔
      HashFits activity outcome ∧ (MaySettle phase outcome ∨ matched = true) := by
  cases outcome with
  | signedNotSubmitted | crashedBeforeBroadcast =>
    simp [assertCanSettle, bind_eq_ok, HashFits, MaySettle, consumingPhase, or_iff_not_imp_left]
  | confirmed | reverted | supersededUnproven =>
    simp [assertCanSettle, bind_eq_ok, HashFits, MaySettle, consumingPhase, unconfirmedPhase,
      or_iff_not_imp_left]

theorem orThrow_eq_ok {α : Type} {written : Except CheckViolation α} {value : α} :
    orThrow written = .ok value ↔ written = .ok value := mapError_eq_ok

variable {intent : WalletTransactionIntent}

theorem advanceToUnconfirmed_eq_ok {moved : WalletTransactionIntent}
    (advanced : advanceToUnconfirmed intent activity = .ok moved) :
    ∃ txHash, activity.txHash = some txHash ∧ intent.status = .consuming ∧
      moved = { intent with status := .broadcastUnconfirmed, txHash := some txHash } ∧
      Wallet.TransactionIntents.checks moved = true := by
  unfold advanceToUnconfirmed at advanced
  split at advanced
  · cases advanced
  case h_2 txHash staged =>
    obtain ⟨written, marked, passed⟩ := bind_eq_ok.1 advanced
    cases written with
    | none => cases passed
    | some row =>
      obtain rfl := Except.ok.inj passed
      obtain ⟨⟨-, -, consuming⟩, admitted, same⟩ :=
        Wallet.casRow_eq_some.1 (orThrow_eq_ok.1 marked)
      exact ⟨txHash, staged, consuming, same.symm, same ▸ admitted⟩

theorem settleIntent_matches {settled : WalletTransactionIntent}
    (opened : transactionArm.Open activity intent)
    (admitted : Wallet.TransactionIntents.checks intent = true)
    (ran : settleIntent intent activity outcome = .ok settled) :
    intentMatchesOutcome settled activity outcome = true
      ∧ settled.activityId = intent.activityId ∧ settled.sessionId = intent.sessionId
      ∧ Wallet.TransactionIntents.checks settled = true := by
  unfold settleIntent at ran
  split at ran
  case isTrue stated =>
    obtain rfl := Except.ok.inj ran
    exact ⟨stated, rfl, rfl, admitted⟩
  case isFalse =>
    obtain ⟨current, advanced, ran⟩ := bind_eq_ok.1 ran
    obtain ⟨written, wrote, ran⟩ := bind_eq_ok.1 ran
    have kept : current.activityId = intent.activityId ∧ current.sessionId = intent.sessionId
        ∧ Wallet.TransactionIntents.checks current = true := by
      unfold currentFor at advanced
      split_ifs at advanced
      · obtain ⟨txHash, -, -, rfl, moved⟩ := advanceToUnconfirmed_eq_ok advanced
        exact ⟨rfl, rfl, moved⟩
      · obtain rfl := Except.ok.inj advanced
        exact ⟨rfl, rfl, admitted⟩
    have hash : current.status = .broadcastUnconfirmed → current.txHash = activity.txHash := by
      intro unconfirmed
      unfold currentFor at advanced
      split_ifs at advanced with move
      · obtain ⟨txHash, staged, -, rfl, -⟩ := advanceToUnconfirmed_eq_ok advanced
        exact staged.symm
      · obtain rfl := Except.ok.inj advanced
        rcases opened with ⟨consuming, -⟩ | ⟨-, same, -⟩
        · rw [show intent.status = .consuming from transactionPhase_eq_consuming.1 consuming]
            at unconfirmed
          cases unconfirmed
        · exact same
    have noHash : current.status = .consuming → current.txHash = none := by
      intro consuming
      unfold currentFor at advanced
      split_ifs at advanced with move
      · obtain ⟨txHash, staged, -, rfl, -⟩ := advanceToUnconfirmed_eq_ok advanced
        cases consuming
      · obtain rfl := Except.ok.inj advanced
        rcases opened with ⟨-, nothing⟩ | ⟨unconfirmed, -⟩
        · exact nothing
        · rw [show intent.status = .broadcastUnconfirmed from
            transactionPhase_eq_unconfirmed.1 unconfirmed] at consuming
          cases consuming
    have wrote := orThrow_eq_ok.1 wrote
    cases written with
    | none =>
      split_ifs at ran with stated
      obtain rfl := Except.ok.inj ran
      exact ⟨stated, kept⟩
    | some row =>
      obtain rfl := Except.ok.inj ran
      cases outcome with
      | confirmed | reverted | supersededUnproven =>
        obtain ⟨⟨-, -, unconfirmed⟩, written, rfl⟩ := Wallet.casRow_eq_some.1 wrote
        exact ⟨by simp [intentMatchesOutcome, hash unconfirmed], kept.1, kept.2.1, written⟩
      | crashedBeforeBroadcast | signedNotSubmitted =>
        obtain ⟨⟨-, -, consuming⟩, written, rfl⟩ := Wallet.casRow_eq_some.1 wrote
        exact ⟨by simp [intentMatchesOutcome, noHash consuming], kept.1, kept.2.1, written⟩

theorem settleTransferIntent_matches {intent settled : WalletIntent}
    (ran : settleTransferIntent intent activity outcome = .ok settled) :
    transferIntentMatchesOutcome settled activity outcome = true
      ∧ settled.activityId = intent.activityId ∧ settled.sessionId = intent.sessionId
      ∧ settled.network = intent.network := by
  unfold settleTransferIntent at ran
  split at ran
  case isTrue stated =>
    obtain rfl := Except.ok.inj ran
    exact ⟨stated, rfl, rfl, rfl⟩
  case isFalse =>
    obtain ⟨_, -, ran⟩ := bind_eq_ok.1 ran
    obtain ⟨written, wrote, ran⟩ := bind_eq_ok.1 ran
    have requireHash : ∀ {txHash}, requireTransferHash activity = .ok txHash →
        activity.txHash = some txHash := by
      intro txHash required
      unfold requireTransferHash at required
      split at required
      · cases required
      case h_2 staged found =>
        obtain rfl := Except.ok.inj required
        exact found
    cases written with
    | none => cases ran
    | some row =>
      obtain rfl := Except.ok.inj ran
      cases outcome with
      | confirmed | reverted | supersededUnproven =>
        obtain ⟨txHash, required, wrote⟩ := bind_eq_ok.1 wrote
        obtain ⟨-, -, rfl⟩ := Wallet.casRow_eq_some.1 (orThrow_eq_ok.1 wrote)
        exact ⟨by simp [transferIntentMatchesOutcome, requireHash required], rfl, rfl, rfl⟩
      | crashedBeforeBroadcast | signedNotSubmitted =>
        obtain ⟨-, -, rfl⟩ := Wallet.casRow_eq_some.1 (orThrow_eq_ok.1 wrote)
        exact ⟨by simp [transferIntentMatchesOutcome], rfl, rfl, rfl⟩

theorem consuming_evidence (admitted : Wallet.TransactionIntents.checks intent = true)
    (consuming : transactionArm.phase intent = .consuming) :
    intent.status = .consuming ∧ intent.failureStage = none ∧ intent.txHash = none := by
  have status := transactionPhase_eq_consuming.1 consuming
  simp only [Wallet.TransactionIntents.checks, Wallet.TransactionIntents.evidence, status,
    decide_eq_true_eq] at admitted
  exact ⟨status, admitted.2.1.2, admitted.2.1.1⟩

theorem transactionArm_lawful : transactionArm.Lawful where
  assertion intent activity outcome :=
    assertCanSettle_eq_ok (by simp [transactionArm, transactionPhase_eq_consuming])
      (by simp [transactionArm, transactionPhase_eq_unconfirmed])
  states intent activity outcome stated := by
    cases outcome <;>
      simp only [transactionArm, intentMatchesOutcome, decide_eq_true_eq] at stated
    case confirmed => exact ⟨by simp [transactionArm, stated.1, transactionPhase, outcomePhase], stated.2⟩
    case reverted =>
      exact ⟨by simp [transactionArm, stated.1, transactionPhase, outcomePhase], stated.2.2⟩
    case supersededUnproven =>
      exact ⟨by simp [transactionArm, stated.1, transactionPhase, outcomePhase], stated.2⟩
    case crashedBeforeBroadcast =>
      exact ⟨by simp [transactionArm, stated.1, transactionPhase, outcomePhase], stated.2.2⟩
    case signedNotSubmitted =>
      exact ⟨by simp [transactionArm, stated.1, transactionPhase, outcomePhase], stated.2.2⟩
  matched intent activity outcome stated := if_pos stated
  settled intent activity outcome settled linked opened fits ran := by
    obtain ⟨stated, link, session, admitted⟩ := settleIntent_matches opened linked.2.2 ran
    exact ⟨stated, link.trans linked.1, (congrArg some session).trans linked.2.1, admitted⟩
  recovered recover known intent activity txHash result staged linked ran := by
    obtain rfl := Option.some.inj known
    unfold recoverIntent at ran
    split_ifs at ran with consuming
    · obtain ⟨moved, same, -, rfl, admitted⟩ := advanceToUnconfirmed_eq_ok ran
      exact ⟨⟨linked.1, linked.2.1, admitted⟩, rfl, same.symm,
        .inl (transactionPhase_eq_consuming.2 consuming)⟩
    · obtain ⟨_, compatible, passed⟩ := bind_eq_ok.1 ran
      obtain rfl := Except.ok.inj passed
      rw [refuseIf_eq_ok, not_not] at compatible
      exact ⟨linked, transactionPhase_eq_unconfirmed.2 compatible.1,
        compatible.2.trans staged.symm, .inr rfl⟩
  linkedCongr activity activity' intent id session _ _ _ linked :=
    ⟨linked.1.trans (congrArg some id.symm), linked.2.1.trans session.symm, linked.2.2⟩
  matchesCongr activity activity' intent outcome hash := by
    cases outcome <;> simp only [transactionArm, intentMatchesOutcome, hash]
  session activity intent linked := ⟨intent.sessionId, linked.2.1.symm⟩
  crashes activity intent linked _ consuming := by
    obtain ⟨status, stage, hash⟩ := consuming_evidence linked.2.2 consuming
    refine ⟨{ intent with
      status := .failed, failureStage := some .crashedBeforeBroadcast
      failureReason := some (JsString.ofString "CrashRecovery:no_staged_hash") }, ?_⟩
    simp [transactionArm, settleIntent, intentMatchesOutcome, currentFor, writeIntentOutcome,
      Wallet.TransactionIntents.markCrashedBeforeBroadcastWith, Wallet.casRow, orThrow,
      Wallet.TransactionIntents.checks, Wallet.TransactionIntents.evidence,
      Wallet.TransactionIntents.failedEvidence, status, hash, Except.mapError, bind, Except.bind]
  recovers recover known activity intent txHash linked staged consuming := by
    obtain rfl := Option.some.inj known
    obtain ⟨status, stage, hash⟩ := consuming_evidence linked.2.2 consuming
    refine ⟨{ intent with status := .broadcastUnconfirmed, txHash := some txHash }, ?_⟩
    simp [recoverIntent, advanceToUnconfirmed, status, staged,
      Wallet.TransactionIntents.markBroadcastUnconfirmedWith, Wallet.casRow, orThrow,
      Wallet.TransactionIntents.checks, Wallet.TransactionIntents.evidence,
      Wallet.TransactionIntents.failedEvidence, stage, Except.mapError, bind, Except.bind]

theorem transferArm_lawful : transferArm.Lawful where
  assertion intent activity outcome :=
    assertCanSettle_eq_ok (by simp [transferArm, transferPhase_eq_consuming])
      (by simp [transferArm, transferPhase_eq_unconfirmed])
  states intent activity outcome stated := by
    cases outcome <;>
      simp only [transferArm, transferIntentMatchesOutcome, decide_eq_true_eq] at stated
    case confirmed => exact ⟨by simp [transferArm, stated.1, transferPhase, outcomePhase], stated.2⟩
    case reverted => exact ⟨by simp [transferArm, stated.1, transferPhase, outcomePhase], stated.2⟩
    case supersededUnproven =>
      exact ⟨by simp [transferArm, stated.1, transferPhase, outcomePhase], stated.2⟩
    case crashedBeforeBroadcast =>
      exact ⟨by simp [transferArm, stated.1, transferPhase, outcomePhase], stated.2.1⟩
    case signedNotSubmitted =>
      exact ⟨by simp [transferArm, stated.1, transferPhase, outcomePhase], stated.2.1⟩
  matched intent activity outcome stated := if_pos stated
  settled intent activity outcome settled linked _ _ ran := by
    obtain ⟨stated, link, session, network⟩ := settleTransferIntent_matches ran
    exact ⟨stated, link.trans linked.1, (congrArg some session).trans linked.2.1,
      linked.2.2.1, linked.2.2.2.1, (congrArg chainFamilyOf network).trans linked.2.2.2.2⟩
  recovered recover known := by cases known
  session activity intent linked := ⟨intent.sessionId, linked.2.1.symm⟩
  crashes activity intent linked safe consuming := by
    have status := transferPhase_eq_consuming.1 consuming
    refine ⟨{ intent with
      status := .failed, txHash := none
      failureReason := some (JsString.ofString "CrashRecovery:no_staged_hash") }, ?_⟩
    simp [transferArm, settleTransferIntent, transferIntentMatchesOutcome, writeTransferOutcome,
      Wallet.TransferIntents.settleLinkedAsCrashedBeforeBroadcastWith,
      Wallet.TransferIntents.settleLinkedWith, Wallet.casRow, orThrow,
      Wallet.TransferIntents.checks, status, linked.1, refuseIf, Nat.not_lt.2 safe,
      Except.mapError, bind, Except.bind]
  recovers recover known := by cases known
  linkedCongr activity activity' intent id session role kind family linked :=
    ⟨linked.1.trans (congrArg some id.symm), linked.2.1.trans session.symm,
      role.trans linked.2.2.1, kind.trans linked.2.2.2.1, linked.2.2.2.2.trans family.symm⟩
  matchesCongr activity activity' intent outcome hash := by
    cases outcome <;> simp only [transferArm, transferIntentMatchesOutcome, hash]

/-! ## One linked intent -/

/-- The rows of an activity that one intent links. -/
structure LinkedBy (ι : Type) where
  activity : AgentActivityEvent
  intent : ι
  execution : ExecutionCompletion

def LinkedBy.ofTransaction (linked : LinkedBy WalletTransactionIntent) : LinkedRows where
  activity := linked.activity
  transactionIntent := some linked.intent
  transferIntent := none
  execution := some linked.execution

def LinkedBy.ofTransfer (linked : LinkedBy WalletIntent) : LinkedRows where
  activity := linked.activity
  transactionIntent := none
  transferIntent := some linked.intent
  execution := some linked.execution

def completeExecution (status : String) (success : Bool) (execution : ExecutionCompletion) :
    ExecutionCompletion :=
  if execution.executionStatus = .intent then
    { executionStatus := if success then .succeeded else .failed
      success := success
      resultStatus := some status }
  else execution

namespace IntentArm

variable {ι : Type} (arm : IntentArm ι)

/-- `settleLinkedActivityRowsWith` on an activity that one intent links. -/
def settleRows (linked : LinkedBy ι) (sessionId : Option JsString)
    (intentOutcome : LinkedIntentRepairOutcome) (activityTarget : LinkedActivityTarget)
    (activityWrite : AgentActivityEvent → Except ActivityError CasResult) :
    Except SettlementError (LinkedBy ι × CasResult) := do
  requireActivity linked.activity sessionId
  arm.assertCanSettle linked.intent linked.activity intentOutcome
  let result ← (activityWrite linked.activity).mapError .activity
  refuseIf (intentOutcome = .signedNotSubmitted
      ∧ ¬persistedActivityProvesOutcome result.row intentOutcome)
    (.conflict .aa
      "signed-not-submitted settlement did not produce hash-bearing broadcast-error evidence")
  if ¬result.applied ∧ ¬activityMatchesTarget result.row activityTarget
      ∧ ¬persistedActivityProvesOutcome result.row intentOutcome then
    .ok ({ linked with activity := result.row }, result)
  else do
    let settled ← arm.settle linked.intent linked.activity intentOutcome
    .ok ({ activity := result.row
           intent := settled
           execution := completeExecution intentOutcome.text (intentOutcome = .confirmed)
             linked.execution }, result)

end IntentArm

variable {linked : LinkedBy WalletTransactionIntent}

theorem transaction_found (link : transactionArm.Linked linked.activity linked.intent) :
    linked.ofTransaction.linkedTransactionIntent = some linked.intent
      ∧ linked.ofTransaction.linkedTransferIntent = none
      ∧ validateLinkedRows linked.activity (some linked.execution) linked.intent
          linked.activity.sessionId = .ok () := by
  have session : linked.activity.sessionId = some linked.intent.sessionId := link.2.1.symm
  refine ⟨?_, rfl, ?_⟩
  · simp [LinkedRows.linkedTransactionIntent, LinkedBy.ofTransaction, Option.filter, link.1]
  · simp [validateLinkedRows, refuseIf, link.1, session, bind, Except.bind]

theorem transfer_found {linked : LinkedBy WalletIntent}
    (link : transferArm.Linked linked.activity linked.intent) :
    linked.ofTransfer.linkedTransferIntent = some linked.intent
      ∧ linked.ofTransfer.linkedTransactionIntent = none
      ∧ validateTransferLinkedRows linked.activity linked.intent
          linked.activity.sessionId = .ok () := by
  have session : linked.activity.sessionId = some linked.intent.sessionId := link.2.1.symm
  refine ⟨?_, rfl, ?_⟩
  · simp [LinkedRows.linkedTransferIntent, LinkedBy.ofTransfer, Option.filter, link.1]
  · simp [validateTransferLinkedRows, refuseIf, link.1, session, link.2.2.1, link.2.2.2.1,
      link.2.2.2.2, bind, Except.bind]

variable {rows : LinkedRows}

theorem settleTransactionRows_found (found : rows.linkedTransactionIntent = some intent)
    (activity : AgentActivityEvent) (outcome : LinkedIntentRepairOutcome) :
    settleTransactionRows activity outcome rows = (settleIntent intent activity outcome).map
      fun settled => { rows with
        transactionIntent := some settled
        execution := settleExecution outcome rows.execution } := by
  simp only [settleTransactionRows, found]
  cases settleIntent intent activity outcome <;> rfl

theorem settleTransferRows_found {intent : WalletIntent}
    (found : rows.linkedTransferIntent = some intent) (activity : AgentActivityEvent)
    (outcome : LinkedIntentRepairOutcome) :
    settleTransferRows activity outcome rows = (settleTransferIntent intent activity outcome).map
      fun settled => { rows with
        transferIntent := some settled
        execution := settleExecution outcome rows.execution } := by
  simp only [settleTransferRows, found]
  cases settleTransferIntent intent activity outcome <;> rfl

def KeepsLink (row row' : AgentActivityEvent) : Prop :=
  row'.id = row.id ∧ row'.sessionId = row.sessionId ∧ row'.eventRole = row.eventRole
    ∧ row'.kind = row.kind ∧ row'.chainFamily = row.chainFamily ∧ row'.txHash = row.txHash

variable {write : AgentActivityEvent → Except ActivityError CasResult}

theorem settleRows_transaction (link : transactionArm.Linked linked.activity linked.intent)
    (sessionId : Option JsString) (outcome : LinkedIntentRepairOutcome)
    (target : LinkedActivityTarget)
    (keeps : ∀ result, write linked.activity = .ok result → KeepsLink linked.activity result.row) :
    settleLinkedActivityRowsWith linked.ofTransaction sessionId outcome target write
      = (transactionArm.settleRows linked sessionId outcome target write).map
          fun settled => (settled.1.ofTransaction, settled.2) := by
  obtain ⟨found, unlinked, valid⟩ := transaction_found link
  by_cases session : linked.activity.sessionId = sessionId
  case neg =>
    simp [settleLinkedActivityRowsWith, IntentArm.settleRows, requireActivity,
      LinkedBy.ofTransaction, refuseIf, session, bind, Except.bind, Except.map]
  case pos =>
    subst session
    have asserted : assertIntentCanSettle linked.intent linked.activity outcome
        = transactionArm.assertCanSettle linked.intent linked.activity outcome := rfl
    have ran : settleIntent linked.intent linked.activity outcome
        = transactionArm.settle linked.intent linked.activity outcome := rfl
    simp only [settleLinkedActivityRowsWith, IntentArm.settleRows, found, unlinked, whenLinked,
      show linked.ofTransaction.activity = linked.activity from rfl,
      show linked.ofTransaction.execution = some linked.execution from rfl, valid, ok_bind,
      requireActivity, refuseIf, asserted, ne_eq, not_true_eq_false, if_false,
      Option.isSome_none, Bool.false_eq_true, and_false]
    cases transactionArm.assertCanSettle linked.intent linked.activity outcome with
    | error refused => simp [bind, Except.bind, Except.map]
    | ok =>
      cases wrote : write linked.activity with
      | error refused => simp [bind, Except.bind, Except.map, Except.mapError]
      | ok result =>
        obtain ⟨id, -⟩ := keeps result wrote
        have foundStill : (linked.ofTransaction.withActivity result.row).linkedTransactionIntent
            = some linked.intent := by
          simp [LinkedRows.linkedTransactionIntent, LinkedBy.ofTransaction,
            LinkedRows.withActivity, Option.filter, link.1, id]
        have noneStill : ∀ rows : LinkedRows, rows.transferIntent = none →
            settleTransferRows linked.activity outcome rows = .ok rows := by
          intro rows nothing
          simp only [settleTransferRows, LinkedRows.linkedTransferIntent, nothing,
            Option.filter_none]
        simp only [bind, Except.bind, Except.mapError, settleTransactionRows_found foundStill, ran]
        cases transactionArm.settle linked.intent linked.activity outcome with
        | error refused =>
          simp only [Except.map]
          split_ifs <;> rfl
        | ok settled =>
          simp only [Except.map]
          rw [noneStill _ rfl]
          split_ifs <;> rfl

theorem settleRows_transfer {linked : LinkedBy WalletIntent}
    (link : transferArm.Linked linked.activity linked.intent) (sessionId : Option JsString)
    (outcome : LinkedIntentRepairOutcome) (target : LinkedActivityTarget)
    (keeps : ∀ result, write linked.activity = .ok result → KeepsLink linked.activity result.row) :
    settleLinkedActivityRowsWith linked.ofTransfer sessionId outcome target write
      = (transferArm.settleRows linked sessionId outcome target write).map
          fun settled => (settled.1.ofTransfer, settled.2) := by
  obtain ⟨found, unlinked, valid⟩ := transfer_found link
  by_cases session : linked.activity.sessionId = sessionId
  case neg =>
    simp [settleLinkedActivityRowsWith, IntentArm.settleRows, requireActivity,
      LinkedBy.ofTransfer, refuseIf, session, bind, Except.bind, Except.map]
  case pos =>
    subst session
    have asserted : assertTransferIntentCanSettle linked.intent linked.activity outcome
        = transferArm.assertCanSettle linked.intent linked.activity outcome := rfl
    have ran : settleTransferIntent linked.intent linked.activity outcome
        = transferArm.settle linked.intent linked.activity outcome := rfl
    simp only [settleLinkedActivityRowsWith, IntentArm.settleRows, found, unlinked, whenLinked,
      show linked.ofTransfer.activity = linked.activity from rfl, valid, ok_bind,
      requireActivity, refuseIf, asserted, ne_eq, not_true_eq_false, if_false,
      Option.isSome_none, Bool.false_eq_true, false_and]
    cases transferArm.assertCanSettle linked.intent linked.activity outcome with
    | error refused => simp [bind, Except.bind, Except.map]
    | ok =>
      cases wrote : write linked.activity with
      | error refused => simp [bind, Except.bind, Except.map, Except.mapError]
      | ok result =>
        obtain ⟨id, -⟩ := keeps result wrote
        have noneStill : settleTransactionRows linked.activity outcome
            (linked.ofTransfer.withActivity result.row)
              = .ok (linked.ofTransfer.withActivity result.row) := rfl
        have foundStill : (linked.ofTransfer.withActivity result.row).linkedTransferIntent
            = some linked.intent := by
          simp [LinkedRows.linkedTransferIntent, LinkedBy.ofTransfer,
            LinkedRows.withActivity, Option.filter, link.1, id]
        simp only [bind, Except.bind, Except.mapError, noneStill,
          settleTransferRows_found foundStill, ran]
        cases transferArm.settle linked.intent linked.activity outcome with
        | error refused | ok settled =>
          simp only [Except.map]
          split_ifs <;> rfl

/-! ## The calls on one linked intent -/

namespace IntentArm

variable {ι : Type} (arm : IntentArm ι)

/-- `recoverLinkedBroadcastUnconfirmed` on an activity that one intent links. -/
def recoverRows (linked : LinkedBy ι) (sessionId : JsString) :
    Except SettlementError (LinkedBy ι × Bool) := do
  requireActivity linked.activity (some sessionId)
  match linked.activity.txHash with
  | none => .ok (linked, false)
  | some txHash =>
    match arm.recover with
    | none => .error (.conflict .wti "the linked intent is missing")
    | some recover => do
      let recovered ← recover linked.intent linked.activity txHash
      .ok ({ linked with
        intent := recovered
        execution := completeExecution "broadcast_unconfirmed" false linked.execution }, true)

/-- `settleFromPersistedTerminalActivity` on an activity that one intent links. -/
def settlePersisted (linked : LinkedBy ι) (sessionId : JsString)
    (verdict : LinkedActivityVerdict) : Except SettlementError (LinkedBy ι × Bool) := do
  requireActivity linked.activity (some sessionId)
  if ¬activityMatchesOutcome linked.activity verdict then .ok (linked, false)
  else
    match arm.recover with
    | none => .ok (linked, false)
    | some _ => do
      arm.assertCanSettle linked.intent linked.activity verdict.outcome
      let settled ← arm.settle linked.intent linked.activity verdict.outcome
      .ok ({ linked with
        intent := settled
        execution := completeExecution verdict.outcome.text (verdict.outcome = .confirmed)
          linked.execution }, true)

end IntentArm

/-- The outcome a call settles the intent to, the target of the activity, the writer of the
activity and the session, for the calls that go through the coordinator. -/
structure Coordinated where
  sessionId : AgentActivityEvent → Option JsString
  outcome : LinkedIntentRepairOutcome
  target : LinkedActivityTarget
  write : TerminalWrite

/-- How a call goes through the coordinator. -/
def SettlementCall.coordinated : SettlementCall → Option Coordinated
  | .confirmActivityEvent input context =>
    some ⟨AgentActivityEvent.sessionId, .confirmed, .confirmed, .confirmActivityEvent input context⟩
  | .confirmActivityEventStatusOnly source context =>
    some ⟨AgentActivityEvent.sessionId, .confirmed, .confirmed,
      .confirmActivityEventStatusOnly source context⟩
  | .failActivityEvent input context =>
    (linkedIntentOutcomeForFailure input.failureCode).map fun outcome =>
      ⟨AgentActivityEvent.sessionId, outcome, .definitivelyFailed input.failureCode,
        .failActivityEvent input context⟩
  | .markSupersededUnproven claimToken reason handlerWindowMs nonInclusionWindowMs =>
    some ⟨AgentActivityEvent.sessionId, .supersededUnproven, .supersededUnproven,
      .markSupersededUnproven claimToken reason handlerWindowMs nonInclusionWindowMs⟩
  | .failSignedNotSubmitted sessionId failureReason =>
    some ⟨fun _ => sessionId, .signedNotSubmitted, .definitivelyFailed .broadcastError,
      .failActivityEvent ⟨.broadcastError, failureReason⟩ .handlerReturn⟩
  | .settleCrashedBeforeBroadcast sessionId failureReason =>
    some ⟨fun _ => sessionId, .crashedBeforeBroadcast, .definitivelyFailed .broadcastError,
      .failHashlessActivityEvent ⟨.broadcastError, failureReason⟩ false⟩
  | .recoverLinkedBroadcastUnconfirmed _ | .settleFromPersistedTerminalActivity _ _ => none

def SettlementCall.unlinkedFailure :
    SettlementCall → Option (FailActivityEventInput × TerminalWriteContext)
  | .failActivityEvent input context =>
    if linkedIntentOutcomeForFailure input.failureCode = none then some (input, context) else none
  | _ => none

theorem TerminalWrite.run_keepsLink {now : Instant} {row : AgentActivityEvent}
    {write : TerminalWrite} {result : CasResult} (ran : write.run now row = .ok result) :
    KeepsLink row result.row := by
  rcases TerminalWrite.run_cases ran with ⟨same, -⟩ | ⟨-, -, written, -⟩
  · rw [same]
    exact ⟨rfl, rfl, rfl, rfl, rfl, rfl⟩
  · rw [written]
    cases write <;> exact ⟨rfl, rfl, rfl, rfl, rfl, rfl⟩

theorem SettlementCall.run_coordinated {call : SettlementCall} {how : Coordinated}
    (coordinated : call.coordinated = some how) (now : Instant) (rows : LinkedRows) :
    call.run now rows
      = (settleLinkedActivityRowsWith rows (how.sessionId rows.activity) how.outcome how.target
          fun row => how.write.run now row).map fun settled => (settled.1, settled.2.applied) := by
  have mapped : ∀ checked : Except SettlementError (LinkedRows × CasResult),
      (checked >>= fun settled => .ok (settled.1, settled.2.applied))
        = checked.map fun settled => (settled.1, settled.2.applied) := by
    intro checked
    cases checked <;> rfl
  cases call with
  | confirmActivityEvent input context | confirmActivityEventStatusOnly source context
  | markSupersededUnproven claimToken reason handlerWindowMs nonInclusionWindowMs
  | failSignedNotSubmitted sessionId failureReason
  | settleCrashedBeforeBroadcast sessionId failureReason =>
    obtain rfl := Option.some.inj coordinated
    exact mapped _
  | failActivityEvent input context =>
    obtain ⟨outcome, known, rfl⟩ := Option.map_eq_some_iff.1 coordinated
    simp only [SettlementCall.run, known]
    exact mapped _
  | recoverLinkedBroadcastUnconfirmed sessionId => cases coordinated
  | settleFromPersistedTerminalActivity sessionId verdict => cases coordinated

end Vex.Activity
