import Vex.Approvals.Decisions
import Vex.Approvals.Lifecycle
import Vex.Wallet.OneSignature
import Vex.Lighter.LifecycleExpiry
import Vex.Lighter.WrittenStates
import Vex.Money.MoneyState

/-!
# A session that is called clear

The tables of the money state under every statement of their repositories, for
any number of rows and sessions, in any order. The statement that asks them sees
every row that may have left, of a transfer, a transaction, an execution or an
activity: their tables give it the columns it reads (`HashRecorded`).

Of three kinds of rows it sees none: orders, lifecycle actions and withdrawals of
the exchange. Of onboarding actions and approvals it sees those that were
approved. So its answer is right in every run in which nothing of the three is
staged for the session, and nothing else of it leaves without an approval
(`Covered`, `clear_session_resolved`).
-/

namespace Vex.Money

open Vex.Library
open Vex.Runtime (Instant)
open Vex.Approvals
open Vex.Wallet.TransferIntents (WalletIntent)
open Vex.Wallet.TransactionIntents (WalletTransactionIntent)
open Vex.Lighter hiding Instant

/-! ## The statements on an approval -/

inductive ApprovalStatement where
  | approve (now : Instant)
  | reject (now : Instant)
  | markDecision (now : Instant) (input : MarkDecisionInput)
  | casMarkDispatching (now : Instant)
  | commitExecutionResult (status : SettledStatus) (resultHash : Option JsString)
      (resultMessageId : Nat)
  | attachResultMessage (resultMessageId : Nat)
  | casMarkResumeConsumed (now : Instant)
  | attachResumeCueMessage (cueMessageId : Nat)
  | casMarkIndeterminate
  | casClaimStudioDispatchSlot (now : Instant) (dispatchGeneration : Int)
  | casRefuseStudioBeforeDispatch (refusalReason : ApprovalRefusalReason)
      (settlement resultHash : Option JsString)
  | casMarkIndeterminateWithSettlement (settlement resultHash : Option JsString)
  | commitStudioSettlement (status : SettledStatus) (resultHash settlement : Option JsString)
      (refusalReason : Option ApprovalRefusalReason)
  | commitDeskSettlement (status : SettledStatus) (resultHash : Option JsString)
  | markAbandonedDeskDispatchIndeterminate (startedBefore : Instant)

/-- What a statement writes of the companion row, none where it misses or writes the queue. -/
def ApprovalStatement.onIntent (intent : ApprovalIntent) : ApprovalStatement → Option ApprovalIntent
  | .approve _ | .reject _ => none
  | .markDecision now input => markDecisionWith now input intent
  | .casMarkDispatching now => casMarkDispatchingWith now intent
  | .commitExecutionResult status resultHash resultMessageId =>
    commitExecutionResultWith intent status resultHash resultMessageId
  | .attachResultMessage resultMessageId => some (attachResultMessageWith intent resultMessageId)
  | .casMarkResumeConsumed now => Approvals.casMarkResumeConsumed now intent
  | .attachResumeCueMessage cueMessageId => some (attachResumeCueMessageWith intent cueMessageId)
  | .casMarkIndeterminate => casMarkIndeterminateWith intent
  | .casClaimStudioDispatchSlot now dispatchGeneration =>
    casClaimStudioDispatchSlotWith now intent dispatchGeneration
  | .casRefuseStudioBeforeDispatch refusalReason settlement resultHash =>
    casRefuseStudioBeforeDispatchWith intent refusalReason settlement resultHash
  | .casMarkIndeterminateWithSettlement settlement resultHash =>
    casMarkIndeterminateWithSettlementWith intent settlement resultHash
  | .commitStudioSettlement status resultHash settlement refusalReason =>
    commitStudioSettlementWith intent status resultHash settlement refusalReason
  | .commitDeskSettlement status resultHash => commitDeskSettlementWith intent status resultHash
  | .markAbandonedDeskDispatchIndeterminate startedBefore =>
    Approvals.markAbandonedDeskDispatchIndeterminate intent startedBefore

def ApprovalStatement.onQueue (item : ApprovalItem) : ApprovalStatement → Option ApprovalItem
  | .approve now => approveWith now item
  | .reject now => rejectWith now item
  | _ => none

structure ApprovalOp where
  approvalId : JsString
  statement : ApprovalStatement

def approvalStep (row : Approval) (op : ApprovalOp) : Approval :=
  if row.approvalId = op.approvalId then
    { row with
      queue := (op.statement.onQueue row.queue).getD row.queue
      intent := (op.statement.onIntent row.intent).getD row.intent }
  else row

/-- A call left `not_started` only after it was approved. -/
def ApprovedFirst (intent : ApprovalIntent) : Prop :=
  intent.executionStatus ≠ .notStarted → intent.decision = some .approved

variable {statement : ApprovalStatement}

theorem approvedFirst_onIntent {intent written : ApprovalIntent} (first : ApprovedFirst intent)
    (claims : (∃ now, statement = .casMarkDispatching now) → intent.decision = some .approved)
    (took : statement.onIntent intent = some written) : ApprovedFirst written := by
  have dispatched : intent.executionStatus = .dispatching → intent.decision = some .approved :=
    fun dispatching => first (by rw [dispatching]; nofun)
  cases statement with
  | approve now => cases took
  | reject now => cases took
  | markDecision now input =>
    simp only [ApprovalStatement.onIntent, markDecisionWith, Option.ite_none_right_eq_some,
      Option.some.injEq] at took
    obtain ⟨undecided, rfl⟩ := took
    intro started
    rw [first started] at undecided
    cases undecided
  | casMarkDispatching now =>
    obtain ⟨-, rfl⟩ := casIntent_eq_some.1 took
    exact fun _ => claims ⟨now, rfl⟩
  | casClaimStudioDispatchSlot now dispatchGeneration =>
    obtain ⟨⟨-, -, approved, -⟩, rfl⟩ := casIntent_eq_some.1 took
    exact fun _ => approved
  | casRefuseStudioBeforeDispatch refusalReason settlement resultHash
  | markAbandonedDeskDispatchIndeterminate startedBefore =>
    obtain ⟨⟨-, approved, -⟩, rfl⟩ := casIntent_eq_some.1 took
    exact fun _ => approved
  | attachResultMessage resultMessageId | attachResumeCueMessage cueMessageId =>
    obtain rfl := Option.some.inj took
    exact first
  | casMarkResumeConsumed now =>
    obtain ⟨-, rfl⟩ := casIntent_eq_some.1 took
    exact first
  | commitExecutionResult | casMarkIndeterminate =>
    obtain ⟨dispatching, rfl⟩ := casIntent_eq_some.1 took
    exact fun _ => dispatched dispatching
  | casMarkIndeterminateWithSettlement | commitStudioSettlement | commitDeskSettlement =>
    obtain ⟨⟨-, dispatching⟩, rfl⟩ := casIntent_eq_some.1 took
    exact fun _ => dispatched dispatching

theorem onIntent_sessionId {intent written : ApprovalIntent}
    (took : statement.onIntent intent = some written) : written.sessionId = intent.sessionId := by
  cases statement with
  | approve now => cases took
  | reject now => cases took
  | markDecision now input =>
    simp only [ApprovalStatement.onIntent, markDecisionWith, Option.ite_none_right_eq_some,
      Option.some.injEq] at took
    obtain ⟨-, rfl⟩ := took
    rfl
  | attachResultMessage | attachResumeCueMessage =>
    obtain rfl := Option.some.inj took
    rfl
  | _ =>
    obtain ⟨-, rfl⟩ := casIntent_eq_some.1 took
    rfl

/-! ## The evidence of a transfer -/

def HashRecorded (row : WalletIntent) : Prop :=
  row.status = .broadcastUnconfirmed ∨ row.status = .reviewRequired ∨ row.status = .auditFailed →
    row.txHash ≠ none

variable {row : WalletIntent}

theorem hashRecorded_of_checks (admitted : Wallet.TransferIntents.checks row = true)
    (audited : row.status ≠ .auditFailed) : HashRecorded row := by
  simp only [Wallet.TransferIntents.checks, Bool.decide_and, Bool.and_eq_true,
    decide_eq_true_eq] at admitted
  rintro (unconfirmed | review | failed)
  · simp only [unconfirmed] at admitted
    obtain ⟨hash, -⟩ : row.txHash ≠ none ∧ row.activityId ≠ none := by simpa using admitted.1
    exact hash
  · simp only [review] at admitted
    simpa using admitted.2
  · exact absurd failed audited

theorem hashRecorded_of_cas {row' : WalletIntent} {call : Wallet.TransferIntents.Call}
    (wrote : call.cas row = .ok (some row')) : HashRecorded row' := by
  obtain ⟨now, intentId, sessionId, statement⟩ := call
  cases statement with
  | linkActivity activityId pendingTransfer unlinked =>
    simp only [Wallet.TransferIntents.Call.cas, Wallet.TransferIntents.linkActivityWith,
      Wallet.casRow_eq_some] at wrote
    obtain ⟨⟨-, -, consuming, -⟩, -, rfl⟩ := wrote
    rintro (other | other | other) <;> exact absurd (consuming.symm.trans other) (by simp)
  | touchLegacyReview =>
    obtain ⟨⟨-, -, -, hash⟩, -, rfl⟩ := Wallet.casRow_eq_some.1 wrote
    exact fun _ => hash
  | markAuditFailed txHash reason =>
    obtain ⟨-, -, rfl⟩ := Wallet.casRow_eq_some.1 wrote
    exact fun _ => Option.some_ne_none txHash
  | settleLegacyReview txHash confirmed =>
    obtain ⟨-, admitted, rfl⟩ := Wallet.casRow_eq_some.1 wrote
    cases confirmed with
    | true | false => exact hashRecorded_of_checks admitted (by simp)
  | _ =>
    obtain ⟨-, admitted, rfl⟩ := Wallet.casRow_eq_some.1 wrote
    exact hashRecorded_of_checks admitted (by simp)

theorem hashRecorded_step (recorded : HashRecorded row) (call : Wallet.TransferIntents.Call) :
    HashRecorded (Wallet.TransferIntents.step row call) := by
  rcases Wallet.after_cases row (call.cas row) with same | wrote
  · have stays : Wallet.TransferIntents.step row call = row := same
    rwa [stays]
  · exact hashRecorded_of_cas wrote

theorem hashRecorded_prepared (prepared : Wallet.TransferIntents.Prepared row) :
    HashRecorded row := by
  cases prepared with
  | created => rintro (other | other | other) <;> cases other
  | review _ status hash => exact fun _ => hash

/-! ## The tables under events -/

inductive Event where
  | enqueueApproval (now : Instant) (approvalId : JsString) (input : EnqueueApprovalInput)
      (verdict : EnqueueGateVerdict)
  | approval (op : ApprovalOp)
  | prepareTransfer (row : { row : WalletIntent // Wallet.TransferIntents.Prepared row })
  | transfer (call : Wallet.TransferIntents.Call)
  | prepareTransaction (intentId sessionId proposalDigest : JsString) (expiresAt : Instant)
  | transaction (call : Wallet.TransactionIntents.Call)
  | createOrder (time : StatementTime) (input : OrderIntents.CreateInput)
  | order (op : OrderIntents.Op)
  | createLifecycle (time : StatementTime) (input : LifecycleIntents.CreateInput)
  | lifecycle (op : LifecycleIntents.Op)
  | createWithdrawal (time : StatementTime) (input : WithdrawalIntents.CreateInput)
  | withdrawal (op : WithdrawalIntents.Op)
  | createDeposit (time : StatementTime) (input : OnboardingIntents.CreateDepositIntentInput)
  | reserveSlot (time : StatementTime) (input : OnboardingIntents.ReserveSlotInput)
  | onboarding (op : OnboardingIntents.Op)
  /-- The tables whose columns the statement reads as they are. -/
  | elsewhere (legacyQueue : List (JsString × ApprovalItem)) (wraps : List WalletWrapIntent)
      (executions : List ProtocolExecution) (activities : List AgentActivity)

section Steps

variable (lower : JsString → JsString) (sessionId : JsString) (tables : MoneyTables)

def step : Event → MoneyTables
  | .enqueueApproval now approvalId input verdict =>
    match enqueueApprovalIntentWithGate now approvalId input verdict with
    | none => tables
    | some row => { tables with approvals := traffic approvalStep tables.approvals (.insert row) }
  | .approval op =>
    { tables with approvals := traffic approvalStep tables.approvals (.statement op) }
  | .prepareTransfer row =>
    { tables with
      walletIntents := traffic Wallet.TransferIntents.step tables.walletIntents (.insert row) }
  | .transfer call =>
    { tables with
      walletIntents := traffic Wallet.TransferIntents.step tables.walletIntents
        (.statement call) }
  | .prepareTransaction intentId ofSession proposalDigest expiresAt =>
    { tables with
      walletTransactionIntents := traffic Wallet.TransactionIntents.step
        tables.walletTransactionIntents
        (.insert (Wallet.TransactionIntents.createWith intentId ofSession proposalDigest
          expiresAt)) }
  | .transaction call =>
    { tables with
      walletTransactionIntents := traffic Wallet.TransactionIntents.step
        tables.walletTransactionIntents (.statement call) }
  | .createOrder time input =>
    match OrderIntents.createApprovalPending time input with
    | .error _ => tables
    | .ok row =>
      { tables with
        orderIntents := traffic OrderIntents.step tables.orderIntents (.insert row) }
  | .order op =>
    { tables with orderIntents := traffic OrderIntents.step tables.orderIntents (.statement op) }
  | .createLifecycle time input =>
    { tables with
      lifecycleIntents := traffic LifecycleIntents.step tables.lifecycleIntents
        (.insert (LifecycleIntents.createApprovalPendingWith time input)) }
  | .lifecycle op =>
    { tables with
      lifecycleIntents := traffic LifecycleIntents.step tables.lifecycleIntents
        (.statement op) }
  | .createWithdrawal time input =>
    { tables with
      withdrawalIntents := traffic (WithdrawalIntents.step lower) tables.withdrawalIntents
        (.insert (WithdrawalIntents.createApprovalPending time input)) }
  | .withdrawal op =>
    { tables with
      withdrawalIntents := traffic (WithdrawalIntents.step lower) tables.withdrawalIntents
        (.statement op) }
  | .createDeposit time input =>
    { tables with
      onboardingIntents := traffic (OnboardingIntents.step lower) tables.onboardingIntents
        (.insert (OnboardingIntents.createDeposit time input)) }
  | .reserveSlot time input =>
    { tables with
      onboardingIntents := traffic (OnboardingIntents.step lower) tables.onboardingIntents
        (.insert (OnboardingIntents.reserveSlot time input)) }
  | .onboarding op =>
    { tables with
      onboardingIntents := traffic (OnboardingIntents.step lower) tables.onboardingIntents
        (.statement op) }
  | .elsewhere legacyQueue wraps executions activities =>
    { tables with
      legacyQueue := legacyQueue
      walletWrapIntents := wraps
      protocolExecutions := executions
      agentActivity := activities }

/-! ## What the answer needs -/

/-- No statement that writes one of the states matches a row of the session. -/
def NoneWrites {ρ α σ : Type} (applied : ρ → α → Option ρ) (ofSession : ρ → JsString)
    (target : α → Option σ) (states : List σ) (rows : List ρ) (op : α) : Prop :=
  ∀ row ∈ rows, ofSession row = sessionId →
    ∀ state, target op = some state → state ∈ states → applied row op = none

/-- The event stages no order, lifecycle action or withdrawal of the session for its submission
and calls none of them ambiguous, and it lets nothing else of the session leave that was not
approved. -/
def Covered : Event → Prop
  | .approval op =>
    (∃ now, op.statement = .casMarkDispatching now) →
      ∀ row ∈ tables.approvals, row.approvalId = op.approvalId →
        row.intent.sessionId = sessionId → row.intent.decision = some .approved
  | .onboarding op =>
    op.transition.Unchecked →
      ∀ row ∈ tables.onboardingIntents, row.sessionId = sessionId →
        OnboardingIntents.applied lower row op ≠ none → row.approvalStatus = .approved
  | .order op =>
    NoneWrites sessionId OrderIntents.applied OrderIntents.Row.sessionId (·.2.target) orderOut
      tables.orderIntents op
  | .lifecycle op =>
    NoneWrites sessionId LifecycleIntents.applied LifecycleIntents.Row.sessionId (·.2.target)
      lifecycleOut tables.lifecycleIntents op
  | .withdrawal op =>
    NoneWrites sessionId (WithdrawalIntents.applied lower) WithdrawalIntents.Row.sessionId
      WithdrawalIntents.Op.target withdrawalOut tables.withdrawalIntents op
  | _ => True

/-- What the tables keep of the session along such events. -/
structure Kept : Prop where
  approvals : ∀ row ∈ tables.approvals, row.intent.sessionId = sessionId → ApprovedFirst row.intent
  walletIntents : ∀ row ∈ tables.walletIntents, HashRecorded row
  onboarding : ∀ row ∈ tables.onboardingIntents,
    row.sessionId = sessionId → OnboardingIntents.Authorised row
  orders : ∀ row ∈ tables.orderIntents, row.sessionId = sessionId → row.executionState ∉ orderOut
  lifecycle : ∀ row ∈ tables.lifecycleIntents,
    row.sessionId = sessionId → row.executionState ∉ lifecycleOut
  withdrawals : ∀ row ∈ tables.withdrawalIntents,
    row.sessionId = sessionId → row.executionState ∉ withdrawalOut

end Steps

section Runs

variable {lower : JsString → JsString} {sessionId : JsString} {tables : MoneyTables}

theorem kept_empty : Kept sessionId MoneyTables.empty := by
  constructor <;> intro row member <;> cases member

variable {now : Instant} {row : Approval}

theorem approvedFirst_enqueued {approvalId : JsString} {input : EnqueueApprovalInput}
    {verdict : EnqueueGateVerdict}
    (enqueues : enqueueApprovalIntentWithGate now approvalId input verdict = some row) :
    ApprovedFirst row.intent := by
  intro started
  cases verdict with
  | refused reason => cases enqueues
  | clear dispatchGeneration | autoRejected runStatus =>
    obtain rfl := Option.some.inj enqueues
    exact absurd rfl started

theorem approvals_step {op : ApprovalOp} (covered : Covered lower sessionId tables (.approval op))
    (member : row ∈ tables.approvals)
    (first : row.intent.sessionId = sessionId → ApprovedFirst row.intent) :
    (approvalStep row op).intent.sessionId = sessionId →
      ApprovedFirst (approvalStep row op).intent := by
  unfold approvalStep
  split_ifs with named
  · cases wrote : op.statement.onIntent row.intent with
    | none => exact first
    | some written =>
      intro linked
      have own := (onIntent_sessionId wrote).symm.trans linked
      have claims := fun claim => covered claim row member named own
      exact approvedFirst_onIntent (first own) claims wrote
  · exact first

variable {op : OnboardingIntents.Op}

theorem onboarding_moved {row row' : OnboardingIntents.Row}
    (took : OnboardingIntents.applied lower row op = some row') :
    row'.sessionId = row.sessionId ∨ row'.executionState = .approvalPending := by
  obtain ⟨time, intentId, workflow, transition⟩ := op
  cases transition with
  | adoptPristineKeyRegistration =>
    obtain ⟨⟨⟨-, -, -, -, -, pending, -⟩, -⟩, rfl⟩ := OnboardingIntents.casRow_eq_some.1 took
    exact Or.inr pending
  | _ =>
    obtain ⟨-, rfl⟩ := OnboardingIntents.casRow_eq_some.1 took
    exact Or.inl rfl

theorem onboarding_step (covered : Covered lower sessionId tables (.onboarding op))
    {row : OnboardingIntents.Row} (member : row ∈ tables.onboardingIntents)
    (authorised : row.sessionId = sessionId → OnboardingIntents.Authorised row) :
    (OnboardingIntents.step lower row op).sessionId = sessionId →
      OnboardingIntents.Authorised (OnboardingIntents.step lower row op) := by
  intro linked
  rcases orStay_cases (OnboardingIntents.applied lower) row op with same | took
  · have stays : OnboardingIntents.step lower row op = row := same
    rw [stays] at linked ⊢
    exact authorised linked
  · have moved := onboarding_moved took
    rcases moved with kept | pending
    · have own := kept.symm.trans linked
      refine OnboardingIntents.authorised_of_applied lower (authorised own) (fun unchecked => ?_) took
      exact covered unchecked row member own (by rw [took]; exact Option.some_ne_none _)
    · refine OnboardingIntents.authorised_of_outside ?_
      intro inside
      have state : (OnboardingIntents.step lower row op).executionState = .approvalPending := pending
      rw [state] at inside
      simp [OnboardingIntents.approvedStates] at inside

theorem outside_step {ρ α σ : Type} {applied : ρ → α → Option ρ} {ofSession : ρ → JsString}
    {state : ρ → σ} {target : α → Option σ} (writes : WritesState applied state target)
    (keepsSession : ∀ row op, ofSession (orStay applied row op) = ofSession row)
    {states : List σ} {rows : List ρ} {op : α}
    (none_ : NoneWrites sessionId applied ofSession target states rows op) {row : ρ}
    (member : row ∈ rows) (outside : ofSession row = sessionId → state row ∉ states) :
    ofSession (orStay applied row op) = sessionId → state (orStay applied row op) ∉ states := by
  intro linked
  rw [keepsSession] at linked
  exact outside_of_misses writes (fun found written inside =>
    none_ row member linked found written inside) (outside linked)

theorem createOrder_pending {time : StatementTime} {input : OrderIntents.CreateInput}
    {row : OrderIntents.Row} (created : OrderIntents.createApprovalPending time input = .ok row) :
    row.executionState = .approvalPending := by
  obtain ⟨apiKeyIndex, -, same⟩ := bind_eq_ok.1 created
  obtain rfl := Except.ok.inj same
  rfl

theorem kept_step (kept : Kept sessionId tables) {event : Event}
    (covered : Covered lower sessionId tables event) : Kept sessionId (step lower tables event) := by
  cases event with
  | enqueueApproval now approvalId input verdict =>
    unfold step
    dsimp only
    split
    · exact kept
    · rename_i row enqueues
      exact { kept with
        approvals := forall_insert kept.approvals fun _ => approvedFirst_enqueued enqueues }
  | approval op =>
    exact { kept with
      approvals := forall_statement kept.approvals fun _ member first =>
        approvals_step covered member first }
  | prepareTransfer row =>
    exact { kept with
      walletIntents := forall_insert kept.walletIntents (hashRecorded_prepared row.2) }
  | transfer call =>
    exact { kept with
      walletIntents := forall_statement kept.walletIntents fun _ _ recorded =>
        hashRecorded_step recorded call }
  | prepareTransaction intentId ofSession proposalDigest expiresAt => exact { kept with }
  | transaction call => exact { kept with }
  | createOrder time input =>
    unfold step
    dsimp only
    split
    · exact kept
    · rename_i row created
      have pending := createOrder_pending created
      exact { kept with
        orders := forall_insert kept.orders fun _ => by
          rw [pending]
          decide }
  | order op =>
    exact { kept with
      orders := forall_statement kept.orders fun _ member outside =>
        outside_step OrderIntents.writesState OrderIntents.step_sessionId covered member outside }
  | createLifecycle time input =>
    have outside : LifecycleIntents.ExecutionState.approvalPending ∉ lifecycleOut := by decide
    exact { kept with lifecycle := forall_insert kept.lifecycle fun _ => outside }
  | lifecycle op =>
    exact { kept with
      lifecycle := forall_statement kept.lifecycle fun _ member outside =>
        outside_step LifecycleIntents.writesState LifecycleIntents.step_sessionId covered member
          outside }
  | createWithdrawal time input =>
    have outside : WithdrawalIntents.ExecutionState.approvalPending ∉ withdrawalOut := by decide
    exact { kept with withdrawals := forall_insert kept.withdrawals fun _ => outside }
  | withdrawal op =>
    exact { kept with
      withdrawals := forall_statement kept.withdrawals fun _ member outside =>
        outside_step (WithdrawalIntents.writesState lower)
          (WithdrawalIntents.step_sessionId lower) covered member outside }
  | createDeposit time input =>
    have outside : OnboardingIntents.ExecutionState.approvalPending
        ∉ OnboardingIntents.approvedStates := by decide
    exact { kept with
      onboarding := forall_insert kept.onboarding fun _ =>
        OnboardingIntents.authorised_of_outside outside }
  | reserveSlot time input =>
    have outside : OnboardingIntents.ExecutionState.slotReserved
        ∉ OnboardingIntents.approvedStates := by decide
    exact { kept with
      onboarding := forall_insert kept.onboarding fun _ =>
        OnboardingIntents.authorised_of_outside outside }
  | onboarding op =>
    exact { kept with
      onboarding := forall_statement kept.onboarding fun _ member authorised =>
        onboarding_step covered member authorised }
  | elsewhere legacyQueue wraps executions activities => exact { kept with }

/-! ## The answer -/

theorem clear_iff (now : Instant) (sessionId : JsString) (tables : MoneyTables) :
    getUnresolvedMoneyStateForSession now sessionId tables = .clear
      ↔ unresolvedMoneyStateRows now sessionId tables = [] := by
  unfold getUnresolvedMoneyStateForSession
  cases unresolvedMoneyStateRows now sessionId tables with
  | nil => simp
  | cons reason reasons => simp [maxReasons]

theorem branch_eq_nil {ρ : Type} {rows : List ρ} {matches_ : ρ → Prop} [DecidablePred matches_]
    {kind : MoneyStateKind} {ref : ρ → JsString} {detail : ρ → MoneyStateDetail}
    (none_ : branch rows matches_ kind ref detail = []) {row : ρ} (member : row ∈ rows) :
    ¬ matches_ row := by
  intro found
  have empty := List.map_eq_nil_iff.1 none_
  have inside : row ∈ rows.filter matches_ := List.mem_filter.2 ⟨member, by simpa using found⟩
  rw [empty] at inside
  cases inside

/-- Where the tables keep what the answer needs, a session that is called clear has no row that
may have left. -/
theorem resolved_of_clear (kept : Kept sessionId tables)
    (clear : getUnresolvedMoneyStateForSession now sessionId tables = .clear) :
    ¬ MayHaveLeft tables sessionId := by
  have none_ := (clear_iff now sessionId tables).1 clear
  simp only [unresolvedMoneyStateRows, List.append_eq_nil_iff] at none_
  obtain ⟨⟨⟨⟨⟨⟨⟨⟨⟨⟨⟨-, -⟩, approvals⟩, transfers⟩, unknownTransfers⟩, transactions⟩,
    unknownTransactions⟩, -⟩, -⟩, executions⟩, onboarding⟩, activities⟩ := none_
  intro left
  cases left with
  | approval row member linked out =>
    have approved := kept.approvals row member linked (by rcases out with out | out <;> simp [out])
    refine branch_eq_nil approvals member ⟨linked, approved, ?_⟩
    rcases out with out | out <;> simp [out]
  | walletIntent row member linked out =>
    rcases out with out | ⟨failed, hash, unreverted, unproven⟩
    · by_cases consuming : row.status = .consuming
      · exact branch_eq_nil transfers member ⟨linked, Or.inl consuming⟩
      · have broadcast := List.mem_of_ne_of_mem consuming out
        have hash := kept.walletIntents row member (by simpa using broadcast)
        exact branch_eq_nil unknownTransfers member ⟨linked, hash, Or.inl broadcast⟩
    · exact branch_eq_nil unknownTransfers member
        ⟨linked, hash, Or.inr ⟨failed, unreverted, unproven⟩⟩
  | walletTransactionIntent row member linked out =>
    by_cases live : row.status = .consuming ∨ row.status = .broadcastUnconfirmed
    · refine branch_eq_nil transactions member ⟨linked, Or.inl ?_⟩
      simpa using live
    · obtain ⟨consuming, unconfirmed⟩ := not_or.1 live
      obtain out | out | ⟨hash, out⟩ := out
      · exact consuming out
      · exact unconfirmed out
      · refine branch_eq_nil unknownTransactions member ⟨linked, hash, ?_⟩
        intro inside
        simp only [List.mem_cons, List.not_mem_nil, or_false] at inside out
        obtain inside | inside | inside | inside := inside
        · exact out (Or.inl inside)
        · exact out (Or.inr (Or.inl inside))
        · exact out (Or.inr (Or.inr inside))
        · exact unconfirmed inside
  | protocolExecution row member linked out => exact branch_eq_nil executions member ⟨linked, out⟩
  | agentActivity row member linked out => exact branch_eq_nil activities member ⟨linked, out⟩
  | onboarding row member linked out =>
    have approved := kept.onboarding row member linked (by
      revert out
      cases row.executionState <;> decide)
    refine branch_eq_nil onboarding member ⟨linked, ?_, Or.inl approved⟩
    revert out
    cases row.executionState <;> decide
  | order row member linked out => exact kept.orders row member linked out
  | lifecycle row member linked out => exact kept.lifecycle row member linked out
  | withdrawal row member linked out => exact kept.withdrawals row member linked out

end Runs

/-- In every run that stages no order, lifecycle action or withdrawal of a session and lets nothing
else of it leave unapproved, a session that is called clear has no row that may have left. -/
theorem clear_session_resolved (lower : JsString → JsString) (sessionId : JsString)
    (events : List Event)
    (covered : Along (step lower) (Covered lower sessionId) MoneyTables.empty events)
    (now : Instant)
    (clear : getUnresolvedMoneyStateForSession now sessionId
      (run (step lower) MoneyTables.empty events) = .clear) :
    ¬ MayHaveLeft (run (step lower) MoneyTables.empty events) sessionId :=
  have kept : Kept sessionId (run (step lower) MoneyTables.empty events) :=
    Along.induction (motive := Kept sessionId) (fun _ _ covers kept => kept_step kept covers)
      kept_empty covered
  resolved_of_clear kept clear

/-- An order of the session is created and refused, and nothing is staged for it. -/
def refusedOrder : List Event :=
  [.createOrder ⟨0, 0⟩ OrderIntents.intentInput,
    .order (⟨0, 0⟩, .approvalDecision ⟨"i", .rejected, none, none⟩)]

theorem clear_session_resolved_refused :
    ¬ MayHaveLeft (run (step id) MoneyTables.empty refusedOrder) "s" :=
  clear_session_resolved id "s" refusedOrder
    (by
      refine ⟨trivial, ?_, trivial⟩
      intro row _ _ state writes
      cases writes)
    0 (by decide)

/-- An order is approved, signed and staged for its submission, whose outcome stays unknown. -/
def sentOrder : List Event :=
  [.createOrder ⟨0, 0⟩ OrderIntents.intentInput,
    .order (⟨0, 0⟩, .approvalDecision ⟨"i", .approved, none, none⟩),
    .order (⟨0, 0⟩, .attachNonceReservation ⟨"i", "s", .core, 7, 4, "r", "12"⟩),
    .order (⟨0, 0⟩, .signed ⟨"i", "s", .core, "r", "12", "99", "h"⟩),
    .order (⟨0, 0⟩, .submitted ⟨"i", "s", .core, "h"⟩)]

/-- The session of an order that may have left is called clear. -/
theorem sent_order_clear :
    ¬ ∀ (lower : JsString → JsString) (sessionId : JsString) (events : List Event) (now : Instant),
      getUnresolvedMoneyStateForSession now sessionId
          (run (step lower) MoneyTables.empty events) = .clear →
        ¬ MayHaveLeft (run (step lower) MoneyTables.empty events) sessionId := by
  intro resolved
  have submitted : ∃ row ∈ (run (step id) MoneyTables.empty sentOrder).orderIntents,
      row.sessionId = "s" ∧ row.executionState ∈ orderOut := by decide
  obtain ⟨row, member, linked, out⟩ := submitted
  exact resolved id "s" sentOrder 0 (by decide) (.order row member linked out)

end Vex.Money
