import Vex.Lighter.DepositRuns

/-!
# A broadcast deposit is neither abandoned nor repeated

Whatever the executors and the other writers do, the row keeps the transactions that were
staged, a deposit is staged once and broadcast once, from a row whose allowance leg is
proven, and a confirmation or a credit is recorded on evidence that is the row's own.

That the row fails only on a receipt of the deposit is another matter: a failure may be
recorded from every state but `credited`, and a run records one where *it* has staged
nothing, of a row it read before another run staged the deposit
(`deposit_swept_by_refused_run`). The deposit is never abandoned in exactly the runs in
which that does not happen (`neverAbandoned_iff`).
-/

namespace Vex.Lighter.OnboardingIntents.DepositExecution

open Vex.Library Vex.Evm.StagedBroadcast

/-! ## What is promised -/

abbrev Thread := Interleaving.Thread Row Call Call.Answer Progress Thrown Result

def nextCall (thread : Thread) : Option Call :=
  match thread.program.next thread.locals with
  | .done _ => none
  | .call call _ _ => some call

def IssuedBy (env : Surroundings) (s : World) (op : Op) : Act → Prop
  | .start _ => False
  | .resume id oracle => ∃ thread call, s.threads id = some thread ∧ nextCall thread = some call ∧
      Issues oracle call op
  | .other act => IssuesBeside env s.store act op

def Unresolved (row : Row) : Prop :=
  row.capability = .deposit ∧ row.executionState ∉ finalStates ∧ row.approvalStatus ≠ .rejected

/-- A receipt shows that the deposit of the row reverted, or its proven replacement. -/
inductive Reverted (env : Surroundings) (s : World) : Act → Prop
  /-- A repair records the receipt. -/
  | receipt (op : Op) (txHash : JsString) (records : op.transition = .reconcileDepositReverted txHash)
      (is_ : s.store.row.deposit.Is env.lower txHash) : Reverted env s (.other (.statement op))
  /-- The broadcast of the deposit answered with it. -/
  | answered (id : Nat) (oracle : Oracle) (thread : Thread) (transaction : StagedTransaction)
      (result : LegResult) (runs : s.threads id = some thread)
      (answered : (⟨.broadcastDeposit transaction, .ok result⟩ : ExecutionEvent) ∈ thread.events)
      (holds : s.store.row.deposit.Holds transaction) (reverted : result.outcome = .reverted)
      (same : result.txHash = transaction.txHash)
      (replaced : result.replacement = none ∨ ∃ accepted, SameDeposit thread.context s.store.row ∧
        proves env thread.context .deposit transaction result accepted = true ∧
        s.store.row.deposit.Replaced env.lower accepted.replacementTxHash) :
      Reverted env s (.resume id oracle)

/-- The approve transaction of the row is confirmed: a repair records its receipt, or the approve
runner answered with it. -/
inductive ApproveProven (env : Surroundings) (s : World) : Act → Prop
  | receipt (op : Op) (txHash : JsString)
      (records : op.transition = .reconcileApproveReceipt txHash .confirmed)
      (is_ : s.store.row.approve.Is env.lower txHash) : ApproveProven env s (.other (.statement op))
  | answered (id : Nat) (oracle : Oracle) (thread : Thread) (transaction : StagedTransaction)
      (result : LegResult) (txHash : JsString) (runs : s.threads id = some thread)
      (answered : (⟨.broadcastApprove transaction, .ok result⟩ : ExecutionEvent) ∈ thread.events)
      (confirmed : result.outcome = .confirmed)
      (replaced : txHash = transaction.txHash ∨ ∃ accepted,
        proves env thread.context .approve transaction result accepted = true ∧
        txHash = accepted.replacementTxHash)
      (is_ : s.store.row.approve.Is env.lower txHash) : ApproveProven env s (.resume id oracle)

def ReplacementProven (env : Surroundings) (row : Row) (txHash : JsString) : Prop :=
  ∃ intent replacement observedAt accepted, SameDeposit intent row ∧
    intent.deposit.SameTransaction row.deposit ∧
    proveApprovedLighterDepositReplacement env intent .deposit replacement observedAt = .ok accepted ∧
    accepted.replacementTxHash = txHash

structure Stays (row row' : Row) : Prop where
  approve : row.approve.txHash ≠ none → row.approve.SameTransaction row'.approve
  deposit : row.deposit.txHash ≠ none → row.deposit.SameTransaction row'.deposit
  credited : row.executionState = .credited → row'.executionState = .credited
  failed : row.executionState = .failed → row'.executionState = .failed

structure Kept (env : Surroundings) (s : World) (act : Act) (row' : Row) : Prop where
  stays : Stays s.store.row row'
  stagedFrom : s.store.row.deposit.txHash = none → row'.deposit.txHash ≠ none →
    s.store.row.executionState ∈ [.approveConfirmed, .allowanceVerified]
  allowance : s.store.row.executionState ≠ .allowanceVerified →
    row'.executionState = .allowanceVerified → ∃ id oracle thread, act = .resume id oracle ∧
      s.threads id = some thread ∧ ∃ walletAddress spender amountUnits ceiling,
        (⟨.signApproveLeg walletAddress spender amountUnits ceiling, .ok none⟩ : ExecutionEvent) ∈
          thread.events
  approved : s.store.row.executionState ≠ .approveConfirmed →
    row'.executionState = .approveConfirmed → ApproveProven env s act
  replaced : row'.deposit.replacementTxHash ≠ s.store.row.deposit.replacementTxHash →
    ∃ txHash, row'.deposit.replacementTxHash = some txHash ∧
      ReplacementProven env s.store.row txHash
  failed : s.store.row.deposit.txHash ≠ none → s.store.row.executionState ≠ .failed →
    row'.executionState = .failed → Reverted env s act
  confirmed : s.store.row.executionState ≠ .depositConfirmed →
    row'.executionState = .depositConfirmed → ∃ op evidence, IssuedBy env s op act ∧
      op.transition = .depositConfirmed evidence ∧
      Evidences env.lower s.store.row evidence.txHash evidence.walletAddress evidence.assetIndex
        evidence.routeType evidence.amountUnits
  credited : s.store.row.executionState ≠ .credited → row'.executionState = .credited →
    ∃ op evidence, IssuedBy env s op act ∧ op.transition = .depositCredited evidence ∧
      Evidences env.lower s.store.row evidence.l1.txHash evidence.l1.walletAddress
        evidence.l1.assetIndex evidence.l1.routeType evidence.l1.amountUnits ∧
      (∃ blockHash ∈ s.store.row.l1.blockHash,
        env.lower blockHash = env.lower evidence.l1.blockHash) ∧
      s.store.row.l1.blockNumber = some evidence.l1.blockNumber ∧
      s.store.row.l1.eventAccountIndex = some evidence.l1.accountIndex

/-- What holds in a state: the deposit waits in the queue, and it was broadcast at most once. -/
structure Once (s : World) : Prop where
  queued : s.store.row.deposit.txHash ≠ none → s.store.row.executionState ∉ finalStates →
    Unresolved s.store.row
  sent : ∀ id thread transaction answer, s.threads id = some thread →
    (⟨.broadcastDeposit transaction, answer⟩ : ExecutionEvent) ∈ thread.events →
      s.store.row.deposit.Holds transaction
  once : ∀ id thread, s.threads id = some thread → thread.events.countP isDepositBroadcast ≤ 1
  alone : ∀ id thread id' thread', s.threads id = some thread → s.threads id' = some thread' →
    0 < thread.events.countP isDepositBroadcast → 0 < thread'.events.countP isDepositBroadcast →
      id = id'

/-- In the whole run the deposit is neither abandoned nor repeated. -/
structure NeverAbandoned (env : Surroundings) (start : World) (acts : List Act) : Prop where
  step : ∀ before act later, acts = before ++ act :: later →
    Kept env (after env start before) act (after env start (before ++ [act])).store.row
  stays : ∀ before between later, acts = before ++ between ++ later →
    Stays (after env start before).store.row (after env start (before ++ between)).store.row
  state : ∀ before later, acts = before ++ later → Once (after env start before)

/-! ## Who issues a statement -/

section

variable {env : Surroundings} {s : World} {act : Act} {op : Op}

theorem step_wrote (env : Surroundings) (s : World) (act : Act) :
    Wrote env.lower s.store.row (Interleaving.step (sem env) s act).store.row
      (IssuedBy env s · act) := by
  cases act with
  | start id =>
    cases runs : s.threads id with
    | none | some thread =>
      simp only [Interleaving.step, runs]
      exact .inl rfl
  | other act => exact beside_wrote act
  | resume id oracle =>
    cases runs : s.threads id with
    | none =>
      simp only [Interleaving.step, runs]
      exact .inl rfl
    | some thread =>
      simp only [Interleaving.step, runs, Interleaving.resumed]
      split
      · exact .inl rfl
      · rename_i call rest locals calls
        obtain same | ⟨op, issues, took⟩ := (@perform_wrote env s.store oracle call).2
        · exact .inl same
        · exact .inr ⟨op, ⟨thread, call, runs, by simp [nextCall, calls], issues⟩, took⟩

theorem issuedBy_cases (issued : IssuedBy env s op act) :
    (∃ id oracle thread, act = .resume id oracle ∧ s.threads id = some thread ∧
      nextCall thread = some (.statement op.intentId op.transition) ∧
      op.workflow = oracle.workflow) ∨
    (act = .other (.statement op) ∧ onlyExecutors op.transition = false) ∨
    ∃ repair stage replacement observedAt read accepted, s.store.reads repair = some read ∧
      proveApprovedLighterDepositReplacement env read stage replacement observedAt = .ok accepted ∧
      op.transition = recordReplacement stage accepted := by
  cases act with
  | start id => exact issued.elim
  | resume id oracle =>
    obtain ⟨thread, call, runs, calls, intentId, transition, rfl, rfl⟩ := issued
    exact .inl ⟨id, oracle, thread, rfl, runs, calls, rfl⟩
  | other act =>
    obtain ⟨rfl, outside⟩ | ⟨repair, stage, replacement, observedAt, time, rfl, same⟩ := issued
    · exact .inr (.inl ⟨rfl, outside⟩)
    · obtain ⟨read, reads, same⟩ := Option.bind_eq_some_iff.1 same
      obtain ⟨accepted, proven, same⟩ := Option.bind_eq_some_iff.1 same
      cases same
      exact .inr (.inr ⟨repair, stage, replacement, observedAt, read, accepted, reads,
        toOption_eq_some.1 proven, rfl⟩)

variable {id : Nat} {thread : Thread} {intentId : JsString}

variable {transition : Transition}

/-- A statement that an executor is about to issue is permitted by its monitor, at a stage that
says what the executor did. -/
theorem Reached.permitted (reached : Reached env s) (runs : s.threads id = some thread)
    (calls : nextCall thread = some (.statement intentId transition)) :
    ∃ stage, Told env thread.context stage thread.events ∧
      (stages env s).stages id = some (thread.context, stage) ∧
      ∀ answer, ∃ stage', observeStatement env thread.context stage transition answer =
        some stage' := by
  obtain ⟨stage, told, at_, holds⟩ := reached.thread runs
  refine ⟨stage, told, at_, fun answer => ?_⟩
  unfold nextCall at calls
  split at calls
  · cases calls
  · rename_i call rest locals next
    cases calls
    obtain ⟨stage', seen, -⟩ := Program.wp_next holds next answer
    exact ⟨stage', (Option.ite_none_right_eq_some.1 seen).2⟩

theorem Reached.names (reached : Reached env s) (runs : s.threads id = some thread)
    (calls : nextCall thread = some (.statement intentId transition)) :
    s.store.row.intentId = intentId := by
  obtain ⟨stage, -, at_, holds⟩ := reached.thread runs
  have same : thread.context.intentId = s.store.row.intentId :=
    (reached.sound.same id thread.context stage at_).intentId
  unfold nextCall at calls
  split at calls
  · cases calls
  · rename_i call rest locals next
    cases calls
    obtain ⟨stage', seen, -⟩ := Program.wp_next holds next (.ok none)
    rw [← same]
    exact (Option.ite_none_right_eq_some.1 seen).1.symm

theorem Reached.beside (reached : Reached env s) (issued : IssuedBy env s op act)
    (foreign : ∀ intent stage, observeStatement env intent stage op.transition (.ok none) = none)
    (other : ∀ leg accepted, op.transition ≠ recordReplacement leg accepted) :
    act = .other (.statement op) := by
  obtain ⟨id, oracle, thread, rfl, runs, calls, -⟩ | ⟨rfl, -⟩ | ⟨_, leg, _, _, _, accepted, -, -, same⟩ :=
    issuedBy_cases issued
  · obtain ⟨stage, -, -, permitted⟩ := reached.permitted runs calls
    obtain ⟨stage', seen⟩ := permitted (.ok none)
    exact nomatch (foreign _ _).symm.trans seen
  · rfl
  · exact absurd same (other leg accepted)

theorem issuedBy_executor (issued : IssuedBy env s op act)
    (only : onlyExecutors op.transition = true)
    (other : ∀ leg accepted, op.transition ≠ recordReplacement leg accepted) :
    ∃ id oracle thread, act = .resume id oracle ∧ s.threads id = some thread ∧
      nextCall thread = some (.statement op.intentId op.transition) ∧
      op.workflow = oracle.workflow := by
  obtain issued | ⟨-, outside⟩ | ⟨_, leg, _, _, _, accepted, -, -, same⟩ := issuedBy_cases issued
  · exact issued
  · exact nomatch only.symm.trans outside
  · exact absurd same (other leg accepted)

/-! ## What one step keeps -/

variable {row' : Row}

variable {row : Row}

theorem Wrote.stays {lower : JsString → JsString} {statement : Op → Prop}
    (wrote : Wrote lower row row' statement) (shape : Shape row) : Stays row row' := by
  refine ⟨wrote.approve_kept shape, wrote.deposit_kept shape, fun credited => ?_, fun failed => ?_⟩
  · obtain rfl | ⟨op, -, took⟩ := wrote
    · exact credited
    · exact (effect_applied shape took).credited_kept credited
  · obtain rfl | ⟨op, -, took⟩ := wrote
    · exact failed
    · exact (effect_applied shape took).failed_kept failed

theorem Stays.refl (row : Row) : Stays row row :=
  ⟨fun _ => .of_eq rfl, fun _ => .of_eq rfl, id, id⟩

theorem Stays.trans {first second third : Row} (before : Stays first second)
    (after : Stays second third) : Stays first third where
  approve staged := by
    have same := before.approve staged
    exact same.trans (after.approve (by rw [same.txHash]; exact staged))
  deposit staged := by
    have same := before.deposit staged
    exact same.trans (after.deposit (by rw [same.txHash]; exact staged))
  credited := after.credited ∘ before.credited
  failed := after.failed ∘ before.failed

variable {oracle : Oracle}

variable {transaction : StagedTransaction}

theorem reverted_of_mayFail (reached : Reached env s) (runs : s.threads id = some thread)
    {stage : Stage} (told : Told env thread.context stage thread.events)
    (at_ : (stages env s).stages id = some (thread.context, stage))
    (staged : stage.staged = some transaction) (may : stage.mayFail = true) :
    Reverted env s (.resume id oracle) := by
  have holds := reached.sound.staged id thread.context stage transaction at_ staged
  cases stage with
  | depositAnswered own result =>
    cases staged
    simp only [Stage.mayFail, Bool.and_eq_true, decide_eq_true_eq] at may
    exact .answered id oracle thread transaction result runs (told.depositResult _ _ rfl) holds
      may.1.1 may.1.2 (.inl may.2)
  | depositAccepted own result accepted =>
    cases staged
    simp only [Stage.mayFail, Bool.and_eq_true, decide_eq_true_eq] at may
    exact .answered id oracle thread transaction result runs (told.depositResult _ _ rfl) holds
      may.1 may.2 (.inr ⟨accepted, reached.sound.same _ _ _ at_, told.proven _ _ _ _ rfl,
        reached.sound.accepted _ _ _ _ _ at_⟩)
  | depositing own => cases may
  | closed own => cases may
  | _ => cases staged

def StagedItself (thread : Thread) : Prop :=
  ∃ intentId transaction row, stagedDeposit intentId transaction row ∈ thread.events

/-- No failure is written on a row with a staged deposit by a run that has not staged it itself. -/
def Spares (s : World) : Act → Prop
  | .resume id oracle => ∀ thread intentId reason, s.threads id = some thread →
      nextCall thread = some (.statement intentId (.failed reason)) →
        s.store.row.deposit.txHash ≠ none → s.store.row.executionState ∉ finalStates →
          oracle.ack ≠ .lostBefore → oracle.workflow = true → StagedItself thread
  | _ => True

theorem step_resume {call : Call} (runs : s.threads id = some thread)
    (calls : nextCall thread = some call) :
    (Interleaving.step (sem env) s (.resume id oracle)).store =
      (perform env s.store oracle call).1 := by
  unfold nextCall at calls
  split at calls
  · cases calls
  · rename_i call rest locals next
    cases calls
    simp [Interleaving.step, runs, Interleaving.resumed, next, sem]

variable {store : Store}

theorem perform_lost {call : Call} (lost : oracle.ack = .lostBefore) :
    (perform env store oracle call).1 = store := by
  cases call with
  | statement intentId transition => simp [perform, lost]
  | _ => rfl

variable {reason : JsString}

theorem perform_failed (names : store.row.intentId = intentId)
    (uncredited : store.row.executionState ≠ .credited) (committed : oracle.ack ≠ .lostBefore)
    (accepted : oracle.workflow = true) :
    (perform env store oracle (.statement intentId (.failed reason))).1.row.executionState =
      .failed := by
  have took : applied env.lower store.row ⟨oracle.time, intentId, oracle.workflow, .failed reason⟩ =
      some _ := casRow_eq_some.2 ⟨⟨⟨names, uncredited⟩, accepted⟩, rfl⟩
  unfold perform
  cases ack : oracle.ack with
  | lostBefore => exact absurd ack committed
  | returned | lostAfter => simp [Store.write, step, orStay, took]

theorem failed_took (records : op.transition = .failed reason)
    (took : applied env.lower row op = some row') :
    row.executionState ≠ .credited ∧ op.workflow = true := by
  obtain ⟨time, intentId, workflow, transition⟩ := op
  cases records
  obtain ⟨⟨⟨-, uncredited⟩, accepted⟩, -⟩ := casRow_eq_some.1 took
  exact ⟨uncredited, accepted⟩

theorem Reached.failed (reached : Reached env s) (spares : Spares s act)
    (staged : s.store.row.deposit.txHash ≠ none) (before : s.store.row.executionState ≠ .failed)
    (failed : (Interleaving.step (sem env) s act).store.row.executionState = .failed) :
    Reverted env s act := by
  obtain same | ⟨op, issued, took⟩ := step_wrote env s act
  · exact absurd (same ▸ failed) before
  have shape : Shape s.store.row := reached.sound.shape
  obtain ⟨reason, records⟩ | ⟨txHash, records, is_⟩ :=
    (effect_applied shape took).failed_by before failed staged
  · obtain ⟨id, oracle, thread, rfl, runs, calls, workflow⟩ :=
      issuedBy_executor issued (by rw [records]; rfl) (by rw [records]; rintro ⟨⟩ _ ⟨⟩)
    have store := @step_resume env s id thread oracle _ runs calls
    rw [records] at calls
    obtain ⟨stage, told, at_, permitted⟩ := reached.permitted runs calls
    have committed : oracle.ack ≠ .lostBefore := by
      intro lost
      rw [store, perform_lost lost] at failed
      exact before failed
    obtain ⟨uncredited, accepted⟩ := failed_took records took
    obtain ⟨intentId, transaction, row, among⟩ := spares thread _ _ runs calls staged
      (by simp [finalStates, before, uncredited]) committed (workflow ▸ accepted)
    obtain ⟨stage', seen⟩ := permitted (.ok none)
    exact reverted_of_mayFail reached runs told at_ (told.staged _ _ _ among)
      (Option.ite_none_right_eq_some.1 seen).1
  · obtain rfl := reached.beside issued (by rw [records]; exact fun _ _ => rfl)
      (by rw [records]; rintro ⟨⟩ _ ⟨⟩)
    exact .receipt op txHash records is_

theorem Reached.allowance (reached : Reached env s)
    (wrote : Wrote env.lower s.store.row row' (IssuedBy env s · act))
    (before : s.store.row.executionState ≠ .allowanceVerified)
    (verified : row'.executionState = .allowanceVerified) : ∃ id oracle thread,
      act = .resume id oracle ∧ s.threads id = some thread ∧
        ∃ walletAddress spender amountUnits ceiling,
          (⟨.signApproveLeg walletAddress spender amountUnits ceiling, .ok none⟩ : ExecutionEvent) ∈
            thread.events := by
  obtain rfl | ⟨op, issued, took⟩ := wrote
  · exact absurd verified before
  have records := ((effect_applied reached.sound.shape took).proven_by
    (by rw [verified]; exact Ne.symm before)).1 verified
  obtain ⟨id, oracle, thread, rfl, runs, calls, -⟩ :=
    issuedBy_executor issued (by rw [records]; rfl) (by rw [records]; rintro ⟨⟩ _ ⟨⟩)
  rw [records] at calls
  obtain ⟨stage, told, -, permitted⟩ := reached.permitted runs calls
  obtain ⟨stage', seen⟩ := permitted (.ok none)
  exact ⟨id, oracle, thread, rfl, runs, told.allowed (Option.ite_none_right_eq_some.1 seen).1⟩

theorem Reached.approved (reached : Reached env s)
    (wrote : Wrote env.lower s.store.row row' (IssuedBy env s · act))
    (before : s.store.row.executionState ≠ .approveConfirmed)
    (confirmed : row'.executionState = .approveConfirmed) : ApproveProven env s act := by
  obtain rfl | ⟨op, issued, took⟩ := wrote
  · exact absurd confirmed before
  obtain ⟨txHash, records | records, is_⟩ := ((effect_applied reached.sound.shape took).proven_by
    (by rw [confirmed]; exact Ne.symm before)).2 confirmed
  · obtain ⟨id, oracle, thread, rfl, runs, calls, -⟩ :=
      issuedBy_executor issued (by rw [records]; rfl) (by rw [records]; rintro ⟨⟩ _ ⟨⟩)
    rw [records] at calls
    obtain ⟨stage, told, -, permitted⟩ := reached.permitted runs calls
    obtain ⟨stage', seen⟩ := permitted (.ok none)
    cases stage with
    | approveAnswered transaction result =>
      obtain ⟨⟨outcome, same⟩, -⟩ := Option.ite_none_right_eq_some.1 seen
      exact .answered id oracle thread transaction result txHash runs
        (told.approveResult _ _ rfl) outcome (.inl same) is_
    | approveAccepted transaction result accepted =>
      obtain ⟨⟨outcome, same⟩, -⟩ := Option.ite_none_right_eq_some.1 seen
      exact .answered id oracle thread transaction result txHash runs
        (told.approveResult _ _ rfl) outcome
        (.inr ⟨accepted, told.proven _ _ _ _ rfl, same⟩) is_
    | _ => cases seen
  · obtain rfl := reached.beside issued (by rw [records]; exact fun _ _ => rfl)
      (by rw [records]; rintro ⟨⟩ _ ⟨⟩)
    exact .receipt op txHash records is_

variable {intent : Row} {accepted : Replacement}

theorem replacementProven_of_proves {result : LegResult} (same : SameDeposit intent row)
    (holds : row.deposit.Holds transaction)
    (proven : proves env intent .deposit transaction result accepted = true) :
    ReplacementProven env row accepted.replacementTxHash := by
  unfold proves at proven
  cases replaced : result.replacement with
  | none =>
    rw [replaced] at proven
    cases proven
  | some replacement =>
    rw [replaced] at proven
    refine ⟨withStaged intent .deposit transaction, replacement, result.observedAt, accepted, ?_, ?_,
      toOption_eq_some.1 (of_decide_eq_true proven), rfl⟩
    · exact ⟨same.1, same.2, same.3, same.4, same.5, same.6⟩
    · exact ⟨holds.1, holds.2, holds.3⟩

theorem staged_of_proven {stage : LegStage} {replacement : ReceiptReplacementEvidence}
    {observedAt : Instant}
    (proven : proveApprovedLighterDepositReplacement env intent stage replacement observedAt =
      .ok accepted) : (intent.leg stage).txHash ≠ none := by
  intro unstaged
  rw [proveApprovedLighterDepositReplacement, unstaged] at proven
  cases proven

section
variable (reached : Reached env s)
include reached

theorem Reached.replaced (wrote : Wrote env.lower s.store.row row' (IssuedBy env s · act))
    (changed : row'.deposit.replacementTxHash ≠ s.store.row.deposit.replacementTxHash) :
    ∃ txHash, row'.deposit.replacementTxHash = some txHash ∧
      ReplacementProven env s.store.row txHash := by
  obtain rfl | ⟨op, issued, took⟩ := wrote
  · exact absurd rfl changed
  obtain ⟨accepted, records, -, recorded⟩ :=
    (effect_applied reached.sound.shape took).replaced_by changed
  refine ⟨_, recorded, ?_⟩
  obtain ⟨id, oracle, thread, rfl, runs, calls, -⟩ | ⟨-, outside⟩ |
    ⟨repair, leg, replacement, observedAt, read, proven, reads, proof, same⟩ := issuedBy_cases issued
  · rw [records] at calls
    obtain ⟨stage, told, at_, permitted⟩ := reached.permitted runs calls
    obtain ⟨stage', seen⟩ := permitted (.ok none)
    cases stage with
    | depositAnswered transaction result =>
      exact replacementProven_of_proves (reached.sound.same _ _ _ at_)
        (reached.sound.staged _ _ _ _ at_ rfl) (Option.ite_none_right_eq_some.1 seen).1
    | _ => cases seen
  · rw [records] at outside
    cases outside
  · rw [records] at same
    cases leg with
    | approve => cases same
    | deposit =>
      cases same
      have before := reached.sound.reads repair read reads
      exact ⟨read, replacement, observedAt, accepted, before.same,
        before.deposit (staged_of_proven proof), proof, rfl⟩

theorem Reached.kept (spares : Spares s act) :
    Kept env s act (Interleaving.step (sem env) s act).store.row := by
  have wrote := step_wrote env s act
  have shape : Shape s.store.row := reached.sound.shape
  refine ⟨wrote.stays shape, ?_, reached.allowance wrote, reached.approved wrote,
    reached.replaced wrote, reached.failed spares, ?_, ?_⟩
  · intro unstaged staged
    obtain same | ⟨op, -, took⟩ := wrote
    · exact absurd (same ▸ unstaged) staged
    · obtain ⟨-, -, source, -⟩ := (effect_applied shape took).staged_by unstaged staged
      exact source
  · intro before confirmed
    obtain same | ⟨op, issued, took⟩ := wrote
    · exact absurd (same ▸ confirmed) before
    · obtain ⟨evidence, records, evidences⟩ :=
        (effect_applied shape took).confirmed_by before confirmed
      exact ⟨op, evidence, issued, records, evidences⟩
  · intro before credited
    obtain same | ⟨op, issued, took⟩ := wrote
    · exact absurd (same ▸ credited) before
    · obtain ⟨evidence, records, evidences⟩ :=
        (effect_applied shape took).credited_by before credited
      exact ⟨op, evidence, issued, records, evidences⟩

/-! ## What holds in a state -/

theorem Reached.sender (runs : s.threads id = some thread)
    (sent : 0 < thread.events.countP isDepositBroadcast) :
    ∃ stage, (stages env s).stages id = some (thread.context, stage) ∧ stage.staged ≠ none := by
  obtain ⟨stage, told, at_, -⟩ := reached.thread runs
  obtain ⟨⟨call, answer⟩, among, is_⟩ := List.countP_pos_iff.1 sent
  refine ⟨stage, at_, ?_⟩
  cases call with
  | broadcastDeposit transaction =>
    rw [(told.broadcast transaction answer among).1]
    exact Option.some_ne_none transaction
  | _ => exact absurd is_ Bool.false_ne_true

theorem Reached.once : Once s where
  queued staged open_ := by
    have shape := reached.sound.shape
    refine ⟨shape.capability, open_, shape.not_rejected_of_staged ?_ (.inr staged)⟩
    intro failed
    exact open_ (by simp [show s.store.row.executionState = .failed from failed, finalStates])
  sent id thread transaction answer runs among := by
    obtain ⟨stage, told, at_, -⟩ := reached.thread runs
    exact reached.sound.staged id thread.context stage transaction at_
      (told.broadcast transaction answer among).1
  once id thread runs := by
    obtain ⟨stage, told, -, -⟩ := reached.thread runs
    exact told.once
  alone id thread id' thread' runs runs' sent sent' := by
    obtain ⟨stage, at_, staged⟩ := reached.sender runs sent
    obtain ⟨stage', at_', staged'⟩ := reached.sender runs' sent'
    exact reached.sound.alone _ _ _ _ _ _ at_ at_' staged staged'

theorem Reached.stays (acts : List Act) :
    Stays s.store.row (DepositExecution.after env s acts).store.row := by
  induction acts generalizing s with
  | nil => exact .refl _
  | cons act acts ih =>
    have step := (step_wrote env s act).stays reached.sound.shape
    exact step.trans (ih (reached.step act))

/-! ## The whole run -/

theorem Reached.spares (kept : Kept env s act row')
    (row : row' = (Interleaving.step (sem env) s act).store.row) : Spares s act := by
  subst row
  cases act with
  | start id => trivial
  | other act => trivial
  | resume id oracle =>
    intro thread intentId reason runs calls staged open_ committed accepted
    obtain ⟨stage, told, at_, -⟩ := reached.permitted runs calls
    have before : s.store.row.executionState ≠ .failed := fun failed =>
      open_ (by simp [failed, finalStates])
    have failed : (Interleaving.step (sem env) s (.resume id oracle)).store.row.executionState =
        .failed := by
      rw [step_resume runs calls]
      exact perform_failed (reached.names runs calls) (fun credited =>
        open_ (by simp [credited, finalStates])) committed accepted
    cases kept.failed staged before failed with
    | answered _ _ thread' transaction result runs' answered =>
      obtain rfl := Option.some.inj (runs.symm.trans runs')
      have own := (told.broadcast _ _ answered).1
      obtain ⟨row, among⟩ := told.stagedBy transaction own
      exact ⟨_, transaction, row, among⟩

end

/-- The deposit is neither abandoned nor repeated in exactly the runs in which no failure is written
on a row with a staged deposit by a run that has not staged it itself. -/
theorem neverAbandoned_iff (env : Surroundings) (time : StatementTime)
    (input : CreateDepositIntentInput) (acts : List Act) :
    NeverAbandoned env (created time input) acts ↔
      Along (Interleaving.step (sem env)) Spares (created time input) acts := by
  constructor
  · intro never
    refine Along.of_steps fun before act later split => ?_
    refine (reached_after env time input before).spares (never.step before act later split) ?_
    simp only [after, run_concat]
  · intro along
    refine ⟨fun before act later split => ?_, fun before between later split => ?_,
      fun before later split => (reached_after env time input before).once⟩
    · subst split
      have spares : Spares (after env (created time input) before) act :=
        (Along.append.1 along).2.1
      simpa only [after, run_concat] using (reached_after env time input before).kept spares
    · simpa only [after, run_append] using (reached_after env time input before).stays between

end

/-! ## A deposit that is swept away -/

/-- A deposit of five dollars, whose allowance suffices. -/
def fiveDollars : CreateDepositIntentInput where
  intentId := "intent"
  sessionId := "session"
  environment := .core
  walletAddress := "0x1111111111111111111111111111111111111111"
  chainId := 1
  terms :=
    { depositContract := "0x3B4D794a66304F130a4Db8F2551B0070dfCf5ca7"
      depositTo := "0x1111111111111111111111111111111111111111"
      assetIndex := 3
      routeType := 0
      amountUnits := 5000000 }
  preflight := "preflight"
  expiresAt := 900000

/-- Its preflight, on a chain whose addresses are spelled as they are checked. -/
def fiveDollarsChain : Surroundings where
  lower := List.map JsString.lowerAscii
  isAddress _ := true
  getAddress := .ok
  encodeApprove _ _ := "0x095ea7b3"
  encodeDeposit _ _ _ _ := "0x8a857083"
  decodeDeposit _ := none
  preflight _ :=
    { settlementTokenAddress := some "0xA0b86991c6218b36c1d19D4a2e9Eb0cE3606eB48"
      settlementTokenSymbol := some "USDC"
      settlementTokenDecimals := some 6
      minimumTransferUnits := some 1000000
      walletBalanceUnits := some 9000000
      walletAllowanceUnits := some 9000000
      walletNativeBalanceWei := some 9000000
      ethereumBlockNumber := some 21000000
      lighterBlockNumber := some 100
      observedAt := some 1
      approveGasLimit := some 0
      depositGasLimit := some 100000
      maxFeePerGasWei := some 20
      maxPriorityFeePerGasWei := some 1
      approveMaxFeeWei := some 0
      depositMaxFeeWei := some 2000000
      totalMaxFeeWei := some 2000000
      nativeReserveWei := some 2000000
      requiredNativeBalanceWei := some 4000000 }

/-- The calls of a run that signs its deposit and does not learn how the broadcast ended. -/
def unsureAnswers : (call : Call) → Except Thrown call.Answer
  | .depositFeePreflightComplete => .ok true
  | .assertExecutionLease => .ok ()
  | .assertFreshPreSignPreflight _ => .ok ⟨100000, 20, 1, 2000000⟩
  | .signApproveLeg _ _ _ _ => .ok none
  | .signDepositLeg _ _ _ _ =>
    .ok (.signed ⟨"0xd1", "0x1111111111111111111111111111111111111111", 7⟩)
  | .broadcastApprove _ => .error (.error "timeout")
  | .broadcastDeposit _ => .error (.error "timeout")
  | .statement _ _ => .error (.error "unused")

def refusedAnswers : (call : Call) → Except Thrown call.Answer
  | .assertExecutionLease => .error (.error "The lease is held by another run.")
  | call => unsureAnswers call

/-- A call whose statement is committed and acknowledged. -/
def committed (answer : (call : Call) → Except Thrown call.Answer) : Oracle :=
  ⟨⟨0, 0⟩, true, .returned, .error "unused", answer⟩

/-- The deposit is approved and two runs read it; the first stages and broadcasts the deposit, and
the second is refused the lease. -/
def beforeSweep : List Act :=
  [.other (.statement ⟨⟨0, 0⟩, "intent", true, .approvalDecision .approved none none none⟩),
    .start 0, .start 1]
  ++ List.replicate 10 (.resume 0 (committed unsureAnswers))
  ++ List.replicate 2 (.resume 1 (committed refusedAnswers))

/-- The refused run records a failure: the row fails while its deposit is on the chain. -/
theorem deposit_swept_by_refused_run :
    ¬ NeverAbandoned fiveDollarsChain (created ⟨0, 0⟩ fiveDollars)
      (beforeSweep ++ [.resume 1 (committed refusedAnswers)]) := by
  intro never
  have kept := never.step beforeSweep (.resume 1 (committed refusedAnswers)) [] rfl
  have unsent : ((after fiveDollarsChain (created ⟨0, 0⟩ fiveDollars) beforeSweep).threads 1).map
      (·.events.countP isDepositBroadcast) = some 0 := by decide
  cases kept.failed (by decide) (by decide) (by decide) with
  | answered id oracle thread transaction result runs answered =>
    rw [runs] at unsent
    exact List.countP_eq_zero.1 (Option.some.inj unsent) _ answered rfl

end Vex.Lighter.OnboardingIntents.DepositExecution
