import Vex.Lighter.DepositExecution

/-!
# The stages of an executor

A monitor follows an executor through its legs: it knows which transaction the executor
staged itself, what its broadcast answered and which replacement was recorded, and has no
next stage where a statement or a broadcast stands out of its turn. In particular a
failure is recorded while nothing of the leg is staged, or after the broadcast of the leg
answered that it reverted. The executor meets the monitor whatever its calls answer.
-/

namespace Vex.Lighter.OnboardingIntents.DepositExecution

open Vex.Library Vex.Evm.StagedBroadcast

/-! ## The monitor -/

/-- How far an executor is. At `closed` only the mark of an ambiguous outcome follows; it
remembers the deposit that the executor staged. -/
inductive Stage where
  | opening
  | allowed
  | approving (transaction : StagedTransaction)
  | approveAnswered (transaction : StagedTransaction) (result : LegResult)
  | approveAccepted (transaction : StagedTransaction) (result : LegResult) (accepted : Replacement)
  | ready
  | depositing (transaction : StagedTransaction)
  | depositAnswered (transaction : StagedTransaction) (result : LegResult)
  | depositAccepted (transaction : StagedTransaction) (result : LegResult) (accepted : Replacement)
  | closed (staged : Option StagedTransaction)
  deriving DecidableEq

def Stage.staged : Stage → Option StagedTransaction
  | .depositing transaction => some transaction
  | .depositAnswered transaction _ => some transaction
  | .depositAccepted transaction _ _ => some transaction
  | .closed staged => staged
  | _ => none

/-- The stage after a statement that wrote the row, and after one that did not. -/
def Stage.after (stage next : Stage) : Except Thrown (Option Row) → Stage
  | .ok (some _) => next
  | .ok none => .closed stage.staged
  | .error _ => .closed stage.staged

section

variable (env : Surroundings) (intent : Row)

def Stage.mayDeposit (stage : Stage) : Bool :=
  stage = .ready || (stage = .opening && resumes intent)

/-- A failure may be recorded: nothing of the leg is staged, or the leg reverted. -/
def Stage.mayFail : Stage → Bool
  | .opening => true
  | .ready => true
  | .approveAnswered transaction result =>
    result.outcome = .reverted && result.txHash = transaction.txHash
  | .approveAccepted transaction result _ =>
    result.outcome = .reverted && result.txHash = transaction.txHash
  | .depositAnswered transaction result =>
    result.outcome = .reverted && result.txHash = transaction.txHash && result.replacement = none
  | .depositAccepted transaction result _ =>
    result.outcome = .reverted && result.txHash = transaction.txHash
  | _ => false

def proves (stage : LegStage) (transaction : StagedTransaction) (result : LegResult)
    (accepted : Replacement) : Bool :=
  result.replacement.any fun replacement =>
    (proveApprovedLighterDepositReplacement env (withStaged intent stage transaction) stage
      replacement result.observedAt).toOption = some accepted

def observeStatement (stage : Stage) (transition : Transition)
    (answer : Except Thrown (Option Row)) : Option Stage :=
  match transition with
  | .approveSubmitted transaction =>
    if stage = .opening ∧ resumes intent = false then
      some (stage.after (.approving transaction) answer)
    else none
  | .allowanceVerified => if stage = .allowed then some (stage.after .ready answer) else none
  | .approveReplacement accepted =>
    match stage with
    | .approveAnswered transaction result =>
      if proves env intent .approve transaction result accepted = true then
        some (stage.after (.approveAccepted transaction result accepted) answer)
      else none
    | _ => none
  | .approveConfirmed txHash =>
    match stage with
    | .approveAnswered transaction result =>
      if result.outcome = .confirmed ∧ txHash = transaction.txHash then
        some (stage.after .ready answer)
      else none
    | .approveAccepted _ result accepted =>
      if result.outcome = .confirmed ∧ txHash = accepted.replacementTxHash then
        some (stage.after .ready answer)
      else none
    | _ => none
  | .depositSubmitted transaction =>
    if stage.mayDeposit intent = true then some (stage.after (.depositing transaction) answer)
    else none
  | .depositReplacement accepted =>
    match stage with
    | .depositAnswered transaction result =>
      if proves env intent .deposit transaction result accepted = true then
        some (stage.after (.depositAccepted transaction result accepted) answer)
      else none
    | _ => none
  | .depositConfirmed _ =>
    match stage with
    | .depositAnswered transaction _ => some (.closed (some transaction))
    | .depositAccepted transaction _ _ => some (.closed (some transaction))
    | _ => none
  | .ambiguous _ => some (.closed stage.staged)
  | .failed _ => if stage.mayFail = true then some (.closed stage.staged) else none
  | _ => none

def observe (stage : Stage) : ExecutionEvent → Option Stage
  | ⟨.depositFeePreflightComplete, _⟩ => some stage
  | ⟨.assertExecutionLease, _⟩ => some stage
  | ⟨.assertFreshPreSignPreflight _, _⟩ => some stage
  | ⟨.signApproveLeg _ _ _ _, answer⟩ =>
    if stage = .opening ∧ resumes intent = false then
      match answer with
      | .ok none => some .allowed
      | .ok (some _) => some stage
      | .error _ => some stage
    else none
  | ⟨.signDepositLeg _ _ _ _, _⟩ =>
    if stage.mayDeposit intent = true then some stage else none
  | ⟨.broadcastApprove transaction, answer⟩ =>
    if stage = .approving transaction then
      match answer with
      | .ok result => some (.approveAnswered transaction result)
      | .error _ => some (.closed none)
    else none
  | ⟨.broadcastDeposit transaction, answer⟩ =>
    if stage = .depositing transaction then
      match answer with
      | .ok result => some (.depositAnswered transaction result)
      | .error _ => some (.closed (some transaction))
    else none
  | ⟨.statement intentId transition, answer⟩ =>
    if intentId = intent.intentId then observeStatement env intent stage transition answer
    else none

end

/-! ## The executor meets it -/

section Meets

variable {env : Surroundings} {intent : Row} {α β : Type}

variable {post : Except Thrown α → Progress → Stage → Prop} {progress : Progress} {stage : Stage}

variable {transition : Transition}

theorem tryTransition_bind {next : Bool → Execution α} (after_ : Bool → Stage)
    (seen : ∀ answer, observeStatement env intent stage transition answer =
      some (after_ (match answer with
        | .ok (some _) => true
        | .ok none => false
        | .error _ => false)))
    (onward : ∀ wrote, (next wrote).wp (observe env intent) post progress (after_ wrote)) :
    (tryTransition intent.intentId transition >>= next).wp (observe env intent) post progress
      stage := by
  refine Program.wp_bind.2 (Program.wp_attempt_perform_bind fun answer => ?_)
  have permitted : observe env intent stage ⟨.statement intent.intentId transition, answer⟩ =
      observeStatement env intent stage transition answer := if_pos rfl
  refine ⟨_, permitted.trans (seen answer), ?_⟩
  match answer with
  | .ok (some row) => exact onward true
  | .ok none => exact onward false
  | .error thrown => exact onward false

variable {leg : LegStage}

variable {txHash : Option JsString} {reason : JsString}

theorem ambiguousResult_wp {post : Except Thrown Result → Progress → Stage → Prop}
    (onward : ∀ result, post (.ok result) progress (.closed stage.staged)) :
    (ambiguousResult intent.intentId leg txHash reason).wp (observe env intent) post progress
      stage := by
  refine tryTransition_bind (fun _ => .closed stage.staged) ?_ fun wrote => ?_
  · exact fun answer => rfl
  · exact onward _

variable {next : Result → Execution α}

theorem ambiguousResult_bind
    (onward : ∀ result, (next result).wp (observe env intent) post progress (.closed stage.staged)) :
    (ambiguousResult intent.intentId leg txHash reason >>= next).wp (observe env intent) post
      progress stage :=
  Program.wp_bind.2 (ambiguousResult_wp onward)

theorem failedResult_bind {recorded : JsString} (may : stage.mayFail = true)
    (onward : ∀ result, (next result).wp (observe env intent) post progress (.closed stage.staged)) :
    (failedResult intent.intentId leg recorded reason >>= next).wp (observe env intent) post
      progress stage := by
  refine Program.wp_bind.2 (tryTransition_bind (fun _ => .closed stage.staged) ?_ fun wrote => ?_)
  · exact fun answer => if_pos may
  · exact onward _

/-! ### The approve leg -/

def Progress.Undeposited (progress : Progress) : Prop :=
  progress.depositTxHash = none ∧ progress.depositStaged = none

/-- What the approve leg leaves behind: where it goes on the deposit leg may begin. -/
def ApprovePost : Except Thrown (Continuation (Option Nat)) → Progress → Stage → Prop
  | .ok (.inl _), _, _ => True
  | .ok (.inr _), progress, stage => stage = .ready ∧ progress.Undeposited
  | .error _, progress, stage => progress.approveTxHash = none → stage.mayFail = true

theorem stage_after {next : Stage} (answer : Except Thrown (Option Row)) :
    stage.after next answer = (fun wrote : Bool => if wrote then next else .closed stage.staged)
      (match answer with
        | .ok (some _) => true
        | .ok none => false
        | .error _ => false) := by
  match answer with
  | .ok (some _) => rfl
  | .ok none => rfl
  | .error _ => rfl

theorem tryTransition_after {next : Bool → Execution α} (onward : Stage)
    (seen : ∀ answer, observeStatement env intent stage transition answer =
      some (stage.after onward answer))
    (wrote : (next true).wp (observe env intent) post progress onward)
    (missed : (next false).wp (observe env intent) post progress (.closed stage.staged)) :
    (tryTransition intent.intentId transition >>= next).wp (observe env intent) post progress
      stage := by
  refine tryTransition_bind (fun wrote => if wrote then onward else .closed stage.staged) ?_ ?_
  · exact fun answer => (seen answer).trans (congrArg some (stage_after answer))
  · intro wrote'
    cases wrote' with
    | true => exact wrote
    | false => exact missed

theorem allowanceSkipped_wp (fresh : progress.Undeposited) :
    (allowanceSkipped intent).wp (observe env intent) ApprovePost progress .allowed :=
  tryTransition_after .ready (fun _ => rfl) ⟨rfl, fresh⟩ trivial

variable {result : LegResult}

variable {effective : JsString}

theorem approveOutcome_wp (fresh : progress.Undeposited)
    (fails : result.outcome = .reverted → stage.mayFail = true)
    (confirms : result.outcome = .confirmed → ∀ answer,
      observeStatement env intent stage (.approveConfirmed effective) answer =
        some (stage.after .ready answer)) :
    (approveOutcome intent result effective).wp (observe env intent) ApprovePost progress stage := by
  unfold approveOutcome
  split
  · rename_i reverted
    exact failedResult_bind (fails reverted) fun _ => trivial
  · exact ambiguousResult_bind fun _ => trivial
  · rename_i confirmed
    refine tryTransition_after .ready (confirms confirmed) ⟨rfl, fresh⟩ ?_
    exact ambiguousResult_bind fun _ => trivial

variable {transaction : StagedTransaction}

variable {replacement : ReceiptReplacementEvidence}

theorem approveReplaced_wp (fresh : progress.Undeposited)
    (same : result.txHash = transaction.txHash) (replaced : result.replacement = some replacement) :
    (approveReplaced env intent transaction result replacement).wp (observe env intent) ApprovePost
      progress (.approveAnswered transaction result) := by
  unfold approveReplaced
  split
  · exact ambiguousResult_bind fun _ => trivial
  · rename_i accepted proven
    have permitted : proves env intent .approve transaction result accepted = true := by
      simp [proves, replaced, proven, Except.toOption]
    refine tryTransition_after (.approveAccepted transaction result accepted)
      (fun _ => if_pos permitted) ?_ ?_
    · refine Program.wp_bind.2 (Program.wp_assign.2 ?_)
      refine approveOutcome_wp fresh (fun reverted => ?_) fun confirmed _ => if_pos ⟨confirmed, rfl⟩
      simp [Stage.mayFail, reverted, same]
    · exact ambiguousResult_bind fun _ => trivial

theorem approveReturned_wp (fresh : progress.Undeposited)
    (hash : progress.approveTxHash = some transaction.txHash)
    (staged : progress.approveStaged = some transaction) :
    (approveReturned env intent result).wp (observe env intent) ApprovePost progress
      (.approveAnswered transaction result) := by
  refine Program.wp_bind.2 (Program.wp_current.2 ?_)
  simp only [Program.andThenPost_ok, hash, staged, Option.some.injEq]
  by_cases same : transaction.txHash = result.txHash
  · rw [if_pos same]
    split
    · rename_i plain
      refine approveOutcome_wp fresh (fun reverted => ?_) fun confirmed _ => ?_
      · simp [Stage.mayFail, reverted, same]
      · exact if_pos ⟨confirmed, same.symm⟩
    · rename_i replacement staged' replaced equal
      obtain rfl := Option.some.inj equal
      exact approveReplaced_wp fresh same.symm replaced
    · exact ambiguousResult_bind fun _ => trivial
  · rw [if_neg same]
    exact ambiguousResult_bind fun _ => trivial

variable {terms : DepositTerms}

theorem approveBlock_wp (begins : resumes intent = false) :
    (approveBlock env intent terms).wp (observe env intent) ApprovePost .fresh .opening := by
  have fresh : Progress.fresh.Undeposited := ⟨rfl, rfl⟩
  refine Program.wp_perform_bind (fun _ => ⟨.opening, rfl, fun _ => rfl⟩) fun _ => ?_
  refine ⟨.opening, rfl, ?_⟩
  refine Program.wp_perform_bind (fun _ => ⟨.opening, rfl, fun _ => rfl⟩) fun ceiling => ?_
  refine ⟨.opening, rfl, ?_⟩
  refine Program.wp_perform_bind ?_ fun start => ?_
  · exact fun _ => ⟨.opening, if_pos ⟨rfl, begins⟩, fun _ => rfl⟩
  match start with
  | none => exact ⟨.allowed, if_pos ⟨rfl, begins⟩, allowanceSkipped_wp fresh⟩
  | some (.unsigned result) =>
    refine ⟨.opening, if_pos ⟨rfl, begins⟩, ?_⟩
    exact Program.wp_bind.2 (ambiguousResult_bind fun _ => trivial)
  | some (.signed transaction) =>
    refine ⟨.opening, if_pos ⟨rfl, begins⟩, ?_⟩
    refine Program.wp_bind.2 (Program.wp_bind.2 (Program.wp_assign.2 ?_))
    refine tryTransition_after (.approving transaction) ?_ ?_ ?_
    · exact fun _ => if_pos ⟨rfl, begins⟩
    · refine Program.wp_perform_bind (fun _ => ⟨.closed none, if_pos rfl, nofun⟩) fun result => ?_
      refine ⟨.approveAnswered transaction result, if_pos rfl, ?_⟩
      exact approveReturned_wp fresh rfl rfl
    · exact fun unset => nomatch unset

theorem approveLeg_wp (begins : resumes intent = false) :
    (approveLeg env intent terms).wp (observe env intent)
      (fun result progress stage => ∀ block, result = .ok (.inr block) →
        stage = .ready ∧ progress.Undeposited) .fresh .opening := by
  refine Program.wp_tryCatch (Program.wp_mono ?_ (approveBlock_wp begins))
  intro result progress stage left
  cases result with
  | ok went =>
    cases went with
    | inl result => exact fun _ same => nomatch same
    | inr block => exact fun _ _ => left
  | error thrown =>
    cases thrown with
    | preBroadcastPersistence message => exact fun _ same => nomatch same
    | error message =>
      refine Program.wp_bind.2 (Program.wp_current.2 ?_)
      rw [Program.andThenPost_ok]
      split
      · rename_i unset
        exact failedResult_bind (left unset) fun _ _ same => nomatch same
      · exact ambiguousResult_bind fun _ _ same => nomatch same

/-! ### The deposit leg -/

def Stage.confirms : Stage → Bool
  | .depositAnswered _ _ => true
  | .depositAccepted _ _ _ => true
  | _ => false

def DepositPost : Except Thrown (Continuation DepositL1Evidence) → Progress → Stage → Prop
  | .ok (.inl _), _, _ => True
  | .ok (.inr _), _, stage => stage.confirms = true
  | .error _, progress, stage => progress.depositTxHash = none → stage.mayFail = true

theorem Stage.mayFail_of_mayDeposit (may : stage.mayDeposit intent = true) :
    stage.mayFail = true := by
  simp only [Stage.mayDeposit, Bool.or_eq_true, Bool.and_eq_true, decide_eq_true_eq] at may
  obtain rfl | ⟨rfl, _⟩ := may
  · rfl
  · rfl

theorem depositOutcome_wp (set_ : progress.depositTxHash ≠ none) (confirms : stage.confirms = true)
    (fails : result.outcome = .reverted → stage.mayFail = true) :
    (depositOutcome env intent terms result effective).wp (observe env intent) DepositPost progress
      stage := by
  unfold depositOutcome
  split
  · rename_i reverted
    exact failedResult_bind (fails reverted) fun _ => trivial
  · exact ambiguousResult_bind fun _ => trivial
  · split
    · exact ambiguousResult_bind fun _ => trivial
    · split
      · exact fun unset => absurd unset set_
      · exact confirms

theorem depositReplaced_wp (same : result.txHash = transaction.txHash)
    (replaced : result.replacement = some replacement) :
    (depositReplaced env intent terms transaction result replacement).wp (observe env intent)
      DepositPost progress (.depositAnswered transaction result) := by
  unfold depositReplaced
  split
  · exact ambiguousResult_bind fun _ => trivial
  · rename_i accepted proven
    have permitted : proves env intent .deposit transaction result accepted = true := by
      simp [proves, replaced, proven, Except.toOption]
    refine tryTransition_after (.depositAccepted transaction result accepted)
      (fun _ => if_pos permitted) ?_ ?_
    · refine Program.wp_bind.2 (Program.wp_assign.2 ?_)
      refine depositOutcome_wp (by simp) rfl fun reverted => ?_
      simp [Stage.mayFail, reverted, same]
    · exact ambiguousResult_bind fun _ => trivial

theorem depositReturned_wp (hash : progress.depositTxHash = some transaction.txHash)
    (staged : progress.depositStaged = some transaction) :
    (depositReturned env intent terms result).wp (observe env intent) DepositPost progress
      (.depositAnswered transaction result) := by
  refine Program.wp_bind.2 (Program.wp_current.2 ?_)
  have set_ : progress.depositTxHash ≠ none := by simp [hash]
  simp only [Program.andThenPost_ok, hash, staged, Option.some.injEq]
  by_cases same : transaction.txHash = result.txHash
  · rw [if_pos same]
    split
    · rename_i plain
      refine depositOutcome_wp set_ rfl fun reverted => ?_
      simp [Stage.mayFail, reverted, same, plain]
    · rename_i replacement staged' replaced equal
      obtain rfl := Option.some.inj equal
      exact depositReplaced_wp same.symm replaced
    · exact ambiguousResult_bind fun _ => trivial
  · rw [if_neg same]
    exact ambiguousResult_bind fun _ => trivial

variable {calldata : Calldata} {confirmedBlock : Option Nat}

theorem depositBlock_wp (may : stage.mayDeposit intent = true) (fresh : progress.Undeposited) :
    (depositBlock env intent terms calldata confirmedBlock).wp (observe env intent) DepositPost
      progress stage := by
  have mayFail := Stage.mayFail_of_mayDeposit may
  refine Program.wp_perform_bind (fun _ => ⟨stage, rfl, fun _ => mayFail⟩) fun _ => ?_
  refine ⟨stage, rfl, ?_⟩
  refine Program.wp_perform_bind (fun _ => ⟨stage, rfl, fun _ => mayFail⟩) fun ceiling => ?_
  refine ⟨stage, rfl, ?_⟩
  refine Program.wp_perform_bind (fun _ => ⟨stage, if_pos may, fun _ => mayFail⟩) fun start => ?_
  refine ⟨stage, if_pos may, ?_⟩
  cases start with
  | unsigned result =>
    refine Program.wp_bind.2 (Program.wp_current.2 ?_)
    simp only [Program.andThenPost_ok, fresh.1]
    exact ambiguousResult_bind fun _ => trivial
  | signed transaction =>
    refine Program.wp_bind.2 (Program.wp_bind.2 (Program.wp_assign.2 ?_))
    refine tryTransition_after (.depositing transaction) (fun _ => if_pos may) ?_ ?_
    · refine Program.wp_perform_bind ?_ fun result => ?_
      · exact fun _ => ⟨.closed (some transaction), if_pos rfl, fun unset => nomatch unset⟩
      · exact ⟨.depositAnswered transaction result, if_pos rfl, depositReturned_wp rfl rfl⟩
    · exact fun unset => nomatch unset

theorem depositLeg_wp (may : stage.mayDeposit intent = true) (fresh : progress.Undeposited) :
    (depositLeg env intent terms calldata confirmedBlock).wp (observe env intent)
      (fun result _ stage => ∀ evidence, result = .ok (.inr evidence) → stage.confirms = true)
      progress stage := by
  refine Program.wp_tryCatch (Program.wp_mono ?_ (depositBlock_wp may fresh))
  intro result progress stage left
  cases result with
  | ok went =>
    cases went with
    | inl result => exact fun _ same => nomatch same
    | inr evidence => exact fun _ _ => left
  | error thrown =>
    cases thrown with
    | preBroadcastPersistence message => exact fun _ same => nomatch same
    | error message =>
      refine Program.wp_bind.2 (Program.wp_current.2 ?_)
      rw [Program.andThenPost_ok]
      split
      · rename_i unset
        exact failedResult_bind (left unset) fun _ _ same => nomatch same
      · exact ambiguousResult_bind fun _ _ same => nomatch same

/-! ### The executor -/

theorem confirmDeposit_wp {evidence : DepositL1Evidence} (confirms : stage.confirms = true) :
    (confirmDeposit intent evidence).wp (observe env intent) (fun _ _ _ => True) progress stage := by
  refine tryTransition_bind (fun _ => .closed stage.staged) ?_ fun wrote => ?_
  · intro answer
    cases stage with
    | depositAnswered transaction result => rfl
    | depositAccepted transaction result accepted => rfl
    | _ => cases confirms
  · refine Program.wp_bind.2 (Program.wp_current.2 ?_)
    rw [Program.andThenPost_ok]
    cases wrote with
    | true => trivial
    | false =>
      exact ambiguousResult_wp fun _ => trivial

theorem fromDeposit_wp (may : stage.mayDeposit intent = true) (fresh : progress.Undeposited) :
    (fromDeposit env intent terms calldata confirmedBlock).wp (observe env intent)
      (fun _ _ _ => True) progress stage := by
  refine Program.wp_bind.2 (Program.wp_mono ?_ (depositLeg_wp may fresh))
  intro result progress stage left
  match result with
  | .error thrown => trivial
  | .ok (.inl result) => trivial
  | .ok (.inr evidence) => exact confirmDeposit_wp (left evidence rfl)

theorem executeLegs_wp :
    (executeLegs env intent terms calldata).wp (observe env intent) (fun _ _ _ => True) .fresh
      .opening := by
  unfold executeLegs
  split
  · rename_i again
    refine fromDeposit_wp ?_ ⟨rfl, rfl⟩
    simp [Stage.mayDeposit, again]
  · rename_i begins
    refine Program.wp_bind.2 (Program.wp_mono ?_ (approveLeg_wp (Bool.eq_false_iff.2 begins)))
    intro result progress stage left
    match result with
    | .error thrown => trivial
    | .ok (.inl result) => trivial
    | .ok (.inr block) =>
      obtain ⟨rfl, fresh⟩ := left block rfl
      exact fromDeposit_wp rfl fresh

theorem executeApprovedLighterDeposit_wp (env : Surroundings) (intent : Row) :
    (executeApprovedLighterDeposit env intent).wp (observe env intent) (fun _ _ _ => True) .fresh
      .opening := by
  refine Program.wp_perform_bind (fun _ => ⟨.opening, rfl, trivial⟩) fun complete => ?_
  refine ⟨.opening, rfl, ?_⟩
  split
  · trivial
  · split
    · trivial
    · split
      · trivial
      · split
        · trivial
        · exact executeLegs_wp

end Meets

end Vex.Lighter.OnboardingIntents.DepositExecution
