import Vex.Lighter.OnboardingIntents

/-!
# The row of a deposit

What every statement keeps of the row of a deposit: a leg that was staged keeps its
transaction, a deposit is staged only where the allowance leg is proven, and a final
state is left by no statement. `Shape` says which columns go with which states, and
`Effect` what a statement does to the legs and the state; everything else is read off it.
-/

namespace Vex.Lighter.OnboardingIntents

open Vex.Library

variable {lower : JsString → JsString} {row row' : Row} {op : Op}

/-! ## Which columns go with which states -/

/-- The states before an approve transaction is staged. -/
def unapprovedStates : List ExecutionState := [.approvalPending, .approved, .allowanceVerified]

/-- The states before a deposit transaction is staged. -/
def undepositedStates : List ExecutionState :=
  [.approvalPending, .approved, .allowanceVerified, .approveSubmitted, .approveConfirmed]

structure Shape (row : Row) : Prop where
  capability : row.capability = .deposit
  unapproved : row.executionState ∈ unapprovedStates → row.approve.txHash = none
  undeposited : row.executionState ∈ undepositedStates → row.deposit.txHash = none
  approveReplaced : row.approve.replacementTxHash ≠ none → row.approve.txHash ≠ none
  depositReplaced : row.deposit.replacementTxHash ≠ none → row.deposit.txHash ≠ none
  rejected : row.approvalStatus = .rejected → row.deposit.txHash = none ∧
    (row.executionState = .failed ∨ row.approve.txHash = none ∧
      row.executionState ∈ [.approvalPending, .ambiguous])

theorem shape_createDeposit (time : StatementTime) (input : CreateDepositIntentInput) :
    Shape (createDeposit time input) where
  capability := rfl
  unapproved _ := rfl
  undeposited _ := rfl
  approveReplaced none := absurd rfl none
  depositReplaced none := absurd rfl none
  rejected status := nomatch status

theorem Leg.Is.staged {leg : Leg} {txHash : JsString} (is_ : leg.Is lower txHash)
    (replaced : leg.replacementTxHash ≠ none → leg.txHash ≠ none) : leg.txHash ≠ none := by
  obtain ⟨hash, effective, _⟩ := is_
  intro unstaged
  cases replacement : leg.replacementTxHash with
  | none =>
    rw [Leg.effectiveHash, replacement, unstaged] at effective
    cases effective
  | some other => exact replaced (by simp [replacement]) unstaged

section
variable (shape : Shape row)
include shape

theorem Shape.not_rejected (states : List ExecutionState) (inside : row.executionState ∈ states)
    (outside : ∀ state ∈ [ExecutionState.failed, .approvalPending, .ambiguous], state ∉ states) :
    row.approvalStatus ≠ .rejected := by
  intro status
  obtain ⟨_, failed | ⟨_, early⟩⟩ := shape.rejected status
  · exact outside .failed (by simp) (failed ▸ inside)
  · obtain pending | ambiguous : row.executionState = .approvalPending ∨
        row.executionState = .ambiguous := by simpa using early
    · exact outside .approvalPending (by simp) (pending ▸ inside)
    · exact outside .ambiguous (by simp) (ambiguous ▸ inside)

theorem Shape.not_rejected_of_staged (open_ : row.executionState ≠ .failed)
    (staged : row.approve.txHash ≠ none ∨ row.deposit.txHash ≠ none) :
    row.approvalStatus ≠ .rejected := by
  intro status
  obtain ⟨undeposited, failed | ⟨unapproved, _⟩⟩ := shape.rejected status
  · exact open_ failed
  · exact staged.elim (· unapproved) (· undeposited)

theorem Shape.sameLegs (approve : row'.approve = row.approve) (deposit : row'.deposit = row.deposit)
    (capability : row'.capability = row.capability)
    (unapproved : row'.executionState ∈ unapprovedStates → row.approve.txHash = none)
    (undeposited : row'.executionState ∈ undepositedStates → row.deposit.txHash = none)
    (rejected : row'.approvalStatus = .rejected → row.deposit.txHash = none ∧
      (row'.executionState = .failed ∨ row.approve.txHash = none ∧
        row'.executionState ∈ [.approvalPending, .ambiguous])) : Shape row' where
  capability := capability.trans shape.capability
  unapproved inside := by rw [approve]; exact unapproved inside
  undeposited inside := by rw [deposit]; exact undeposited inside
  approveReplaced := by rw [approve]; exact shape.approveReplaced
  depositReplaced := by rw [deposit]; exact shape.depositReplaced
  rejected status := by rw [approve, deposit]; exact rejected status

theorem Shape.onward (approve : row'.approve = row.approve) (deposit : row'.deposit = row.deposit)
    (capability : row'.capability = row.capability)
    (status : row'.approvalStatus = row.approvalStatus)
    (unrejected : row.approvalStatus ≠ .rejected) (later : row'.executionState ∉ undepositedStates)
    :
    Shape row' := by
  refine shape.sameLegs approve deposit capability (fun inside => absurd ?_ later)
    (fun inside => absurd inside later) fun rejected => absurd (status ▸ rejected) unrejected
  have among : ∀ state ∈ unapprovedStates, state ∈ undepositedStates := by decide
  exact among _ inside

theorem Shape.fail (approve : row'.approve = row.approve) (deposit : row'.deposit = row.deposit)
    (capability : row'.capability = row.capability)
    (status : row'.approvalStatus = .rejected → row.deposit.txHash = none)
    (failed : row'.executionState = .failed) : Shape row' := by
  refine shape.sameLegs approve deposit capability ?_ ?_ fun rejected =>
    ⟨status rejected, .inl failed⟩
  · intro inside
    simp [failed, unapprovedStates] at inside
  · intro inside
    simp [failed, undepositedStates] at inside

theorem shape_applied (took : applied lower row op = some row') : Shape row' := by
  obtain ⟨time, intentId, workflow, transition⟩ := op
  cases transition with
  | expireStaleDepositApprovalPending scope =>
    obtain ⟨-, rfl⟩ := casRow_eq_some.1 took
    exact shape.fail rfl rfl rfl (fun status => nomatch status) rfl
  | approvalDecision decision approvalId protocolExecutionId reason =>
    obtain ⟨⟨⟨-, -, -, pending⟩, -⟩, rfl⟩ := casRow_eq_some.1 took
    have unapproved := shape.unapproved (by simp [pending, unapprovedStates])
    have undeposited := shape.undeposited (by simp [pending, undepositedStates])
    refine shape.sameLegs rfl rfl rfl (fun _ => unapproved) (fun _ => undeposited) ?_
    intro rejected
    refine ⟨undeposited, .inr ⟨unapproved, ?_⟩⟩
    cases decision with
    | rejected => simp [pending]
    | approved => cases rejected
    | expired => cases rejected
  | confirmedApprovalRecoveryDecision decision approvalId protocolExecutionId reason =>
    obtain ⟨⟨⟨-, -, -, confirmed, unstaged⟩, -⟩, rfl⟩ := casRow_eq_some.1 took
    have undeposited : row.deposit.txHash = none := unstaged.2.1
    refine shape.sameLegs rfl rfl rfl ?_ (fun _ => undeposited) fun rejected => ⟨undeposited, ?_⟩
    · intro inside
      cases decision <;> simp [confirmed, unapprovedStates] at inside
    · cases decision with
      | rejected => exact .inl rfl
      | approved => cases rejected
      | expired => cases rejected
  | supersedePristineDeposit sessionId environment walletAddress =>
    obtain ⟨⟨⟨-, -, -, -, -, -, source, unsubmitted⟩, -⟩, rfl⟩ := casRow_eq_some.1 took
    refine shape.fail rfl rfl rfl (fun _ => ?_) rfl
    rw [unsubmitted.2.1]
    rfl
  | renewPristineApprovedDeposit input | confirmedDepositL1Evidence evidence
  | reconcileConfirmedDepositL1Evidence evidence | depositRepairAttempt result =>
    obtain ⟨-, rfl⟩ := casRow_eq_some.1 took
    exact ⟨shape.1, shape.2, shape.3, shape.4, shape.5, shape.6⟩
  | renewConfirmedApprovalDeposit input =>
    obtain ⟨-, rfl⟩ := casRow_eq_some.1 took
    exact ⟨shape.1, shape.2, shape.3, shape.4, shape.5, fun status => nomatch status⟩
  | approveSubmitted transaction =>
    obtain ⟨⟨⟨-, source⟩, -⟩, rfl⟩ := casRow_eq_some.1 took
    have undeposited := shape.undeposited (by simp_all [undepositedStates])
    have unrejected := shape.not_rejected _ source (by decide)
    refine ⟨shape.capability, ?_, fun _ => undeposited, fun _ => nofun, shape.depositReplaced, ?_⟩
    · intro inside
      simp [unapprovedStates] at inside
    · exact fun rejected => absurd rejected unrejected
  | allowanceVerified =>
    obtain ⟨⟨⟨-, source⟩, -⟩, rfl⟩ := casRow_eq_some.1 took
    have unapproved := shape.unapproved (by simp_all [unapprovedStates])
    have undeposited := shape.undeposited (by simp_all [undepositedStates])
    have unrejected := shape.not_rejected _ source (by decide)
    exact shape.sameLegs rfl rfl rfl (fun _ => unapproved) (fun _ => undeposited)
      fun rejected => absurd rejected unrejected
  | depositSubmitted transaction =>
    obtain ⟨⟨⟨-, source⟩, -⟩, rfl⟩ := casRow_eq_some.1 took
    have unrejected := shape.not_rejected _ source (by decide)
    refine ⟨shape.capability, ?_, ?_, shape.approveReplaced, fun _ => nofun, ?_⟩
    · intro inside
      simp [unapprovedStates] at inside
    · intro inside
      simp [undepositedStates] at inside
    · exact fun rejected => absurd rejected unrejected
  | approveConfirmed txHash =>
    obtain ⟨⟨⟨-, submitted, -⟩, -⟩, rfl⟩ := casRow_eq_some.1 took
    have undeposited := shape.undeposited (by simp [submitted, undepositedStates])
    have unrejected := shape.not_rejected [.approveSubmitted] (by simp [submitted]) (by decide)
    refine shape.sameLegs rfl rfl rfl ?_ (fun _ => undeposited)
      fun rejected => absurd rejected unrejected
    intro inside
    simp [unapprovedStates] at inside
  | approveReplacement replacement =>
    obtain ⟨⟨⟨-, ⟨staged, -⟩, -⟩, -⟩, rfl⟩ := casRow_eq_some.1 took
    refine ⟨shape.1, shape.2, shape.3, fun _ => ?_, shape.5, shape.6⟩
    obtain ⟨hash, isStaged, -⟩ := staged
    show row.approve.txHash ≠ none
    rw [Option.mem_def.1 isStaged]
    nofun
  | depositReplacement replacement =>
    obtain ⟨⟨⟨-, ⟨staged, -⟩, -⟩, -⟩, rfl⟩ := casRow_eq_some.1 took
    refine ⟨shape.1, shape.2, shape.3, shape.4, fun _ => ?_, shape.6⟩
    obtain ⟨hash, isStaged, -⟩ := staged
    show row.deposit.txHash ≠ none
    rw [Option.mem_def.1 isStaged]
    nofun
  | depositConfirmed evidence =>
    obtain ⟨⟨⟨-, ⟨is_, -⟩, source⟩, -⟩, rfl⟩ := casRow_eq_some.1 took
    have staged := is_.staged shape.depositReplaced
    have open_ : row.executionState ≠ .failed := by
      rintro failed
      simp [failed] at source
    exact shape.onward rfl rfl rfl rfl (shape.not_rejected_of_staged open_ (.inr staged))
      (by simp [undepositedStates])
  | depositCredited evidence =>
    obtain ⟨⟨⟨-, confirmed, -⟩, -⟩, rfl⟩ := casRow_eq_some.1 took
    exact shape.onward rfl rfl rfl rfl
      (shape.not_rejected [.depositConfirmed] (by simp [confirmed]) (by decide))
      (by simp [undepositedStates])
  | ambiguous reason =>
    obtain ⟨⟨⟨-, open_⟩, -⟩, rfl⟩ := casRow_eq_some.1 took
    refine shape.sameLegs rfl rfl rfl ?_ ?_ fun rejected => ?_
    · intro inside
      simp [unapprovedStates] at inside
    · intro inside
      simp [undepositedStates] at inside
    · obtain ⟨undeposited, failed | ⟨unapproved, -⟩⟩ := shape.rejected rejected
      · simp [failed] at open_
      · exact ⟨undeposited, .inr ⟨unapproved, by simp⟩⟩
  | failed reason | reconcileDepositReverted txHash =>
    obtain ⟨-, rfl⟩ := casRow_eq_some.1 took
    exact shape.fail rfl rfl rfl (fun rejected => (shape.rejected rejected).1) rfl
  | reconcileApproveReceipt txHash outcome =>
    obtain ⟨⟨⟨-, is_, undeposited, source⟩, -⟩, rfl⟩ := casRow_eq_some.1 took
    have staged := is_.staged shape.approveReplaced
    have open_ : row.executionState ≠ .failed := by
      rintro failed
      simp [failed] at source
    have unrejected := shape.not_rejected_of_staged open_ (.inl staged)
    refine shape.sameLegs rfl rfl rfl ?_ (fun _ => undeposited)
      fun rejected => absurd rejected unrejected
    intro inside
    cases outcome <;> simp [unapprovedStates] at inside
  | keyGeneratedEncrypted input =>
    obtain ⟨⟨⟨-, registers, -⟩, -⟩, -⟩ := casRow_eq_some.1 took
    exact nomatch shape.capability.symm.trans registers
  | keyRegistrationApprovalPending | keyRegistrationApproved | renewPristineKeyRegistration
  | adoptPristineKeyRegistration | keyRegistrationTxStaged | keyRegistrationSubmitted
  | keyRegistrationAmbiguous | keyRegistrationKeyVerified | keyRegistrationNonceSynchronized
  | keyRegistrationActive =>
    obtain ⟨⟨⟨⟨-, -, registers⟩, -⟩, -⟩, -⟩ := casRow_eq_some.1 took
    exact nomatch shape.capability.symm.trans registers

end

/-! ## What names a deposit -/

structure SameDeposit (intent row : Row) : Prop where
  intentId : intent.intentId = row.intentId
  environment : intent.environment = row.environment
  capability : intent.capability = row.capability
  walletAddress : intent.walletAddress = row.walletAddress
  chainId : intent.chainId = row.chainId
  terms : intent.terms = row.terms

theorem SameDeposit.refl (row : Row) : SameDeposit row row := ⟨rfl, rfl, rfl, rfl, rfl, rfl⟩

theorem SameDeposit.trans {first second third : Row} (before : SameDeposit first second)
    (after : SameDeposit second third) : SameDeposit first third :=
  ⟨before.1.trans after.1, before.2.trans after.2, before.3.trans after.3, before.4.trans after.4,
    before.5.trans after.5, before.6.trans after.6⟩

theorem sameDeposit_applied (took : applied lower row op = some row') : SameDeposit row row' := by
  obtain ⟨time, intentId, workflow, transition⟩ := op
  cases transition <;> obtain ⟨-, rfl⟩ := casRow_eq_some.1 took <;>
    exact ⟨rfl, rfl, rfl, rfl, rfl, rfl⟩

/-! ## What a statement does -/

def finalStates : List ExecutionState := [.credited, .failed]

/-- The transition confirms an approve transaction that is observed. -/
def Transition.ConfirmsApprove (txHash : JsString) (transition : Transition) : Prop :=
  transition = .approveConfirmed txHash ∨ transition = .reconcileApproveReceipt txHash .confirmed

/-- What a statement does to the legs and the state of a deposit's row. -/
inductive Effect (lower : JsString → JsString) (row row' : Row) : Transition → Prop
  /-- Neither is touched. -/
  | quiet (transition : Transition) (approve : row'.approve = row.approve)
      (deposit : row'.deposit = row.deposit) (state : row'.executionState = row.executionState) :
      Effect lower row row' transition
  /-- The approval or its leg is decided before a deposit is staged. -/
  | decided (transition : Transition) (open_ : row.executionState ∉ finalStates)
      (undeposited : row.deposit.txHash = none) (approve : row'.approve = row.approve)
      (deposit : row'.deposit = row.deposit)
      (state : row'.executionState = .approved ∨ row'.executionState = .failed) :
      Effect lower row row' transition
  | approveSubmitted (transaction : StagedTransaction) (source : row.executionState = .approved)
      (approve : row'.approve = row.approve.stage transaction)
      (deposit : row'.deposit = row.deposit) (state : row'.executionState = .approveSubmitted) :
      Effect lower row row' (.approveSubmitted transaction)
  | allowanceVerified (source : row.executionState = .approved)
      (approve : row'.approve = row.approve) (deposit : row'.deposit = row.deposit)
      (state : row'.executionState = .allowanceVerified) : Effect lower row row' .allowanceVerified
  | approveConfirmed (transition : Transition) (txHash : JsString)
      (confirms : transition.ConfirmsApprove txHash) (is_ : row.approve.Is lower txHash)
      (open_ : row.executionState ∉ finalStates) (approve : row'.approve = row.approve)
      (deposit : row'.deposit = row.deposit) (state : row'.executionState = .approveConfirmed) :
      Effect lower row row' transition
  | depositSubmitted (transaction : StagedTransaction)
      (source : row.executionState ∈ [.approveConfirmed, .allowanceVerified])
      (approve : row'.approve = row.approve) (deposit : row'.deposit = row.deposit.stage transaction)
      (state : row'.executionState = .depositSubmitted) :
      Effect lower row row' (.depositSubmitted transaction)
  | approveReplaced (replacement : Replacement) (replaceable : row.approve.Replaceable lower replacement)
      (approve : row'.approve = row.approve.replace replacement) (deposit : row'.deposit = row.deposit)
      (state : row'.executionState = row.executionState) :
      Effect lower row row' (.approveReplacement replacement)
  | depositReplaced (replacement : Replacement) (replaceable : row.deposit.Replaceable lower replacement)
      (approve : row'.approve = row.approve) (deposit : row'.deposit = row.deposit.replace replacement)
      (state : row'.executionState = row.executionState) :
      Effect lower row row' (.depositReplacement replacement)
  | depositConfirmed (evidence : DepositL1Evidence)
      (evidences : Evidences lower row evidence.txHash evidence.walletAddress evidence.assetIndex
        evidence.routeType evidence.amountUnits)
      (open_ : row.executionState ∉ finalStates) (approve : row'.approve = row.approve)
      (deposit : row'.deposit = row.deposit) (state : row'.executionState = .depositConfirmed) :
      Effect lower row row' (.depositConfirmed evidence)
  | credited (evidence : DepositCreditEvidence)
      (evidences : Evidences lower row evidence.l1.txHash evidence.l1.walletAddress
        evidence.l1.assetIndex evidence.l1.routeType evidence.l1.amountUnits)
      (block : (∃ blockHash ∈ row.l1.blockHash, lower blockHash = lower evidence.l1.blockHash)
        ∧ row.l1.blockNumber = some evidence.l1.blockNumber)
      (account : row.l1.eventAccountIndex = some evidence.l1.accountIndex)
      (source : row.executionState = .depositConfirmed) (approve : row'.approve = row.approve)
      (deposit : row'.deposit = row.deposit) (state : row'.executionState = .credited) :
      Effect lower row row' (.depositCredited evidence)
  | ambiguous (reason : JsString) (open_ : row.executionState ∉ finalStates)
      (approve : row'.approve = row.approve) (deposit : row'.deposit = row.deposit)
      (state : row'.executionState = .ambiguous) : Effect lower row row' (.ambiguous reason)
  | failed (reason : JsString) (open_ : row.executionState ≠ .credited)
      (approve : row'.approve = row.approve) (deposit : row'.deposit = row.deposit)
      (state : row'.executionState = .failed) : Effect lower row row' (.failed reason)
  | reverted (txHash : JsString) (is_ : row.deposit.Is lower txHash)
      (open_ : row.executionState ∉ finalStates) (approve : row'.approve = row.approve)
      (deposit : row'.deposit = row.deposit) (state : row'.executionState = .failed) :
      Effect lower row row' (.reconcileDepositReverted txHash)

theorem open_of_mem {states : List ExecutionState} {state : ExecutionState} (inside : state ∈ states)
    (outside : ∀ final ∈ finalStates, final ∉ states) : state ∉ finalStates :=
  fun final => outside state final inside

theorem effect_applied (shape : Shape row) (took : applied lower row op = some row') :
    Effect lower row row' op.transition := by
  obtain ⟨time, intentId, workflow, transition⟩ := op
  cases transition with
  | expireStaleDepositApprovalPending scope =>
    obtain ⟨⟨⟨-, -, -, -, -, -, -, -, pending, -, -, -, -, -, unsubmitted⟩, -⟩, rfl⟩ :=
      casRow_eq_some.1 took
    have undeposited := shape.undeposited (by simp [pending, undepositedStates])
    exact .decided _ (by simp [pending, finalStates]) undeposited rfl rfl (.inr rfl)
  | approvalDecision decision approvalId protocolExecutionId reason =>
    obtain ⟨⟨⟨-, -, -, pending⟩, -⟩, rfl⟩ := casRow_eq_some.1 took
    have undeposited := shape.undeposited (by simp [pending, undepositedStates])
    by_cases approves : decision = .approved
    · exact .decided _ (by simp [pending, finalStates]) undeposited rfl rfl (.inl (if_pos approves))
    · exact .quiet _ rfl rfl (if_neg approves)
  | confirmedApprovalRecoveryDecision decision approvalId protocolExecutionId reason =>
    obtain ⟨⟨⟨-, -, -, confirmed, unstaged⟩, -⟩, rfl⟩ := casRow_eq_some.1 took
    by_cases approves : decision = .approved
    · exact .quiet _ rfl rfl (if_pos approves)
    · exact .decided _ (by simp [confirmed, finalStates]) unstaged.2.1 rfl rfl
        (.inr (if_neg approves))
  | supersedePristineDeposit sessionId environment walletAddress =>
    obtain ⟨⟨⟨-, -, -, -, -, -, source, unsubmitted⟩, -⟩, rfl⟩ := casRow_eq_some.1 took
    have undeposited : row.deposit.txHash = none := by rw [unsubmitted.2.1]; rfl
    refine .decided _ ?_ undeposited rfl rfl (.inr rfl)
    obtain ⟨-, pending, -⟩ | ⟨-, approved⟩ := source
    · simp [pending, finalStates]
    · simp [approved, finalStates]
  | approveSubmitted transaction =>
    obtain ⟨⟨⟨-, source⟩, -⟩, rfl⟩ := casRow_eq_some.1 took
    exact .approveSubmitted transaction (by simpa using source) rfl rfl rfl
  | allowanceVerified =>
    obtain ⟨⟨⟨-, source⟩, -⟩, rfl⟩ := casRow_eq_some.1 took
    exact .allowanceVerified (by simpa using source) rfl rfl rfl
  | depositSubmitted transaction =>
    obtain ⟨⟨⟨-, source⟩, -⟩, rfl⟩ := casRow_eq_some.1 took
    exact .depositSubmitted transaction source rfl rfl rfl
  | approveConfirmed txHash =>
    obtain ⟨⟨⟨-, submitted, is_⟩, -⟩, rfl⟩ := casRow_eq_some.1 took
    exact .approveConfirmed _ txHash (.inl rfl) is_ (by simp [submitted, finalStates]) rfl rfl rfl
  | approveReplacement replacement =>
    obtain ⟨⟨⟨-, replaceable, -⟩, -⟩, rfl⟩ := casRow_eq_some.1 took
    exact .approveReplaced replacement replaceable rfl rfl rfl
  | depositReplacement replacement =>
    obtain ⟨⟨⟨-, replaceable, -⟩, -⟩, rfl⟩ := casRow_eq_some.1 took
    exact .depositReplaced replacement replaceable rfl rfl rfl
  | depositConfirmed evidence =>
    obtain ⟨⟨⟨-, evidences, source⟩, -⟩, rfl⟩ := casRow_eq_some.1 took
    exact .depositConfirmed evidence evidences (open_of_mem source (by decide)) rfl rfl rfl
  | depositCredited evidence =>
    obtain ⟨⟨⟨-, confirmed, evidences, hash, number, account⟩, -⟩, rfl⟩ := casRow_eq_some.1 took
    exact .credited evidence evidences ⟨hash, number⟩ account confirmed rfl rfl rfl
  | ambiguous reason =>
    obtain ⟨⟨⟨-, open_⟩, -⟩, rfl⟩ := casRow_eq_some.1 took
    exact .ambiguous reason open_ rfl rfl rfl
  | failed reason =>
    obtain ⟨⟨⟨-, open_⟩, -⟩, rfl⟩ := casRow_eq_some.1 took
    exact .failed reason open_ rfl rfl rfl
  | reconcileApproveReceipt txHash outcome =>
    obtain ⟨⟨⟨-, is_, undeposited, source⟩, -⟩, rfl⟩ := casRow_eq_some.1 took
    have open_ := open_of_mem source (by decide)
    cases outcome with
    | confirmed => exact .approveConfirmed _ txHash (.inr rfl) is_ open_ rfl rfl rfl
    | reverted => exact .decided _ open_ undeposited rfl rfl (.inr rfl)
  | reconcileDepositReverted txHash =>
    obtain ⟨⟨⟨-, is_, source⟩, -⟩, rfl⟩ := casRow_eq_some.1 took
    exact .reverted txHash is_ (open_of_mem source (by decide)) rfl rfl rfl
  | renewPristineApprovedDeposit | renewConfirmedApprovalDeposit | confirmedDepositL1Evidence
  | reconcileConfirmedDepositL1Evidence | depositRepairAttempt =>
    obtain ⟨-, rfl⟩ := casRow_eq_some.1 took
    exact .quiet _ rfl rfl rfl
  | keyGeneratedEncrypted input =>
    obtain ⟨⟨⟨-, registers, -⟩, -⟩, -⟩ := casRow_eq_some.1 took
    exact nomatch shape.capability.symm.trans registers
  | keyRegistrationApprovalPending | keyRegistrationApproved | renewPristineKeyRegistration
  | adoptPristineKeyRegistration | keyRegistrationTxStaged | keyRegistrationSubmitted
  | keyRegistrationAmbiguous | keyRegistrationKeyVerified | keyRegistrationNonceSynchronized
  | keyRegistrationActive =>
    obtain ⟨⟨⟨⟨-, -, registers⟩, -⟩, -⟩, -⟩ := casRow_eq_some.1 took
    exact nomatch shape.capability.symm.trans registers

/-! ## What follows of one statement -/

section Consequences

variable {transition : Transition}

structure Leg.SameTransaction (leg leg' : Leg) : Prop where
  txHash : leg'.txHash = leg.txHash
  txFrom : leg'.txFrom = leg.txFrom
  txNonce : leg'.txNonce = leg.txNonce

variable {leg : Leg}

theorem Leg.SameTransaction.of_eq {leg' : Leg} (same : leg' = leg) : leg.SameTransaction leg' := by
  subst same
  exact ⟨rfl, rfl, rfl⟩

theorem Leg.SameTransaction.trans {first second third : Leg} (before : first.SameTransaction second)
    (after : second.SameTransaction third) : first.SameTransaction third :=
  ⟨after.1.trans before.1, after.2.trans before.2, after.3.trans before.3⟩

structure Leg.Holds (leg : Leg) (transaction : StagedTransaction) : Prop where
  txHash : leg.txHash = some transaction.txHash
  txFrom : leg.txFrom = some transaction.fromAddress
  txNonce : leg.txNonce = some transaction.nonce

variable {transaction : StagedTransaction}

theorem Leg.Holds.kept {leg' : Leg} (holds : leg.Holds transaction)
    (same : leg.SameTransaction leg') : leg'.Holds transaction :=
  ⟨same.1.trans holds.1, same.2.trans holds.2, same.3.trans holds.3⟩

theorem Leg.Holds.staged (holds : leg.Holds transaction) : leg.txHash ≠ none := by
  rw [holds.txHash]
  exact Option.some_ne_none _

/-- A replacement of the leg with the hash is recorded, up to case. -/
def Leg.Replaced (lower : JsString → JsString) (leg : Leg) (txHash : JsString) : Prop :=
  ∃ recorded ∈ leg.replacementTxHash, lower recorded = lower txHash

section
variable (effect : Effect lower row row' transition)
include effect

theorem Effect.approve_kept (shape : Shape row) (staged : row.approve.txHash ≠ none) :
    row.approve.SameTransaction row'.approve := by
  cases effect with
  | approveSubmitted transaction source approve deposit state =>
    exact absurd (shape.unapproved (by simp [source, unapprovedStates])) staged
  | approveReplaced replacement replaceable approve deposit state =>
    rw [approve]
    exact ⟨rfl, rfl, rfl⟩
  | quiet _ approve | decided _ _ _ approve | allowanceVerified _ approve
  | approveConfirmed _ _ _ _ _ approve | depositSubmitted _ _ approve
  | depositReplaced _ _ approve | depositConfirmed _ _ _ approve | credited _ _ _ _ _ approve
  | ambiguous _ _ approve | failed _ _ approve | reverted _ _ _ approve => exact .of_eq approve

theorem Effect.deposit_kept (shape : Shape row) (staged : row.deposit.txHash ≠ none) :
    row.deposit.SameTransaction row'.deposit := by
  cases effect with
  | depositSubmitted transaction source approve deposit state =>
    refine absurd (shape.undeposited ?_) staged
    exact (by decide : [ExecutionState.approveConfirmed, .allowanceVerified] ⊆ undepositedStates)
      source
  | depositReplaced replacement replaceable approve deposit state =>
    rw [deposit]
    exact ⟨rfl, rfl, rfl⟩
  | quiet _ _ deposit | decided _ _ _ _ deposit | approveSubmitted _ _ _ deposit
  | allowanceVerified _ _ deposit | approveConfirmed _ _ _ _ _ _ deposit
  | approveReplaced _ _ _ deposit | depositConfirmed _ _ _ _ deposit
  | credited _ _ _ _ _ _ deposit | ambiguous _ _ _ deposit | failed _ _ _ deposit
  | reverted _ _ _ _ deposit => exact .of_eq deposit

theorem Effect.replaced_kept {txHash : JsString} (replaced : row.deposit.Replaced lower txHash) :
    row'.deposit.Replaced lower txHash := by
  cases effect with
  | depositSubmitted transaction source approve deposit state | quiet _ _ deposit
  | decided _ _ _ _ deposit | approveSubmitted _ _ _ deposit | allowanceVerified _ _ deposit
  | approveConfirmed _ _ _ _ _ _ deposit | approveReplaced _ _ _ deposit
  | depositConfirmed _ _ _ _ deposit | credited _ _ _ _ _ _ deposit | ambiguous _ _ _ deposit
  | failed _ _ _ deposit | reverted _ _ _ _ deposit =>
    rw [deposit]
    exact replaced
  | depositReplaced replacement replaceable approve deposit state =>
    obtain ⟨recorded, inEffect, same⟩ := replaced
    rw [deposit]
    exact ⟨_, rfl, (replaceable.2.2.2 recorded inEffect).symm.trans same⟩

theorem Effect.staged_by (unstaged : row.deposit.txHash = none)
    (staged : row'.deposit.txHash ≠ none) :
    ∃ transaction, transition = .depositSubmitted transaction ∧
      row.executionState ∈ [.approveConfirmed, .allowanceVerified] ∧
      row'.deposit = row.deposit.stage transaction := by
  cases effect with
  | depositSubmitted transaction source approve deposit state =>
    exact ⟨transaction, rfl, source, deposit⟩
  | depositReplaced replacement replaceable approve deposit state | quiet _ _ deposit
  | decided _ _ _ _ deposit | approveSubmitted _ _ _ deposit | allowanceVerified _ _ deposit
  | approveConfirmed _ _ _ _ _ _ deposit | approveReplaced _ _ _ deposit
  | depositConfirmed _ _ _ _ deposit | credited _ _ _ _ _ _ deposit | ambiguous _ _ _ deposit
  | failed _ _ _ deposit | reverted _ _ _ _ deposit =>
    rw [deposit] at staged
    exact absurd unstaged staged

theorem Effect.replaced_by
    (changed : row'.deposit.replacementTxHash ≠ row.deposit.replacementTxHash) :
    ∃ replacement, transition = .depositReplacement replacement ∧
      row.deposit.Replaceable lower replacement ∧
      row'.deposit.replacementTxHash = some replacement.replacementTxHash := by
  cases effect with
  | depositReplaced replacement replaceable approve deposit state =>
    exact ⟨replacement, rfl, replaceable, congrArg Leg.replacementTxHash deposit⟩
  | depositSubmitted transaction source approve deposit state =>
    exact absurd (congrArg Leg.replacementTxHash deposit) changed
  | quiet _ _ deposit | decided _ _ _ _ deposit | approveSubmitted _ _ _ deposit
  | allowanceVerified _ _ deposit | approveConfirmed _ _ _ _ _ _ deposit
  | approveReplaced _ _ _ deposit | depositConfirmed _ _ _ _ deposit
  | credited _ _ _ _ _ _ deposit | ambiguous _ _ _ deposit | failed _ _ _ deposit
  | reverted _ _ _ _ deposit => exact absurd (congrArg Leg.replacementTxHash deposit) changed

/-! ### How a state is entered -/

theorem Effect.credited_kept (credited : row.executionState = .credited) :
    row'.executionState = .credited := by
  cases effect with
  | quiet _ _ _ state | approveReplaced _ _ _ _ state | depositReplaced _ _ _ _ state =>
    exact state.trans credited
  | decided _ open_ | approveConfirmed _ _ _ _ open_ | depositConfirmed _ _ open_
  | ambiguous _ open_ | reverted _ _ open_ => exact absurd (by simp [credited, finalStates]) open_
  | approveSubmitted _ source | allowanceVerified source | credited _ _ _ _ source =>
    exact nomatch credited.symm.trans source
  | depositSubmitted _ source => simp [credited] at source
  | failed _ open_ => exact absurd credited open_

theorem Effect.failed_kept (failed : row.executionState = .failed) :
    row'.executionState = .failed := by
  cases effect with
  | quiet _ _ _ state | approveReplaced _ _ _ _ state | depositReplaced _ _ _ _ state =>
    exact state.trans failed
  | decided _ open_ | approveConfirmed _ _ _ _ open_ | depositConfirmed _ _ open_
  | ambiguous _ open_ | reverted _ _ open_ => exact absurd (by simp [failed, finalStates]) open_
  | approveSubmitted _ source | allowanceVerified source | credited _ _ _ _ source =>
    exact nomatch failed.symm.trans source
  | depositSubmitted _ source => simp [failed] at source
  | failed _ _ _ _ state => exact state

theorem Effect.proven_by (entered : row'.executionState ≠ row.executionState) :
    (row'.executionState = .allowanceVerified → transition = .allowanceVerified) ∧
      (row'.executionState = .approveConfirmed → ∃ txHash,
        transition.ConfirmsApprove txHash ∧ row.approve.Is lower txHash) := by
  cases effect with
  | allowanceVerified _ _ _ state => exact ⟨fun _ => rfl, fun other => nomatch state.symm.trans other⟩
  | approveConfirmed _ txHash confirms is_ _ _ _ state =>
    exact ⟨fun other => (nomatch state.symm.trans other), fun _ => ⟨txHash, confirms, is_⟩⟩
  | quiet _ _ _ state | approveReplaced _ _ _ _ state | depositReplaced _ _ _ _ state =>
    exact absurd state entered
  | decided _ _ _ _ _ state =>
    obtain approved | failed := state
    · exact ⟨fun other => (nomatch approved.symm.trans other),
        fun other => nomatch approved.symm.trans other⟩
    · exact ⟨fun other => (nomatch failed.symm.trans other),
        fun other => nomatch failed.symm.trans other⟩
  | approveSubmitted _ _ _ _ state | depositSubmitted _ _ _ _ state
  | depositConfirmed _ _ _ _ _ state | credited _ _ _ _ _ _ _ state | ambiguous _ _ _ _ state
  | failed _ _ _ _ state | reverted _ _ _ _ _ state =>
    exact ⟨fun other => (nomatch state.symm.trans other),
      fun other => nomatch state.symm.trans other⟩

theorem Effect.confirmed_by (before : row.executionState ≠ .depositConfirmed)
    (confirmed : row'.executionState = .depositConfirmed) : ∃ evidence : DepositL1Evidence,
      transition = .depositConfirmed evidence ∧ Evidences lower row evidence.txHash
        evidence.walletAddress evidence.assetIndex evidence.routeType evidence.amountUnits := by
  cases effect with
  | depositConfirmed evidence evidences => exact ⟨evidence, rfl, evidences⟩
  | quiet _ _ _ state | approveReplaced _ _ _ _ state | depositReplaced _ _ _ _ state =>
    exact absurd (state.symm.trans confirmed) before
  | decided _ _ _ _ _ state =>
    obtain approved | failed := state
    · exact nomatch approved.symm.trans confirmed
    · exact nomatch failed.symm.trans confirmed
  | approveSubmitted _ _ _ _ state | allowanceVerified _ _ _ state
  | approveConfirmed _ _ _ _ _ _ _ state | depositSubmitted _ _ _ _ state
  | credited _ _ _ _ _ _ _ state | ambiguous _ _ _ _ state | failed _ _ _ _ state
  | reverted _ _ _ _ _ state => exact nomatch state.symm.trans confirmed

theorem Effect.credited_by (before : row.executionState ≠ .credited)
    (credited : row'.executionState = .credited) :
    ∃ evidence : DepositCreditEvidence, transition = .depositCredited evidence ∧
      Evidences lower row evidence.l1.txHash evidence.l1.walletAddress evidence.l1.assetIndex
        evidence.l1.routeType evidence.l1.amountUnits ∧
      (∃ blockHash ∈ row.l1.blockHash, lower blockHash = lower evidence.l1.blockHash) ∧
      row.l1.blockNumber = some evidence.l1.blockNumber ∧
      row.l1.eventAccountIndex = some evidence.l1.accountIndex := by
  cases effect with
  | credited evidence evidences block account =>
    exact ⟨evidence, rfl, evidences, block.1, block.2, account⟩
  | quiet _ _ _ state | approveReplaced _ _ _ _ state | depositReplaced _ _ _ _ state =>
    exact absurd (state.symm.trans credited) before
  | decided _ _ _ _ _ state =>
    obtain approved | failed := state
    · exact nomatch approved.symm.trans credited
    · exact nomatch failed.symm.trans credited
  | approveSubmitted _ _ _ _ state | allowanceVerified _ _ _ state
  | approveConfirmed _ _ _ _ _ _ _ state | depositSubmitted _ _ _ _ state
  | depositConfirmed _ _ _ _ _ state | ambiguous _ _ _ _ state | failed _ _ _ _ state
  | reverted _ _ _ _ _ state => exact nomatch state.symm.trans credited

theorem Effect.failed_by (before : row.executionState ≠ .failed)
    (failed : row'.executionState = .failed) (staged : row.deposit.txHash ≠ none) :
    (∃ reason, transition = .failed reason) ∨
      ∃ txHash, transition = .reconcileDepositReverted txHash ∧ row.deposit.Is lower txHash := by
  cases effect with
  | failed reason => exact .inl ⟨reason, rfl⟩
  | reverted txHash is_ => exact .inr ⟨txHash, rfl, is_⟩
  | decided _ _ undeposited => exact absurd undeposited staged
  | quiet _ _ _ state | approveReplaced _ _ _ _ state | depositReplaced _ _ _ _ state =>
    exact absurd (state.symm.trans failed) before
  | approveSubmitted _ _ _ _ state | allowanceVerified _ _ _ state
  | approveConfirmed _ _ _ _ _ _ _ state | depositSubmitted _ _ _ _ state
  | depositConfirmed _ _ _ _ _ state | credited _ _ _ _ _ _ _ state | ambiguous _ _ _ _ state =>
    exact nomatch state.symm.trans failed

end

end Consequences

end Vex.Lighter.OnboardingIntents
