import Vex.Library.Population
import Vex.Lighter.Basic

/-!
# Onboarding intents

The rows of `lighter_onboarding_intents` and the guarded updates that move them.
The table holds two kinds of intents: deposits, with an approve and a deposit leg
on the chain, and registrations of an API key, which share the approval columns
and the column of the execution state.

Most statements also move the wallet's workflow row in the same transaction,
which throws where that row rejects the transition: then nothing is written, and
whether it takes the transition is given with the call. Statements are given
parameters that passed their checks; a preflight snapshot is one text, and
`LOWER` is a parameter.
-/

namespace Vex.Lighter.OnboardingIntents

open Vex.Library

/-- `LighterOnboardingExecutionState`, and the states of a key registration. -/
inductive ExecutionState where
  | prepared
  | slotReserved
  | keyGeneratedEncrypted
  | approvalPending
  | approved
  | allowanceVerified
  | approveSubmitted
  | approveConfirmed
  | depositSubmitted
  | depositConfirmed
  | credited
  | keyRegistrationTxStaged
  | changePubKeySubmitted
  | keyVerified
  | nonceSynchronized
  | active
  | ambiguous
  | failed
  deriving DecidableEq

inductive Capability where
  | deposit
  | keyRegistration
  deriving DecidableEq

structure Leg where
  txHash : Option JsString
  txFrom : Option JsString
  txNonce : Option Nat
  replacementTxHash : Option JsString
  replacementReason : Option JsString
  replacementObservedAt : Option Instant
  deriving DecidableEq

def Leg.empty : Leg := ⟨none, none, none, none, none, none⟩

/-- `COALESCE(replacement_tx_hash, tx_hash)`. -/
def Leg.effectiveHash (leg : Leg) : Option JsString := leg.replacementTxHash <|> leg.txHash

structure L1Evidence where
  blockHash : Option JsString
  blockNumber : Option Nat
  eventAccountIndex : Option Nat
  deriving DecidableEq

structure CreditEvidence where
  lighterTxHash : Option JsString
  lighterTxStatus : Option Nat
  lighterBlockHeight : Option Nat
  lighterExecutedAt : Option Instant
  evidenceObservedAt : Option Instant

structure Registration where
  apiKeyIndex : Option Nat
  vaultCredentialId : Option JsString
  publicKey : Option JsString
  publicKeyFingerprint : Option JsString
  keyGeneratedAt : Option Instant
  registrationNonce : Option Nat
  nonceObservedAt : Option Instant
  txType : Option Nat
  txHash : Option JsString
  txExpiredAt : Option Int
  txStagedAt : Option Instant
  submittedTxHash : Option JsString
  submitCode : Option Nat
  predictedExecutionTimeMs : Option Nat
  submitAcceptedAt : Option Instant
  ambiguityReason : Option JsString
  keyVerifiedAt : Option Instant
  clientCheckedAt : Option Instant
  postRegistrationNonce : Option Nat
  nonceSynchronizedAt : Option Instant
  activatedAt : Option Instant

def Registration.Pristine (registration : Registration) : Prop :=
  registration.txType = none ∧ registration.txHash = none ∧ registration.txExpiredAt = none
    ∧ registration.txStagedAt = none ∧ registration.submittedTxHash = none
    ∧ registration.submitCode = none ∧ registration.predictedExecutionTimeMs = none
    ∧ registration.submitAcceptedAt = none ∧ registration.ambiguityReason = none
    ∧ registration.keyVerifiedAt = none ∧ registration.clientCheckedAt = none
    ∧ registration.postRegistrationNonce = none ∧ registration.nonceSynchronizedAt = none
    ∧ registration.activatedAt = none

instance (registration : Registration) : Decidable registration.Pristine := by
  unfold Registration.Pristine
  infer_instance

structure DepositTerms where
  depositContract : JsString
  depositTo : JsString
  assetIndex : Nat
  routeType : Nat
  amountUnits : Nat

/-- `LighterOnboardingIntentRow`. -/
structure Row where
  intentId : JsString
  sessionId : JsString
  environment : Environment
  capability : Capability
  walletAddress : JsString
  chainId : Nat
  terms : Option DepositTerms
  protocolExecutionId : Option Nat
  approvalId : Option JsString
  approvalStatus : ApprovalStatus
  executionState : ExecutionState
  decisionReason : Option JsString
  decidedAt : Option Instant
  failureReason : Option JsString
  preflight : Option JsString
  approve : Leg
  deposit : Leg
  l1 : L1Evidence
  credit : CreditEvidence
  resolvedAccountIndex : Option Nat
  registration : Registration
  repairAttemptedAt : Option Instant
  repairAttemptResult : Option JsString
  updatedAt : Instant
  expiresAt : Instant

structure CreateDepositIntentInput where
  intentId : JsString
  sessionId : JsString
  environment : Environment
  walletAddress : JsString
  chainId : Nat
  terms : DepositTerms
  preflight : JsString
  expiresAt : Instant

/-- The columns of a registration before its slot is reserved. -/
def Registration.empty : Registration where
  apiKeyIndex := none
  vaultCredentialId := none
  publicKey := none
  publicKeyFingerprint := none
  keyGeneratedAt := none
  registrationNonce := none
  nonceObservedAt := none
  txType := none
  txHash := none
  txExpiredAt := none
  txStagedAt := none
  submittedTxHash := none
  submitCode := none
  predictedExecutionTimeMs := none
  submitAcceptedAt := none
  ambiguityReason := none
  keyVerifiedAt := none
  clientCheckedAt := none
  postRegistrationNonce := none
  nonceSynchronizedAt := none
  activatedAt := none

/-- The row `createOrFindLiveDepositApprovalPendingWith` inserts. -/
def createDeposit (time : StatementTime) (input : CreateDepositIntentInput) : Row where
  intentId := input.intentId
  sessionId := input.sessionId
  environment := input.environment
  capability := .deposit
  walletAddress := input.walletAddress
  chainId := input.chainId
  terms := some input.terms
  protocolExecutionId := none
  approvalId := none
  approvalStatus := .approvalPending
  executionState := .approvalPending
  decisionReason := none
  decidedAt := none
  failureReason := none
  preflight := some input.preflight
  approve := .empty
  deposit := .empty
  l1 := ⟨none, none, none⟩
  credit := ⟨none, none, none, none, none⟩
  resolvedAccountIndex := none
  registration := .empty
  repairAttemptedAt := none
  repairAttemptResult := none
  updatedAt := time.now
  expiresAt := input.expiresAt

/-- What the reservation of an API key's slot is given. -/
structure ReserveSlotInput where
  intentId : JsString
  sessionId : JsString
  environment : Environment
  walletAddress : JsString
  chainId : Nat
  accountIndex : Nat
  apiKeyIndex : Nat
  expiresAt : Instant

def reserveSlot (time : StatementTime) (input : ReserveSlotInput) : Row where
  intentId := input.intentId
  sessionId := input.sessionId
  environment := input.environment
  capability := .keyRegistration
  walletAddress := input.walletAddress
  chainId := input.chainId
  terms := none
  protocolExecutionId := none
  approvalId := none
  approvalStatus := .approvalPending
  executionState := .slotReserved
  decisionReason := none
  decidedAt := none
  failureReason := none
  preflight := none
  approve := .empty
  deposit := .empty
  l1 := ⟨none, none, none⟩
  credit := ⟨none, none, none, none, none⟩
  resolvedAccountIndex := some input.accountIndex
  registration := { Registration.empty with apiKeyIndex := some input.apiKeyIndex }
  repairAttemptedAt := none
  repairAttemptResult := none
  updatedAt := time.now
  expiresAt := input.expiresAt

/-- What a guarded update gives: the row it wrote, none where it missed or was rolled back. -/
abbrev Cas := Option Row

/-- One `UPDATE … WHERE … RETURNING`, and the transition of the workflow's row after it. -/
def casRow (guard : Prop) [Decidable guard] (workflow : Bool) (written : Row) : Cas :=
  if guard ∧ workflow = true then some written else none

theorem casRow_eq_some {guard : Prop} [Decidable guard] {workflow : Bool} {written row : Row} :
    casRow guard workflow written = some row ↔ (guard ∧ workflow = true) ∧ written = row := by
  unfold casRow
  split_ifs with matched
  · simp [matched]
  · simp [matched]

/-- Nothing of the deposit was signed, staged, submitted or observed. -/
def Row.Unsubmitted (row : Row) : Prop :=
  row.approve = .empty ∧ row.deposit = .empty ∧ row.l1.blockHash = none
    ∧ row.l1.blockNumber = none ∧ row.l1.eventAccountIndex = none
    ∧ row.credit.lighterTxHash = none ∧ row.credit.lighterTxStatus = none
    ∧ row.credit.lighterBlockHeight = none ∧ row.credit.lighterExecutedAt = none
    ∧ row.credit.evidenceObservedAt = none ∧ row.resolvedAccountIndex = none

def Leg.Staged (leg : Leg) : Prop := leg.txHash ≠ none ∧ leg.txFrom ≠ none ∧ leg.txNonce ≠ none

/-- Only the approve leg was ever staged. -/
def Row.DepositUnstaged (row : Row) : Prop :=
  row.approve.Staged ∧ row.deposit.txHash = none ∧ row.deposit.txFrom = none
    ∧ row.deposit.txNonce = none ∧ row.deposit.replacementTxHash = none
    ∧ row.l1.blockHash = none ∧ row.credit.lighterTxHash = none

instance (row : Row) : Decidable row.Unsubmitted := by
  unfold Row.Unsubmitted
  infer_instance

instance (leg : Leg) : Decidable leg.Staged := by
  unfold Leg.Staged
  infer_instance

instance (row : Row) : Decidable row.DepositUnstaged := by
  unfold Row.DepositUnstaged
  infer_instance

section Statements

variable (lower : JsString → JsString) (time : StatementTime) (intentId : JsString) (workflow : Bool)
variable (row : Row)

/-! ## The approval of a deposit -/

structure DepositScope where
  sessionId : JsString
  environment : Environment
  walletAddress : JsString
  chainId : Nat
  terms : DepositTerms

/-- The deposit is of the terms, up to the case of the addresses. -/
def MatchesTerms (terms : DepositTerms) : Prop :=
  ∃ own ∈ row.terms, lower own.depositContract = lower terms.depositContract
    ∧ lower own.depositTo = lower terms.depositTo ∧ own.assetIndex = terms.assetIndex
    ∧ own.routeType = terms.routeType ∧ own.amountUnits = terms.amountUnits

instance (terms : DepositTerms) : Decidable (MatchesTerms lower row terms) := by
  unfold MatchesTerms
  infer_instance

/-- The reason of `expireStaleDepositApprovalPendingWith`. -/
def expiredBeforeDispatch : JsString :=
  JsString.ofString ("Prepared Lighter deposit expired before an approval was dispatched; no " ++
    "transaction was signed or submitted.")

def expireStaleDepositApprovalPendingWith (scope : DepositScope) : Cas :=
  casRow (row.intentId = intentId ∧ row.sessionId = scope.sessionId
      ∧ row.environment = scope.environment ∧ lower row.walletAddress = lower scope.walletAddress
      ∧ row.chainId = scope.chainId ∧ MatchesTerms lower row scope.terms
      ∧ row.capability = .deposit ∧ row.approvalStatus = .approvalPending
      ∧ row.executionState = .approvalPending ∧ row.expiresAt ≤ time.now ∧ row.approvalId = none
      ∧ row.protocolExecutionId = none ∧ row.decisionReason = none ∧ row.failureReason = none
      ∧ row.Unsubmitted) workflow
    { row with
      approvalStatus := .expired
      executionState := .failed
      decisionReason := some expiredBeforeDispatch
      decidedAt := some time.now
      failureReason := some expiredBeforeDispatch
      updatedAt := time.now }

/-- `markApprovalDecisionWith`; only a decision that does not approve moves the workflow. -/
def markApprovalDecisionWith (decision : Decision) (approvalId : Option JsString)
    (protocolExecutionId : Option Nat) (reason : Option JsString) : Cas :=
  casRow (row.intentId = intentId ∧ row.capability = .deposit
      ∧ row.approvalStatus = .approvalPending ∧ row.executionState = .approvalPending)
    (decision = .approved || workflow)
    { row with
      approvalStatus := decision.status
      executionState := if decision = .approved then .approved else row.executionState
      approvalId := approvalId <|> row.approvalId
      protocolExecutionId := protocolExecutionId <|> row.protocolExecutionId
      decisionReason := reason
      decidedAt := some time.now
      updatedAt := time.now }

def markConfirmedApprovalRecoveryDecisionWith (decision : Decision) (approvalId : Option JsString)
    (protocolExecutionId : Option Nat) (reason : Option JsString) : Cas :=
  casRow (row.intentId = intentId ∧ row.capability = .deposit
      ∧ row.approvalStatus = .approvalPending ∧ row.executionState = .approveConfirmed
      ∧ row.DepositUnstaged)
    (decision = .approved || workflow)
    { row with
      approvalStatus := decision.status
      executionState := if decision = .approved then row.executionState else .failed
      approvalId := approvalId
      protocolExecutionId := protocolExecutionId
      decisionReason := reason
      decidedAt := some time.now
      failureReason := if decision = .approved then none else reason
      updatedAt := time.now }

/-- The reason of `supersedePristineDepositIntentWith`. -/
def supersededPristine : JsString :=
  JsString.ofString ("Superseded by a fresh Lighter onboarding session before any transaction was " ++
    "signed or submitted.")

def supersedePristineDepositIntentWith (sessionId : JsString) (environment : Environment)
    (walletAddress : JsString) : Cas :=
  casRow (row.intentId = intentId ∧ row.sessionId = sessionId ∧ row.environment = environment
      ∧ lower row.walletAddress = lower walletAddress ∧ row.capability = .deposit
      ∧ row.failureReason = none
      ∧ ((row.approvalStatus = .approvalPending ∧ row.executionState = .approvalPending
          ∧ row.approvalId = none ∧ row.protocolExecutionId = none ∧ row.decisionReason = none)
        ∨ (row.approvalStatus = .approved ∧ row.executionState = .approved))
      ∧ row.Unsubmitted) workflow
    { row with
      approvalStatus := if row.approvalStatus = .approvalPending then .expired else row.approvalStatus
      executionState := .failed
      decisionReason :=
        if row.approvalStatus = .approvalPending then some supersededPristine
        else row.decisionReason
      decidedAt :=
        if row.approvalStatus = .approvalPending then some time.now else row.decidedAt
      failureReason := some supersededPristine
      updatedAt := time.now }

/-- What a renewal is given: the fresh snapshot and what it was taken of. -/
structure RenewInput where
  sessionId : JsString
  walletAddress : JsString
  chainId : Nat
  gatewayAddress : JsString
  assetIndex : Nat
  routeType : Nat
  amountUnits : Nat
  approvalRequired : Bool
  snapshot : JsString
  expiresAt : Instant

/-- The guard both renewals share. -/
def Renewable (input : RenewInput) : Prop :=
  row.intentId = intentId ∧ row.sessionId = input.sessionId ∧ row.capability = .deposit
    ∧ row.approvalStatus = .approved ∧ lower row.walletAddress = lower input.walletAddress
    ∧ row.chainId = input.chainId
    ∧ MatchesTerms lower row ⟨input.gatewayAddress, input.walletAddress, input.assetIndex,
      input.routeType, input.amountUnits⟩
    ∧ row.failureReason = none

instance (input : RenewInput) : Decidable (Renewable lower intentId row input) := by
  unfold Renewable
  infer_instance

/-- `renewPristineApprovedDepositIntentWith`, given an expiry that is in the future. -/
def renewPristineApprovedDepositIntentWith (input : RenewInput) : Cas :=
  casRow (Renewable lower intentId row input ∧ row.executionState = .approved ∧ row.Unsubmitted)
    true
    { row with
      preflight := some input.snapshot
      expiresAt := input.expiresAt
      updatedAt := time.now }

/-- Nothing of the deposit leg was staged or observed. -/
def Row.DepositUnobserved (row : Row) : Prop :=
  row.approve.Staged ∧ row.deposit = .empty ∧ row.l1.blockHash = none ∧ row.l1.blockNumber = none
    ∧ row.l1.eventAccountIndex = none ∧ row.credit.lighterTxHash = none
    ∧ row.credit.lighterTxStatus = none ∧ row.credit.lighterBlockHeight = none
    ∧ row.credit.lighterExecutedAt = none ∧ row.credit.evidenceObservedAt = none
    ∧ row.resolvedAccountIndex = none

instance (row : Row) : Decidable row.DepositUnobserved := by
  unfold Row.DepositUnobserved
  infer_instance

/-- `renewConfirmedApprovalDepositIntentWith`, given an expiry that is in the future: the approval
is asked for again. -/
def renewConfirmedApprovalDepositIntentWith (input : RenewInput) : Cas :=
  casRow (input.approvalRequired = false ∧ Renewable lower intentId row input
      ∧ row.executionState = .approveConfirmed ∧ row.DepositUnobserved) true
    { row with
      approvalStatus := .approvalPending
      approvalId := none
      protocolExecutionId := none
      decisionReason := none
      decidedAt := none
      preflight := some input.snapshot
      expiresAt := input.expiresAt
      updatedAt := time.now }

/-! ## The legs of a deposit -/

/-- `LighterStagedEvmTransaction`. -/
structure StagedTransaction where
  txHash : JsString
  fromAddress : JsString
  nonce : Nat
  deriving DecidableEq

def Leg.stage (leg : Leg) (transaction : StagedTransaction) : Leg :=
  { leg with
    txHash := some transaction.txHash
    txFrom := some transaction.fromAddress
    txNonce := some transaction.nonce }

/-- `advanceDepositWith`: it reads the execution state alone. -/
def advanceDepositWith (next : ExecutionState) (sources : List ExecutionState) (written : Row) :
    Cas :=
  casRow (row.intentId = intentId ∧ row.executionState ∈ sources) workflow
    { written with executionState := next, updatedAt := time.now }

def markApproveSubmittedWith (transaction : StagedTransaction) : Cas :=
  advanceDepositWith time intentId workflow row .approveSubmitted [.approved]
    { row with approve := row.approve.stage transaction }

def markAllowanceVerifiedWith : Cas :=
  advanceDepositWith time intentId workflow row .allowanceVerified [.approved] row

def markDepositSubmittedWith (transaction : StagedTransaction) : Cas :=
  advanceDepositWith time intentId workflow row .depositSubmitted
    [.approveConfirmed, .allowanceVerified] { row with deposit := row.deposit.stage transaction }

/-- The hash of a leg is the one observed, up to case. -/
def Leg.Is (leg : Leg) (txHash : JsString) : Prop :=
  ∃ hash ∈ leg.effectiveHash, lower hash = lower txHash

instance (leg : Leg) (txHash : JsString) : Decidable (leg.Is lower txHash) := by
  unfold Leg.Is
  infer_instance

def markApproveConfirmedWith (txHash : JsString) : Cas :=
  casRow (row.intentId = intentId ∧ row.executionState = .approveSubmitted
      ∧ row.approve.Is lower txHash) workflow
    { row with executionState := .approveConfirmed, updatedAt := time.now }

/-- `LighterReplacementTransaction`. -/
structure Replacement where
  originalTxHash : JsString
  replacementTxHash : JsString
  reason : JsString
  observedAt : Instant
  deriving DecidableEq

def Leg.Replaceable (leg : Leg) (replacement : Replacement) : Prop :=
  (∃ hash ∈ leg.txHash, lower hash = lower replacement.originalTxHash)
    ∧ leg.txFrom ≠ none ∧ leg.txNonce ≠ none
    ∧ ∀ recorded ∈ leg.replacementTxHash, lower recorded = lower replacement.replacementTxHash

instance (leg : Leg) (replacement : Replacement) : Decidable (leg.Replaceable lower replacement) := by
  unfold Leg.Replaceable
  infer_instance

def Leg.replace (leg : Leg) (replacement : Replacement) : Leg :=
  { leg with
    replacementTxHash := some replacement.replacementTxHash
    replacementReason := some replacement.reason
    replacementObservedAt := leg.replacementObservedAt <|> some replacement.observedAt }

def recordApproveReplacementWith (replacement : Replacement) : Cas :=
  casRow (row.intentId = intentId ∧ row.approve.Replaceable lower replacement
      ∧ row.executionState ∈ [.approveSubmitted, .ambiguous]) true
    { row with approve := row.approve.replace replacement, updatedAt := time.now }

def recordDepositReplacementWith (replacement : Replacement) : Cas :=
  casRow (row.intentId = intentId ∧ row.deposit.Replaceable lower replacement
      ∧ row.executionState ∈ [.depositSubmitted, .ambiguous]) true
    { row with deposit := row.deposit.replace replacement, updatedAt := time.now }

/-- `LighterDepositL1Evidence`. -/
structure DepositL1Evidence where
  txHash : JsString
  blockHash : JsString
  blockNumber : Nat
  accountIndex : Nat
  walletAddress : JsString
  assetIndex : Nat
  routeType : Nat
  amountUnits : Nat

def Evidences (txHash walletAddress : JsString) (assetIndex routeType amountUnits : Nat) : Prop :=
  row.deposit.Is lower txHash ∧ lower row.walletAddress = lower walletAddress
    ∧ ∃ own ∈ row.terms, own.assetIndex = assetIndex ∧ own.routeType = routeType
      ∧ own.amountUnits = amountUnits

instance (txHash walletAddress : JsString) (assetIndex routeType amountUnits : Nat) :
    Decidable (Evidences lower row txHash walletAddress assetIndex routeType amountUnits) := by
  unfold Evidences
  infer_instance

def DepositL1Evidence.columns (evidence : DepositL1Evidence) : L1Evidence :=
  ⟨some evidence.blockHash, some evidence.blockNumber, some evidence.accountIndex⟩

def markDepositConfirmedWith (evidence : DepositL1Evidence) : Cas :=
  casRow (row.intentId = intentId
      ∧ Evidences lower row evidence.txHash evidence.walletAddress evidence.assetIndex
        evidence.routeType evidence.amountUnits
      ∧ row.executionState ∈ [.depositSubmitted, .ambiguous]) workflow
    { row with
      executionState := .depositConfirmed
      l1 := evidence.columns
      failureReason := none
      updatedAt := time.now }

def recordConfirmedDepositL1EvidenceWith (evidence : DepositL1Evidence) : Cas :=
  casRow (row.intentId = intentId ∧ row.executionState = .depositConfirmed
      ∧ row.l1 = ⟨none, none, none⟩
      ∧ Evidences lower row evidence.txHash evidence.walletAddress evidence.assetIndex
        evidence.routeType evidence.amountUnits) true
    { row with l1 := evidence.columns, updatedAt := time.now }

def reconcileConfirmedDepositL1EvidenceWith (evidence : DepositL1Evidence) : Cas :=
  casRow (row.intentId = intentId ∧ row.executionState = .depositConfirmed
      ∧ Evidences lower row evidence.txHash evidence.walletAddress evidence.assetIndex
        evidence.routeType evidence.amountUnits) true
    { row with l1 := evidence.columns, failureReason := none, updatedAt := time.now }

/-- `LighterDepositCreditEvidence`. -/
structure DepositCreditEvidence where
  l1 : DepositL1Evidence
  lighterTxHash : JsString
  lighterStatus : Nat
  lighterBlockHeight : Nat
  lighterExecutedAt : Instant

def markDepositCreditedWith (evidence : DepositCreditEvidence) : Cas :=
  casRow (row.intentId = intentId ∧ row.executionState = .depositConfirmed
      ∧ Evidences lower row evidence.l1.txHash evidence.l1.walletAddress evidence.l1.assetIndex
        evidence.l1.routeType evidence.l1.amountUnits
      ∧ (∃ blockHash ∈ row.l1.blockHash, lower blockHash = lower evidence.l1.blockHash)
      ∧ row.l1.blockNumber = some evidence.l1.blockNumber
      ∧ row.l1.eventAccountIndex = some evidence.l1.accountIndex) workflow
    { row with
      executionState := .credited
      resolvedAccountIndex := some evidence.l1.accountIndex
      credit := ⟨some evidence.lighterTxHash, some evidence.lighterStatus,
        some evidence.lighterBlockHeight, some evidence.lighterExecutedAt, some time.now⟩
      failureReason := none
      updatedAt := time.now }

/-- `markAmbiguousWith`: it names the row and asks for a state that is not final. -/
def markAmbiguousWith (reason : JsString) : Cas :=
  casRow (row.intentId = intentId ∧ row.executionState ∉ [.credited, .failed]) workflow { row with
      executionState := .ambiguous
      failureReason := some reason
      updatedAt := time.now }

def markFailedWith (reason : JsString) : Cas :=
  casRow (row.intentId = intentId ∧ row.executionState ≠ .credited) workflow { row with
      executionState := .failed
      failureReason := some reason
      updatedAt := time.now }

inductive ReceiptOutcome where
  | confirmed
  | reverted
  deriving DecidableEq

def approveReverted : JsString :=
  JsString.ofString "Ethereum receipt proves the Lighter USDC approval transaction reverted."

def depositReverted : JsString :=
  JsString.ofString "Ethereum receipt proves the Lighter deposit transaction reverted."

def reconcileApproveReceiptWith (txHash : JsString) (outcome : ReceiptOutcome) : Cas :=
  casRow (row.intentId = intentId ∧ row.approve.Is lower txHash ∧ row.deposit.txHash = none
      ∧ row.executionState ∈ [.approveSubmitted, .ambiguous]) workflow
    { row with
      executionState := if outcome = .confirmed then .approveConfirmed else .failed
      failureReason := if outcome = .reverted then some approveReverted else none
      updatedAt := time.now }

/-- `reconcileDepositReceiptWith` of a deposit that reverted; a confirmed one is
`markDepositConfirmedWith`. -/
def reconcileDepositRevertedWith (txHash : JsString) : Cas :=
  casRow (row.intentId = intentId ∧ row.deposit.Is lower txHash
      ∧ row.executionState ∈ [.depositSubmitted, .ambiguous]) workflow
    { row with
      executionState := .failed
      failureReason := some depositReverted
      updatedAt := time.now }

def recordDepositRepairAttempt (result : JsString) : Cas :=
  casRow (row.intentId = intentId ∧ row.capability = .deposit) true
    { row with repairAttemptedAt := some time.now, repairAttemptResult := some result }

/-! ## The registration of a key -/

def Registers (sessionId : JsString) : Prop :=
  row.intentId = intentId ∧ row.sessionId = sessionId ∧ row.capability = .keyRegistration

instance (sessionId : JsString) : Decidable (Registers intentId row sessionId) := by
  unfold Registers
  infer_instance

structure KeyGeneratedInput where
  environment : Environment
  accountIndex : Nat
  apiKeyIndex : Nat
  vaultCredentialId : JsString
  publicKey : JsString
  publicKeyFingerprint : JsString
  generatedAt : Instant

def markLighterKeyGeneratedEncryptedWith (input : KeyGeneratedInput) : Cas :=
  casRow (row.intentId = intentId ∧ row.capability = .keyRegistration
      ∧ row.executionState = .slotReserved ∧ row.environment = input.environment
      ∧ row.resolvedAccountIndex = some input.accountIndex
      ∧ row.registration.apiKeyIndex = some input.apiKeyIndex) workflow
    { row with
      executionState := .keyGeneratedEncrypted
      registration := { row.registration with
        vaultCredentialId := some input.vaultCredentialId
        publicKey := some input.publicKey
        publicKeyFingerprint := some input.publicKeyFingerprint
        keyGeneratedAt := some input.generatedAt }
      updatedAt := time.now }

def markLighterKeyRegistrationApprovalPendingWith (sessionId : JsString) (registrationNonce : Nat)
    (observedAt : Instant) : Cas :=
  casRow (Registers intentId row sessionId ∧ row.approvalStatus = .approvalPending
      ∧ row.executionState = .keyGeneratedEncrypted ∧ row.expiresAt > time.now) workflow
    { row with
      executionState := .approvalPending
      registration := { row.registration with
        registrationNonce := some registrationNonce
        nonceObservedAt := some observedAt }
      updatedAt := time.now }

def markLighterKeyRegistrationApprovedWith (sessionId : JsString) (approvalId : Option JsString)
    (reason : JsString) : Cas :=
  casRow (Registers intentId row sessionId ∧ row.approvalStatus = .approvalPending
      ∧ row.executionState = .approvalPending ∧ row.expiresAt > time.now) true
    { row with
      approvalStatus := .approved
      approvalId := approvalId
      decidedAt := some time.now
      decisionReason := some reason
      executionState := .approved
      updatedAt := time.now }

def renewPristineApprovedLighterKeyRegistrationIntentWith (sessionId : JsString)
    (expiresAt : Instant) : Cas :=
  casRow (Registers intentId row sessionId ∧ row.approvalStatus = .approved
      ∧ row.executionState = .approved ∧ row.registration.Pristine) true
    { row with expiresAt := expiresAt, updatedAt := time.now }

/-- `adoptPristineLighterKeyRegistrationApprovalWith`: the row moves to another session. -/
def adoptPristineLighterKeyRegistrationApprovalWith (previousSessionId sessionId : JsString)
    (environment : Environment) (walletAddress : JsString) (accountIndex : Nat)
    (expiresAt : Instant) : Cas :=
  casRow (Registers intentId row previousSessionId ∧ row.environment = environment
      ∧ lower row.walletAddress = lower walletAddress
      ∧ row.resolvedAccountIndex = some accountIndex ∧ row.approvalStatus = .approvalPending
      ∧ row.executionState = .approvalPending ∧ row.approvalId = none
      ∧ row.protocolExecutionId = none ∧ row.decidedAt = none ∧ row.decisionReason = none
      ∧ row.failureReason = none ∧ row.registration.Pristine) true
    { row with sessionId := sessionId, expiresAt := expiresAt, updatedAt := time.now }

def markLighterKeyRegistrationTxStagedWith (sessionId txHash : JsString) (expiredAt : Int)
    (stagedAt : Instant) : Cas :=
  casRow (Registers intentId row sessionId ∧ row.approvalStatus = .approved
      ∧ row.executionState = .approved) true
    { row with
      executionState := .keyRegistrationTxStaged
      registration := { row.registration with
        txType := some 8
        txHash := some txHash
        txExpiredAt := some expiredAt
        txStagedAt := some stagedAt }
      updatedAt := time.now }

def markLighterKeyRegistrationSubmittedWith (sessionId txHash : JsString)
    (predictedExecutionTimeMs : Nat) (acceptedAt : Instant) : Cas :=
  casRow (Registers intentId row sessionId ∧ row.approvalStatus = .approved
      ∧ row.executionState = .keyRegistrationTxStaged ∧ row.registration.txHash = some txHash)
    workflow
    { row with
      executionState := .changePubKeySubmitted
      registration := { row.registration with
        submittedTxHash := some txHash
        submitCode := some 200
        predictedExecutionTimeMs := some predictedExecutionTimeMs
        submitAcceptedAt := some acceptedAt
        ambiguityReason := none }
      updatedAt := time.now }

def markLighterKeyRegistrationAmbiguousWith (sessionId txHash reason : JsString) : Cas :=
  casRow (Registers intentId row sessionId ∧ row.approvalStatus = .approved
      ∧ row.executionState ∈ [.keyRegistrationTxStaged, .changePubKeySubmitted]
      ∧ row.registration.txHash = some txHash) workflow
    { row with
      executionState := .ambiguous
      registration := { row.registration with ambiguityReason := some reason }
      updatedAt := time.now }

def markLighterKeyRegistrationKeyVerifiedWith (sessionId publicKey : JsString)
    (verifiedAt clientCheckedAt : Instant) : Cas :=
  casRow (Registers intentId row sessionId ∧ row.approvalStatus = .approved
      ∧ row.executionState ∈ [.changePubKeySubmitted, .ambiguous]
      ∧ row.registration.publicKey = some publicKey) workflow
    { row with
      executionState := .keyVerified
      registration := { row.registration with
        keyVerifiedAt := some verifiedAt
        clientCheckedAt := some clientCheckedAt
        ambiguityReason := none }
      updatedAt := time.now }

def markLighterKeyRegistrationNonceSynchronizedWith (sessionId : JsString) (nextNonce : Nat)
    (synchronizedAt : Instant) : Cas :=
  casRow (Registers intentId row sessionId ∧ row.approvalStatus = .approved
      ∧ row.executionState = .keyVerified
      ∧ ∃ nonce ∈ row.registration.registrationNonce, nextNonce = nonce + 1) workflow
    { row with
      executionState := .nonceSynchronized
      registration := { row.registration with
        postRegistrationNonce := some nextNonce
        nonceSynchronizedAt := some synchronizedAt }
      updatedAt := time.now }

def markLighterKeyRegistrationActiveWith (sessionId : JsString) (activatedAt : Instant) : Cas :=
  casRow (Registers intentId row sessionId ∧ row.approvalStatus = .approved
      ∧ row.executionState = .nonceSynchronized) workflow
    { row with
      executionState := .active
      registration := { row.registration with activatedAt := some activatedAt }
      updatedAt := time.now }

end Statements

/-! ## One row under every statement -/

/-- A statement of the two repositories with its arguments. -/
inductive Transition where
  | expireStaleDepositApprovalPending (scope : DepositScope)
  | approvalDecision (decision : Decision) (approvalId : Option JsString)
      (protocolExecutionId : Option Nat) (reason : Option JsString)
  | confirmedApprovalRecoveryDecision (decision : Decision) (approvalId : Option JsString)
      (protocolExecutionId : Option Nat) (reason : Option JsString)
  | supersedePristineDeposit (sessionId : JsString) (environment : Environment)
      (walletAddress : JsString)
  | renewPristineApprovedDeposit (input : RenewInput)
  | renewConfirmedApprovalDeposit (input : RenewInput)
  | approveSubmitted (transaction : StagedTransaction)
  | allowanceVerified
  | depositSubmitted (transaction : StagedTransaction)
  | approveConfirmed (txHash : JsString)
  | approveReplacement (replacement : Replacement)
  | depositReplacement (replacement : Replacement)
  | depositConfirmed (evidence : DepositL1Evidence)
  | confirmedDepositL1Evidence (evidence : DepositL1Evidence)
  | reconcileConfirmedDepositL1Evidence (evidence : DepositL1Evidence)
  | depositCredited (evidence : DepositCreditEvidence)
  | ambiguous (reason : JsString)
  | failed (reason : JsString)
  | reconcileApproveReceipt (txHash : JsString) (outcome : ReceiptOutcome)
  | reconcileDepositReverted (txHash : JsString)
  | depositRepairAttempt (result : JsString)
  | keyGeneratedEncrypted (input : KeyGeneratedInput)
  | keyRegistrationApprovalPending (sessionId : JsString) (registrationNonce : Nat)
      (observedAt : Instant)
  | keyRegistrationApproved (sessionId : JsString) (approvalId : Option JsString) (reason : JsString)
  | renewPristineKeyRegistration (sessionId : JsString) (expiresAt : Instant)
  | adoptPristineKeyRegistration (previousSessionId sessionId : JsString)
      (environment : Environment) (walletAddress : JsString) (accountIndex : Nat)
      (expiresAt : Instant)
  | keyRegistrationTxStaged (sessionId txHash : JsString) (expiredAt : Int) (stagedAt : Instant)
  | keyRegistrationSubmitted (sessionId txHash : JsString) (predictedExecutionTimeMs : Nat)
      (acceptedAt : Instant)
  | keyRegistrationAmbiguous (sessionId txHash reason : JsString)
  | keyRegistrationKeyVerified (sessionId publicKey : JsString) (verifiedAt clientCheckedAt : Instant)
  | keyRegistrationNonceSynchronized (sessionId : JsString) (nextNonce : Nat)
      (synchronizedAt : Instant)
  | keyRegistrationActive (sessionId : JsString) (activatedAt : Instant)

/-- A statement with its clock, the intent it names and the answer of the workflow's row. -/
structure Op where
  time : StatementTime
  intentId : JsString
  workflow : Bool
  transition : Transition

variable (lower : JsString → JsString)

def applied (row : Row) (op : Op) : Cas :=
  match op.transition with
  | .expireStaleDepositApprovalPending scope =>
    expireStaleDepositApprovalPendingWith lower op.time op.intentId op.workflow row scope
  | .approvalDecision decision approvalId protocolExecutionId reason =>
    markApprovalDecisionWith op.time op.intentId op.workflow row decision approvalId
      protocolExecutionId reason
  | .confirmedApprovalRecoveryDecision decision approvalId protocolExecutionId reason =>
    markConfirmedApprovalRecoveryDecisionWith op.time op.intentId op.workflow row decision
      approvalId protocolExecutionId reason
  | .supersedePristineDeposit sessionId environment walletAddress =>
    supersedePristineDepositIntentWith lower op.time op.intentId op.workflow row sessionId
      environment walletAddress
  | .renewPristineApprovedDeposit input =>
    renewPristineApprovedDepositIntentWith lower op.time op.intentId row input
  | .renewConfirmedApprovalDeposit input =>
    renewConfirmedApprovalDepositIntentWith lower op.time op.intentId row input
  | .approveSubmitted transaction =>
    markApproveSubmittedWith op.time op.intentId op.workflow row transaction
  | .allowanceVerified => markAllowanceVerifiedWith op.time op.intentId op.workflow row
  | .depositSubmitted transaction =>
    markDepositSubmittedWith op.time op.intentId op.workflow row transaction
  | .approveConfirmed txHash =>
    markApproveConfirmedWith lower op.time op.intentId op.workflow row txHash
  | .approveReplacement replacement =>
    recordApproveReplacementWith lower op.time op.intentId row replacement
  | .depositReplacement replacement =>
    recordDepositReplacementWith lower op.time op.intentId row replacement
  | .depositConfirmed evidence =>
    markDepositConfirmedWith lower op.time op.intentId op.workflow row evidence
  | .confirmedDepositL1Evidence evidence =>
    recordConfirmedDepositL1EvidenceWith lower op.time op.intentId row evidence
  | .reconcileConfirmedDepositL1Evidence evidence =>
    reconcileConfirmedDepositL1EvidenceWith lower op.time op.intentId row evidence
  | .depositCredited evidence =>
    markDepositCreditedWith lower op.time op.intentId op.workflow row evidence
  | .ambiguous reason => markAmbiguousWith op.time op.intentId op.workflow row reason
  | .failed reason => markFailedWith op.time op.intentId op.workflow row reason
  | .reconcileApproveReceipt txHash outcome =>
    reconcileApproveReceiptWith lower op.time op.intentId op.workflow row txHash outcome
  | .reconcileDepositReverted txHash =>
    reconcileDepositRevertedWith lower op.time op.intentId op.workflow row txHash
  | .depositRepairAttempt result => recordDepositRepairAttempt op.time op.intentId row result
  | .keyGeneratedEncrypted input =>
    markLighterKeyGeneratedEncryptedWith op.time op.intentId op.workflow row input
  | .keyRegistrationApprovalPending sessionId registrationNonce observedAt =>
    markLighterKeyRegistrationApprovalPendingWith op.time op.intentId op.workflow row sessionId
      registrationNonce observedAt
  | .keyRegistrationApproved sessionId approvalId reason =>
    markLighterKeyRegistrationApprovedWith op.time op.intentId row sessionId approvalId reason
  | .renewPristineKeyRegistration sessionId expiresAt =>
    renewPristineApprovedLighterKeyRegistrationIntentWith op.time op.intentId row sessionId
      expiresAt
  | .adoptPristineKeyRegistration previousSessionId sessionId environment walletAddress accountIndex
      expiresAt =>
      adoptPristineLighterKeyRegistrationApprovalWith lower op.time op.intentId row
        previousSessionId sessionId environment walletAddress accountIndex expiresAt
  | .keyRegistrationTxStaged sessionId txHash expiredAt stagedAt =>
    markLighterKeyRegistrationTxStagedWith op.time op.intentId row sessionId txHash expiredAt
      stagedAt
  | .keyRegistrationSubmitted sessionId txHash predictedExecutionTimeMs acceptedAt =>
    markLighterKeyRegistrationSubmittedWith op.time op.intentId op.workflow row sessionId txHash
      predictedExecutionTimeMs acceptedAt
  | .keyRegistrationAmbiguous sessionId txHash reason =>
    markLighterKeyRegistrationAmbiguousWith op.time op.intentId op.workflow row sessionId txHash
      reason
  | .keyRegistrationKeyVerified sessionId publicKey verifiedAt clientCheckedAt =>
    markLighterKeyRegistrationKeyVerifiedWith op.time op.intentId op.workflow row sessionId
      publicKey verifiedAt clientCheckedAt
  | .keyRegistrationNonceSynchronized sessionId nextNonce synchronizedAt =>
    markLighterKeyRegistrationNonceSynchronizedWith op.time op.intentId op.workflow row sessionId
      nextNonce synchronizedAt
  | .keyRegistrationActive sessionId activatedAt =>
    markLighterKeyRegistrationActiveWith op.time op.intentId op.workflow row sessionId activatedAt

/-- One statement of a run: where it misses, the row stays. -/
def step : Row → Op → Row := orStay (applied lower)

/-! ## Rows that were approved -/

/-- The states that only an approved row is in, as long as no deposit leaves without an approval:
`approve_confirmed` is not one, because a renewal asks for the approval again there. -/
def approvedStates : List ExecutionState :=
  [.approved, .allowanceVerified, .approveSubmitted, .depositSubmitted, .depositConfirmed,
    .keyRegistrationTxStaged, .changePubKeySubmitted, .keyVerified, .nonceSynchronized, .active,
    .ambiguous]

def Authorised (row : Row) : Prop :=
  row.executionState ∈ approvedStates → row.approvalStatus = .approved

/-- The statements that put a row in one of them without asking whether it is approved. -/
def Transition.Unchecked : Transition → Prop
  | .depositSubmitted _ | .ambiguous _ => True
  | _ => False

instance (transition : Transition) : Decidable transition.Unchecked := by
  cases transition <;> unfold Transition.Unchecked <;> infer_instance

theorem authorised_of_outside {row : Row} (outside : row.executionState ∉ approvedStates) :
    Authorised row :=
  fun inside => absurd inside outside

theorem Authorised.onward {row : Row} (authorised : Authorised row) {states : List ExecutionState}
    (source : row.executionState ∈ states) (inside : states ⊆ approvedStates) :
    row.approvalStatus = .approved :=
  authorised (inside source)

theorem authorised_of_applied {row row' : Row} {op : Op} (authorised : Authorised row)
    (asked : op.transition.Unchecked → row.approvalStatus = .approved)
    (took : applied lower row op = some row') : Authorised row' := by
  obtain ⟨time, intentId, workflow, transition⟩ := op
  cases transition with
  | approvalDecision decision approvalId protocolExecutionId reason =>
    obtain ⟨⟨⟨-, -, -, pending⟩, -⟩, rfl⟩ := casRow_eq_some.1 took
    cases decision with
    | approved => exact fun _ => rfl
    | rejected | expired => exact authorised_of_outside (by simp [pending, approvedStates])
  | confirmedApprovalRecoveryDecision decision approvalId protocolExecutionId reason =>
    obtain ⟨⟨⟨-, -, -, confirmed, -⟩, -⟩, rfl⟩ := casRow_eq_some.1 took
    cases decision with
    | approved => exact fun _ => rfl
    | rejected | expired => exact authorised_of_outside (by simp [approvedStates])
  | renewConfirmedApprovalDeposit input =>
    obtain ⟨⟨⟨-, -, confirmed, -⟩, -⟩, rfl⟩ := casRow_eq_some.1 took
    exact authorised_of_outside (by simp [confirmed, approvedStates])
  | approveSubmitted transaction | allowanceVerified =>
    obtain ⟨⟨⟨-, source⟩, -⟩, rfl⟩ := casRow_eq_some.1 took
    exact fun _ => authorised.onward source (by simp [approvedStates])
  | depositSubmitted transaction | ambiguous reason =>
    obtain ⟨-, rfl⟩ := casRow_eq_some.1 took
    exact fun _ => asked trivial
  | depositConfirmed evidence =>
    obtain ⟨⟨⟨-, -, source⟩, -⟩, rfl⟩ := casRow_eq_some.1 took
    exact fun _ => authorised.onward source (by simp [approvedStates])
  | reconcileApproveReceipt txHash outcome =>
    obtain ⟨-, rfl⟩ := casRow_eq_some.1 took
    cases outcome with
    | confirmed | reverted => exact authorised_of_outside (by simp [approvedStates])
  | expireStaleDepositApprovalPending | supersedePristineDeposit | approveConfirmed
  | depositCredited | failed | reconcileDepositReverted | keyGeneratedEncrypted
  | keyRegistrationApprovalPending =>
    obtain ⟨-, rfl⟩ := casRow_eq_some.1 took
    exact authorised_of_outside (by simp [approvedStates])
  | keyRegistrationApproved sessionId approvalId reason =>
    obtain ⟨-, rfl⟩ := casRow_eq_some.1 took
    exact fun _ => rfl
  | keyRegistrationTxStaged | keyRegistrationSubmitted | keyRegistrationAmbiguous
  | keyRegistrationKeyVerified | keyRegistrationNonceSynchronized | keyRegistrationActive =>
    obtain ⟨⟨⟨-, approved, -⟩, -⟩, rfl⟩ := casRow_eq_some.1 took
    exact fun _ => approved
  | renewPristineApprovedDeposit | approveReplacement | depositReplacement
  | confirmedDepositL1Evidence | reconcileConfirmedDepositL1Evidence | depositRepairAttempt
  | renewPristineKeyRegistration | adoptPristineKeyRegistration =>
    obtain ⟨-, rfl⟩ := casRow_eq_some.1 took
    exact authorised

end Vex.Lighter.OnboardingIntents
