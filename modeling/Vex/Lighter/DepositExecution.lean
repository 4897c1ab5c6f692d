import Vex.Lighter.DepositEvidence

/-!
# Executing an approved deposit

`executeApprovedLighterDeposit` runs the approve leg, if the allowance is short, and then
the deposit leg, and records every step of them on the row of the intent. It is a program
over its calls: the lease, the checks before a signature, the two runners and the
statements of the store. A runner signs a transaction, hands it to the callback, which
records its hash, and only then broadcasts it and waits; where the callback throws, nothing
is broadcast. Both halves of a runner are calls that may answer anything or fail.
-/

namespace Vex.Lighter.OnboardingIntents

open Vex.Library Vex.Evm.StagedBroadcast

namespace DepositExecution

/-! ## Calls -/

inductive LegOutcome where
  | confirmed
  | reverted
  | ambiguous
  deriving DecidableEq

structure LegResult where
  txHash : JsString
  outcome : LegOutcome
  confirmedBlockNumber : Option Nat
  receipt : Option Receipt
  replacement : Option ReceiptReplacementEvidence
  /-- The time at which a replacement is observed. -/
  observedAt : Instant
  reason : Option JsString
  deriving DecidableEq

/-- How a runner begins: it signed a transaction, or it returns without having signed one. -/
inductive LegStart where
  | signed (transaction : StagedTransaction)
  | unsigned (result : LegResult)

/-- What is thrown: the staging of a hash failed, or something else. -/
inductive Thrown where
  | preBroadcastPersistence (message : JsString)
  | error (message : JsString)

inductive Call where
  | depositFeePreflightComplete
  | assertExecutionLease
  | assertFreshPreSignPreflight (stage : LegStage)
  | signApproveLeg (walletAddress spender : JsString) (amountUnits : Nat) (ceiling : FeeCeiling)
  | signDepositLeg (walletAddress : JsString) (calldata : Calldata)
      (confirmedApprovalBlockNumber : Option Nat) (ceiling : FeeCeiling)
  | broadcastApprove (transaction : StagedTransaction)
  | broadcastDeposit (transaction : StagedTransaction)
  | statement (intentId : JsString) (transition : Transition)

abbrev Call.Answer : Call → Type
  | .depositFeePreflightComplete => Bool
  | .assertExecutionLease => Unit
  | .assertFreshPreSignPreflight _ => FeeCeiling
  | .signApproveLeg _ _ _ _ => Option LegStart
  | .signDepositLeg _ _ _ _ => LegStart
  | .broadcastApprove _ => LegResult
  | .broadcastDeposit _ => LegResult
  | .statement _ _ => Option Row

/-- The variables of the executor: what was handed to the callbacks, and the hashes that are
in effect. -/
structure Progress where
  approveTxHash : Option JsString
  approveStaged : Option StagedTransaction
  depositTxHash : Option JsString
  depositStaged : Option StagedTransaction

def Progress.fresh : Progress := ⟨none, none, none, none⟩

abbrev Execution (α : Type) := Program Call Call.Answer Progress Thrown α

abbrev ExecutionEvent := Program.Event Call.Answer Thrown

def ask (call : Call) : Execution call.Answer := Program.perform call

/-- `LighterDepositExecutionResult`. -/
inductive Result where
  | l2Pending (approveTxHash : Option JsString) (depositTxHash : Option JsString)
  | ambiguous (stage : LegStage) (txHash : Option JsString) (reason : JsString)
  | failed (stage : LegStage) (reason : JsString)

def errText : Thrown → JsString
  | .preBroadcastPersistence message => message
  | .error message => message

/-! ## Statements -/

/-- `tryTransition`: whether the statement wrote the row. -/
def tryTransition (intentId : JsString) (transition : Transition) : Execution Bool := do
  let answer ← Program.attempt (ask (Call.statement intentId transition))
  match answer with
  | .ok (some _) => pure true
  | .ok none => pure false
  | .error _ => pure false

def recordedReason (recorded : Bool) (reason : JsString) (state : String) : JsString :=
  if recorded then reason
  else reason ++ JsString.ofString (" Durable " ++ state ++ " state could not be recorded.")

def ambiguousResult (intentId : JsString) (stage : LegStage) (txHash : Option JsString)
    (reason : JsString) : Execution Result := do
  let recorded ← tryTransition intentId (.ambiguous reason)
  pure (.ambiguous stage txHash (recordedReason recorded reason "ambiguous"))

/-- A failure that is recorded with one text and returned with another. -/
def failedResult (intentId : JsString) (stage : LegStage) (recorded reason : JsString) :
    Execution Result := do
  let wrote ← tryTransition intentId (.failed recorded)
  pure (.failed stage (recordedReason wrote reason "failure"))

/-! ## The approve leg -/

section

variable (env : Surroundings) (intent : Row)

/-- A leg goes on, or the executor returns. -/
abbrev Continuation (α : Type) := Result ⊕ α

def stageApprove (transaction : StagedTransaction) : Execution Unit := do
  Program.assign fun progress =>
    { progress with
      approveTxHash := some transaction.txHash
      approveStaged := some transaction }
  let staged ← tryTransition intent.intentId (.approveSubmitted transaction)
  if staged then pure ()
  else throw (.preBroadcastPersistence (JsString.ofString
    "Approval transaction hash could not be durably staged; broadcast was aborted."))

/-- The intent as far as the proof of a replacement reads it: with its leg staged. -/
def withStaged (stage : LegStage) (transaction : StagedTransaction) : Row :=
  match stage with
  | .approve =>
    { intent with
      approve := { intent.approve with
        txHash := some transaction.txHash
        txFrom := some transaction.fromAddress
        txNonce := some transaction.nonce } }
  | .deposit =>
    { intent with
      deposit := { intent.deposit with
        txHash := some transaction.txHash
        txFrom := some transaction.fromAddress
        txNonce := some transaction.nonce } }

def allowanceSkipped : Execution (Continuation (Option Nat)) := do
  let verified ← tryTransition intent.intentId .allowanceVerified
  if verified then pure (.inr none)
  else pure (.inl (.failed .approve (JsString.ofString (
    "Existing allowance was sufficient, but its lifecycle state could not be recorded. Deposit was "
      ++ "not signed or broadcast."))))

/-- The outcome of the approve leg. The hash in effect is the one staged, or its replacement's, so
the check that there is one cannot fail. -/
def approveOutcome (result : LegResult) (effective : JsString) :
    Execution (Continuation (Option Nat)) :=
  match result.outcome with
  | .reverted => do
    let reason := result.reason.getD (JsString.ofString "Settlement-asset approval reverted on chain.")
    let failed ← failedResult intent.intentId .approve reason reason
    pure (.inl failed)
  | .ambiguous => do
    let reason := result.reason.getD (JsString.ofString "Approval broadcast outcome is unconfirmed.")
    let unsure ← ambiguousResult intent.intentId .approve (some result.txHash) reason
    pure (.inl unsure)
  | .confirmed => do
    let confirmed ← tryTransition intent.intentId (.approveConfirmed effective)
    if confirmed then pure (.inr result.confirmedBlockNumber)
    else do
      let unsure ← ambiguousResult intent.intentId .approve (some result.txHash)
        (JsString.ofString ("Approval confirmed on chain, but the durable lifecycle transition "
          ++ "conflicted. Deposit was not started."))
      pure (.inl unsure)

def approveReplaced (staged : StagedTransaction) (result : LegResult)
    (replacement : ReceiptReplacementEvidence) : Execution (Continuation (Option Nat)) :=
  match proveApprovedLighterDepositReplacement env (withStaged intent .approve staged) .approve
    replacement result.observedAt with
  | .error message => do
    let unsure ← ambiguousResult intent.intentId .approve (some replacement.replacementTxHash)
      (JsString.ofString message)
    pure (.inl unsure)
  | .ok accepted => do
    let recorded ← tryTransition intent.intentId (.approveReplacement accepted)
    if recorded then do
      Program.assign fun progress =>
        { progress with approveTxHash := some accepted.replacementTxHash }
      approveOutcome intent result accepted.replacementTxHash
    else do
      let unsure ← ambiguousResult intent.intentId .approve (some accepted.replacementTxHash)
        (JsString.ofString "The exact approval replacement could not be recorded durably.")
      pure (.inl unsure)

def approveReturned (result : LegResult) : Execution (Continuation (Option Nat)) := do
  let progress ← Program.current
  if progress.approveTxHash = some result.txHash then
    match result.replacement, progress.approveStaged with
    | none, _ => approveOutcome intent result result.txHash
    | some replacement, some staged => approveReplaced env intent staged result replacement
    | some _, none => do
      let unsure ← ambiguousResult intent.intentId .approve (some result.txHash)
        (JsString.ofString ("The settlement chain reported an approval replacement without staged "
          ++ "sender and nonce evidence."))
      pure (.inl unsure)
  else do
    let unsure ← ambiguousResult intent.intentId .approve
      (progress.approveTxHash <|> some result.txHash)
      (JsString.ofString "Approval runner returned without the same durably staged transaction hash.")
    pure (.inl unsure)

/-- The `try` block of the approve leg. -/
def approveBlock (terms : DepositTerms) : Execution (Continuation (Option Nat)) := do
  ask Call.assertExecutionLease
  let ceiling ← ask (Call.assertFreshPreSignPreflight .approve)
  let start ← ask (Call.signApproveLeg intent.walletAddress terms.depositContract terms.amountUnits
    ceiling)
  match start with
  | none => allowanceSkipped intent
  | some (.unsigned result) => approveReturned env intent result
  | some (.signed transaction) => do
    stageApprove intent transaction
    let result ← ask (Call.broadcastApprove transaction)
    approveReturned env intent result

/-- Its `catch` block. -/
def approveFailed (thrown : Thrown) : Execution (Continuation (Option Nat)) :=
  match thrown with
  | .preBroadcastPersistence message => pure (.inl (.failed .approve message))
  | .error message => do
    let progress ← Program.current
    match progress.approveTxHash with
    | none => do
      let failed ← failedResult intent.intentId .approve
        (JsString.ofString "Approval failed before broadcast: " ++ message) message
      pure (.inl failed)
    | some txHash => do
      let unsure ← ambiguousResult intent.intentId .approve (some txHash)
        (JsString.ofString "Approval leg error after hash staging: " ++ message)
      pure (.inl unsure)

def approveLeg (terms : DepositTerms) : Execution (Continuation (Option Nat)) :=
  tryCatch (approveBlock env intent terms) (approveFailed intent)

/-! ## The deposit leg -/

def stageDeposit (transaction : StagedTransaction) : Execution Unit := do
  Program.assign fun progress =>
    { progress with
      depositTxHash := some transaction.txHash
      depositStaged := some transaction }
  let staged ← tryTransition intent.intentId (.depositSubmitted transaction)
  if staged then pure ()
  else throw (.preBroadcastPersistence (JsString.ofString
    "Deposit transaction hash could not be durably staged; broadcast was aborted."))

/-- The outcome of the deposit leg, whose hash is in effect. -/
def depositOutcome (terms : DepositTerms) (result : LegResult) (effective : JsString) :
    Execution (Continuation DepositL1Evidence) :=
  match result.outcome with
  | .reverted => do
    let reason := result.reason.getD (JsString.ofString "Deposit transaction reverted on chain.")
    let failed ← failedResult intent.intentId .deposit reason reason
    pure (.inl failed)
  | .ambiguous => do
    let reason := result.reason.getD (JsString.ofString "Deposit broadcast outcome is unconfirmed.")
    let unsure ← ambiguousResult intent.intentId .deposit (some result.txHash) reason
    pure (.inl unsure)
  | .confirmed =>
    match result.receipt with
    | none => do
      let unsure ← ambiguousResult intent.intentId .deposit (some result.txHash) (JsString.ofString
          "Deposit runner reported confirmation without a settlement-chain receipt.")
      pure (.inl unsure)
    | some receipt =>
      match proveLighterDepositL1 env receipt ⟨effective, terms.depositContract,
        intent.walletAddress, terms.depositTo, terms.assetIndex, terms.routeType,
        terms.amountUnits⟩ with
      | .error message => throw (.error (JsString.ofString message))
      | .ok evidence => pure (.inr evidence)

def depositReplaced (terms : DepositTerms) (staged : StagedTransaction) (result : LegResult)
    (replacement : ReceiptReplacementEvidence) : Execution (Continuation DepositL1Evidence) :=
  match proveApprovedLighterDepositReplacement env (withStaged intent .deposit staged) .deposit
    replacement result.observedAt with
  | .error message => do
    let unsure ← ambiguousResult intent.intentId .deposit (some replacement.replacementTxHash)
      (JsString.ofString message)
    pure (.inl unsure)
  | .ok accepted => do
    let recorded ← tryTransition intent.intentId (.depositReplacement accepted)
    if recorded then do
      Program.assign fun progress =>
        { progress with depositTxHash := some accepted.replacementTxHash }
      depositOutcome env intent terms result accepted.replacementTxHash
    else do
      let unsure ← ambiguousResult intent.intentId .deposit (some accepted.replacementTxHash)
        (JsString.ofString "The exact deposit replacement could not be recorded durably.")
      pure (.inl unsure)

def depositReturned (terms : DepositTerms) (result : LegResult) :
    Execution (Continuation DepositL1Evidence) := do
  let progress ← Program.current
  if progress.depositTxHash = some result.txHash then
    match result.replacement, progress.depositStaged with
    | none, _ => depositOutcome env intent terms result result.txHash
    | some replacement, some staged => depositReplaced env intent terms staged result replacement
    | some _, none => do
      let unsure ← ambiguousResult intent.intentId .deposit (some result.txHash)
        (JsString.ofString ("The settlement chain reported a deposit replacement without staged "
          ++ "sender and nonce evidence."))
      pure (.inl unsure)
  else do
    let unsure ← ambiguousResult intent.intentId .deposit
      (progress.depositTxHash <|> some result.txHash)
      (JsString.ofString "Deposit runner returned without the same durably staged transaction hash.")
    pure (.inl unsure)

/-- The `try` block of the deposit leg. -/
def depositBlock (terms : DepositTerms) (calldata : Calldata) (confirmedBlock : Option Nat) :
    Execution (Continuation DepositL1Evidence) := do
  ask Call.assertExecutionLease
  let ceiling ← ask (Call.assertFreshPreSignPreflight .deposit)
  let start ← ask (Call.signDepositLeg intent.walletAddress calldata confirmedBlock ceiling)
  match start with
  | .unsigned result => depositReturned env intent terms result
  | .signed transaction => do
    stageDeposit intent transaction
    let result ← ask (Call.broadcastDeposit transaction)
    depositReturned env intent terms result

/-- Its `catch` block. -/
def depositFailed (thrown : Thrown) : Execution (Continuation DepositL1Evidence) :=
  match thrown with
  | .preBroadcastPersistence message => pure (.inl (.failed .deposit message))
  | .error message => do
    let progress ← Program.current
    match progress.depositTxHash with
    | none => do
      let failed ← failedResult intent.intentId .deposit
        (JsString.ofString "Deposit failed before broadcast: " ++ message) message
      pure (.inl failed)
    | some txHash => do
      let unsure ← ambiguousResult intent.intentId .deposit (some txHash)
        (JsString.ofString "Deposit leg error after hash staging: " ++ message)
      pure (.inl unsure)

def depositLeg (terms : DepositTerms) (calldata : Calldata) (confirmedBlock : Option Nat) :
    Execution (Continuation DepositL1Evidence) :=
  tryCatch (depositBlock env intent terms calldata confirmedBlock) (depositFailed intent)

/-! ## The executor -/

/-- The run resumes after an approval that was confirmed before. -/
def resumes : Bool := intent.executionState = .approveConfirmed

def hasRequiredFields (terms : DepositTerms) : Bool :=
  let funding := getLighterFundingDeployment intent.environment
  intent.capability = .deposit && intent.chainId = funding.settlementChainId
    && intent.approvalStatus = .approved
    && (intent.executionState = .approved || resumes intent)
    && env.lower terms.depositTo = env.lower intent.walletAddress
    && env.lower terms.depositContract = env.lower funding.gatewayProxy
    && terms.assetIndex = funding.settlementAssetIndex
    && terms.routeType = funding.perpsRouteType
    && (intent.preflightColumns env).any (hasValidPersistedPreflight env funding terms.amountUnits)
    && (!resumes intent
      || (intent.approve.effectiveHash.isSome && intent.approve.txFrom.isSome
        && intent.approve.txNonce.isSome && intent.deposit.txHash.isNone
        && intent.deposit.replacementTxHash.isNone))

def confirmDeposit (evidence : DepositL1Evidence) : Execution Result := do
  let confirmed ← tryTransition intent.intentId (.depositConfirmed evidence)
  let progress ← Program.current
  if confirmed then pure (.l2Pending progress.approveTxHash progress.depositTxHash)
  else
    ambiguousResult intent.intentId .deposit progress.depositTxHash (JsString.ofString
        "Deposit confirmed on chain, but the durable lifecycle transition conflicted.")

def fromDeposit (terms : DepositTerms) (calldata : Calldata) (confirmedBlock : Option Nat) :
    Execution Result := do
  let went ← depositLeg env intent terms calldata confirmedBlock
  match went with
  | .inl result => pure result
  | .inr evidence => confirmDeposit intent evidence

def executeLegs (terms : DepositTerms) (calldata : Calldata) : Execution Result :=
  if resumes intent then fromDeposit env intent terms calldata none
  else do
    let went ← approveLeg env intent terms
    match went with
    | .inl result => pure result
    | .inr confirmedBlock => fromDeposit env intent terms calldata confirmedBlock

/-- The calldata is built again from the persisted intent. -/
def rebuiltCalldata (terms : DepositTerms) : Except String Calldata := do
  require (decide (0 < terms.amountUnits)) "Deposit amount is not a positive integer."
  buildLighterDepositCalldata env intent.environment terms.depositTo terms.amountUnits
    terms.assetIndex

def executeApprovedLighterDeposit : Execution Result := do
  let complete ← ask Call.depositFeePreflightComplete
  if complete = false then
    pure (.failed .approve (JsString.ofString
      "Lighter deposit fee preflight is not complete. Nothing was signed or submitted."))
  else
    match intent.terms with
    | none => pure (.failed .approve (JsString.ofString "Deposit intent is missing required fields."))
    | some terms =>
      if hasRequiredFields env intent terms = false then
        pure (.failed .approve (JsString.ofString "Deposit intent is missing required fields."))
      else
        match rebuiltCalldata env intent terms with
        | .error message => pure (.failed .approve (JsString.ofString message))
        | .ok calldata => executeLegs env intent terms calldata

end

end DepositExecution

end Vex.Lighter.OnboardingIntents
