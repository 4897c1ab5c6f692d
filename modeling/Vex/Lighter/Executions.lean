import Vex.Library.Programs
import Vex.Lighter.Basic

/-!
# What the executors of the trading integration share

An executor takes one approved intent to the provider: it revalidates the intent,
reserves a nonce, signs, records each step in the intent store, sends, and reads
what became of it. The executor of create orders and the four of the order
lifecycle are programs over the calls below.

Every call may fail with any error, the clock may say anything and the abort signal
may come at any time. What only reads, or only computes from what was read, is a
lookup, whose answer may be any value of its type: nothing below depends on which
orders the provider knows, only on what an executor does next.

The calls aside are apart from the submission: signing, the statements that record a
step of it (`Mark`), sending, and giving back what was reserved.
-/

namespace Vex.Lighter.Executions

open Vex.Library

/-! ## Errors -/

inductive Phase where
  | beforeReservation
  | afterReservation
  | beforeSigning
  | afterSigning
  | beforeSubmission
  deriving DecidableEq

def Phase.text : Phase → String
  | .beforeReservation => "before_reservation"
  | .afterReservation => "after_reservation"
  | .beforeSigning => "before_signing"
  | .afterSigning => "after_signing"
  | .beforeSubmission => "before_submission"

/-- `LighterIntentRefusalReason`. -/
inductive RefusalReason where
  | consentExpiredBeforePlan
  | consentExpired (phase : Phase)
  | cancelled (phase : Phase)
  | submissionAdmissionRefused

def RefusalReason.text : RefusalReason → String
  | .consentExpiredBeforePlan => "consent_expired_before_plan"
  | .consentExpired phase => "consent_expired_" ++ phase.text
  | .cancelled phase => "cancelled_" ++ phase.text
  | .submissionAdmissionRefused => "submission_admission_refused"

/-- `LighterSignerChildState`. -/
inductive SignerChildState where
  | exited
  | unknown
  deriving DecidableEq

/-- What the executors read of an error: the code and the status of a `VexError`, the
reason of a `LighterIntentRefusal`, whether it is a `LighterOrderEvidenceConflictError`,
and the end of the signer's process that it carries. -/
structure Failure where
  message : JsString
  code : Option String
  httpStatus : Option Nat
  refusal : Option RefusalReason
  evidenceConflict : Bool
  signerChildState : Option SignerChildState

/-- A `VexError` that says the request cannot be carried out. -/
def invalidRequest (message : JsString) : Failure :=
  ⟨message, some "LIGHTER_INVALID_REQUEST", none, none, false, none⟩

/-- `LighterIntentRefusal`. -/
def intentRefusal (reason : RefusalReason) : Failure :=
  { invalidRequest ("Lighter authority refused: " ++ reason.text ++
    ". No new submission is authorized.") with refusal := some reason }

/-- `LighterSignerRunOutcome`. -/
inductive SignerRunOutcome where
  | resolved
  | rejected (error : Failure)

def lighterSignerRunExited : SignerRunOutcome → Bool
  | .resolved => true
  | .rejected error => error.signerChildState == some .exited

/-- `error instanceof LighterIntentRefusal ? error.reason : otherwise`. -/
def Failure.reasonOr (error : Failure) (otherwise : String) : JsString :=
  JsString.ofString ((error.refusal.map RefusalReason.text).getD otherwise)

/-! ## What the calls answer -/

structure SignedTx where
  txHash : JsString
  txType : Int
  txInfo : JsString
  deriving DecidableEq

/-- The provider's answer to `sendTx`. -/
structure SendTxResponse where
  code : Int
  message : Option JsString
  txHash : JsString
  predictedExecutionTimeMs : Int
  volumeQuotaRemaining : Option Int

structure ProviderApiKey where
  accountIndex : Nat
  apiKeyIndex : Nat
  publicKey : JsString
  nonce : Int
  transactionTime : Int

/-- What an executor reads of the unsigned order it has built. -/
structure UnsignedOrder where
  clientOrderIndex : JsString
  orderExpiryMs : Int
  deriving DecidableEq

inductive MarketType where
  | perp
  | spot
  deriving DecidableEq

/-- What an executor reads of an order the provider shows. The outcome is what the store
files the order under, as far as its status text tells. -/
structure ShownOrder (Outcome : Type) where
  orderId : JsString
  status : Option JsString
  outcome : Outcome
  evidence : JsString

/-! ## The intent store -/

/-- A statement that records a step of the submission. -/
inductive Mark where
  | signed (signerTxHash : JsString)
  | staged (signerTxHash : JsString)
  | sendAttemptStarted (signerTxHash : JsString)
  | unsubmitted
  deriving DecidableEq

/-- The guarded statements of an intent store, each of which returns the row it wrote or
none, and which of them record a step of the submission. -/
class IntentStore (Transition : Type) where
  Row : Type
  Outcome : Type
  mark : Transition → Option Mark

/-- The statements that record no step of the submission. -/
abbrev PlainTransition (Transition : Type) [IntentStore Transition] :=
  { transition : Transition // IntentStore.mark transition = none }

/-! ## Calls -/

inductive Lookup where
  | getMarketDetails
  | getOrderBookOrders
  | getAccount
  | getMarkets
  | getApiKeys
  | getNextNonce
  | getAccountActiveOrders
  | getAccountInactiveOrders
  | getAccountTrades
  | findFreshPreviewById
  | findByIntentIdAnySession
  | loadLighterTradingSecretMaterial
  | createLighterAccountAuthWithAdapter
  | publicKeysMatch (provider signer : JsString)
  | revalidateLighterOrderFees
  | readLighterOrderAccountFeeTicks
  | buildLighterUnsignedCreateOrderRequest
  | assertUnsignedOrderMatchesApprovedPlan
  | assertLighterTradingApiKeyIndexAllowed
  | assertLighterPhaseOneOrderPolicy
  | marketDetail
  | revalidateApprovedLighterOrder
  | buildLighterOrderEvidenceScope
  | findMatchingLighterOrder
  | findMatchingLighterTrade
  | findExactOrder
  | findExactClientOrder
  | lifecycleSnapshot
  | sameSnapshot
  | marketUnchanged
  | readStoredCancelAllOrders
  | activeOrdersUnchanged
  | activeOrderCount
  | findApprovedOrders
  | readStoredCloseContext
  | exactAccount
  | exactOpenPosition
  | sameApprovedClosePosition
  | assertCloseDepthAtApprovedPrice
  | matchesRequestedModification
  | latestPositions
  | confirmedLighterCloseDisposition
  | evidenceJson
  | buildSigningInput
  deriving DecidableEq

/-- `confirmedLighterCloseDisposition`, where it is not null. -/
inductive CloseDisposition where
  | closed
  | partiallyClosed
  deriving DecidableEq

def Lookup.Answer (Row Outcome : Type) : Lookup → Type
  | .getApiKeys => List ProviderApiKey
  | .getNextNonce => Int
  | .findFreshPreviewById => Bool
  | .findByIntentIdAnySession => Option Row
  | .createLighterAccountAuthWithAdapter => JsString
  | .publicKeysMatch _ _ => Bool
  | .buildLighterUnsignedCreateOrderRequest => UnsignedOrder
  | .marketDetail => Option MarketType
  | .revalidateApprovedLighterOrder => JsString
  | .findMatchingLighterOrder => Option (ShownOrder Outcome)
  | .findMatchingLighterTrade => Option (ShownOrder Outcome)
  | .findExactOrder => Option (ShownOrder Outcome)
  | .findExactClientOrder => Option (ShownOrder Outcome)
  | .lifecycleSnapshot => JsString
  | .sameSnapshot => Bool
  | .marketUnchanged => Bool
  | .activeOrdersUnchanged => Bool
  | .activeOrderCount => Nat
  | .findApprovedOrders => List (Option (ShownOrder Outcome))
  | .exactAccount => Bool
  | .sameApprovedClosePosition => Bool
  | .matchesRequestedModification => Bool
  | .latestPositions => Bool
  | .confirmedLighterCloseDisposition => Option CloseDisposition
  | .evidenceJson => JsString
  | _ => Unit

section

variable (Transition : Type) [IntentStore Transition]

inductive Aside where
  | now
  | aborted
  | wait (delayMs : Int)
  | lookup (what : Lookup)
  | record (transition : PlainTransition Transition)
  | recordExecutionObserved (nonce : Int)
  | reserveNonce
  | readmitLighterOrderCapitalCommitmentAtExecute
  | admitLighterModifyCapitalCommitment
  | markLighterOrderCapitalCommitmentSettled
  | observeLighterFills

/-- What they answer: a statement the row it wrote, an observation of the nonce whether
it was recorded, the reservation the nonce that is reserved. -/
def Aside.Answer : Aside Transition → Type
  | .now => Instant
  | .aborted => Bool
  | .lookup what => what.Answer (IntentStore.Row Transition) (IntentStore.Outcome Transition)
  | .record _ => Option (IntentStore.Row Transition)
  | .recordExecutionObserved _ => Bool
  | .reserveNonce => JsString
  | _ => Unit

inductive Submission where
  | sign (expiredAt : Option Instant)
  | record (transition : Transition)
  | sendTx (txType : Int) (txInfo : JsString)
  | releaseUnsubmittedReservation
  | retireLighterOrderCapitalCommitment (reason : String)

def Submission.Answer : Submission Transition → Type
  | .sign _ => SignedTx
  | .record _ => Option (IntentStore.Row Transition)
  | .sendTx _ _ => SendTxResponse
  | _ => Unit

/-- What an executor keeps track of between the reservation and its `catch` block. -/
structure Progress where
  signerTxHash : Option JsString
  signingStarted : Bool
  signerExited : Bool
  sendAdmissionStarted : Bool

def Progress.initial : Progress := ⟨none, false, false, false⟩

/-- A part of an executor that is aside of the submission. -/
abbrev Preparation (α : Type) :=
  Program (Aside Transition) (Aside.Answer Transition) Unit Failure α

abbrev Executor (α : Type) :=
  Program (Aside Transition ⊕ Submission Transition)
    (Sum.elim (Aside.Answer Transition) (Submission.Answer Transition)) Progress Failure α

abbrev ExecutorEvent :=
  Program.Event (Sum.elim (Aside.Answer Transition) (Submission.Answer Transition)) Failure

end

/-! ## Parts of the executors -/

variable {Transition : Type} [IntentStore Transition]

def lookup (what : Lookup) : Preparation Transition
      (what.Answer (IntentStore.Row Transition) (IntentStore.Outcome Transition)) :=
  Program.perform (Aside.lookup what)

/-- A plain statement of the intent store. -/
def record (transition : PlainTransition Transition) :
    Preparation Transition (Option (IntentStore.Row Transition)) :=
  Program.perform (Aside.record transition)

/-- `deps.now()`. -/
def now : Preparation Transition Instant := Program.perform Aside.now

/-- `abortSignal?.aborted`. -/
def aborted : Preparation Transition Bool := Program.perform Aside.aborted

def check {α : Type} (result : Except Failure α) : Preparation Transition α := .done result

/-- `if (!condition) throw failure`. -/
def refuseUnless (condition : Bool) (failure : Failure) : Preparation Transition Unit :=
  if condition then pure () else throw failure

/-- A call whose failure is logged and otherwise ignored. -/
def swallow (call : Aside Transition) : Preparation Transition Unit := do
  let _ ← Program.attempt (Program.perform call)
  return ()

/-- `assertIntentUnexpired`; a text that is no date has no instant. -/
def assertIntentUnexpired (expiresAt : Option Instant) (nowMs : Instant) (why : RefusalReason) :
    Except Failure Unit :=
  match expiresAt with
  | none => .error (intentRefusal why)
  | some expiry => if expiry ≤ nowMs then .error (intentRefusal why) else .ok ()

def assertIntentAuthority (expiresAt : Option Instant) (nowMs : Instant) (phase : Phase)
    (aborted : Bool) : Except Failure Unit :=
  if aborted then .error (intentRefusal (.cancelled phase))
  else assertIntentUnexpired expiresAt nowMs (.consentExpired phase)

/-- The closure of the same name that every executor starts with. -/
def assertAuthority (expiresAt : Option Instant) (phase : Phase) : Preparation Transition Unit := do
  let nowMs ← now
  let signal ← aborted
  check (assertIntentAuthority expiresAt nowMs phase signal)

def persistLighterSigningEvidence {α : Type} (write : Executor Transition α) :
    Executor Transition α :=
  tryCatch write fun _ => write

def submission (call : Submission Transition) : Executor Transition (call.Answer) :=
  .call (Sum.inr call) Program.done

/-- A statement that records a step of the submission. -/
def mark (transition : Transition) : Executor Transition (Option (IntentStore.Row Transition)) :=
  submission (.record transition)

def sendTx (signed : SignedTx) : Executor Transition SendTxResponse :=
  submission (.sendTx signed.txType signed.txInfo)

def releaseUnsubmittedReservation : Executor Transition Unit :=
  submission .releaseUnsubmittedReservation

/-- `retireLighterOrderCapitalCommitment`, which logs its failures. -/
def retireLighterOrderCapitalCommitment (reason : String) : Executor Transition Unit := do
  let _ ← Program.attempt (submission (.retireLighterOrderCapitalCommitment reason))
  return ()

/-- The last check of the authority and the marker of the send attempt. The flag is set
before the marker is written, so a marker whose answer is lost counts as written. -/
def admitSendAttempt (expiresAt : Option Instant) (marker : Transition) :
    Executor Transition Unit := do
  Program.aside (assertAuthority expiresAt .beforeSubmission)
  Program.assign fun progress => { progress with sendAdmissionStarted := true }
  let admitted ← mark marker
  if admitted.isNone then
    Program.assign fun progress => { progress with sendAdmissionStarted := false }
    throw (intentRefusal .submissionAdmissionRefused)

/-- What the `catch` block of an executor writes, and whether the intent holds capital. -/
structure Withdrawal (Transition : Type) [IntentStore Transition] where
  unsubmittedRefused (reason : JsString) : Transition
  expiredUnsubmitted (signerTxHash reason : JsString) : Transition
  ambiguous (reason : JsString) : PlainTransition Transition
  retires : Bool

/-- The statement that withdraws an intent which was never sent. -/
def Withdrawal.statement (withdrawal : Withdrawal Transition) (signerTxHash : Option JsString)
    (error : Failure) : Transition :=
  match signerTxHash with
  | none => withdrawal.unsubmittedRefused (error.reasonOr "pre_sign_refused")
  | some signerTxHash =>
    withdrawal.expiredUnsubmitted signerTxHash (error.reasonOr "pre_sign_refused")

/-- The condition of the `catch` block: nothing can have been sent or still be signed. -/
def Progress.withdrawable (progress : Progress) (error : Failure) : Bool :=
  !progress.sendAdmissionStarted && (!progress.signingStarted ||
    (progress.signerExited && (error.refusal.isSome || progress.signerTxHash.isNone)))

/-- The nonce and, where the intent holds any, the capital of a withdrawn intent. -/
def giveBack (withdrawal : Withdrawal Transition) (reason : String) : Executor Transition Unit := do
  releaseUnsubmittedReservation
  if withdrawal.retires then
    retireLighterOrderCapitalCommitment reason

/-- The `catch` block of an executor. -/
def withdraw (withdrawal : Withdrawal Transition) (error : Failure) : Executor Transition Unit := do
  Program.assign fun progress =>
    { progress with
      signerExited := progress.signerExited || lighterSignerRunExited (.rejected error) }
  let progress ← Program.current
  if progress.withdrawable error then
    let refused ← mark (withdrawal.statement progress.signerTxHash error)
    if refused.isSome then
      giveBack withdrawal
        (if progress.signerTxHash.isNone then "refused_unsubmitted" else "expired_unsubmitted")
  else if progress.signerTxHash.isNone || error.refusal.isSome then
    let _ ← Program.aside (record
      (withdrawal.ambiguous (error.reasonOr "signing_failed_after_nonce_reservation")))

/-- `try { … } catch (error) { …; throw error; }`. What the block returns without awaiting
it is run after the block, so its failures are not caught there. -/
def withdrawing {α : Type} (withdrawal : Withdrawal Transition)
    (block : Executor Transition (Preparation Transition α)) : Executor Transition α := do
  let conclude ← tryCatch block fun error => do
    withdraw withdrawal error
    throw error
  Program.aside conclude

end Vex.Lighter.Executions
