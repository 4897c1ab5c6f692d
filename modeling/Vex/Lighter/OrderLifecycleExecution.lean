import Vex.Lighter.Executions
import Vex.Lighter.LifecycleIntentRuns

/-!
# The executors of the order lifecycle

`executeApprovedLighterCancelOne`, `executeApprovedLighterModifyOrder`,
`executeApprovedLighterCancelAll` and `executeApprovedLighterClosePosition`. Each
revalidates its own kind of action and reconciles its own kind of outcome; between the
reservation of the nonce and the provider's answer the four are alike (`signAndSend`),
except for what is signed, whether the signature carries an expiry, and whether the
action holds capital.
-/

namespace Vex.Lighter.OrderLifecycleExecution

open Vex.Library Vex.Lighter.Executions

/-- The classes of an order's status text, trimmed and in lower case. `ended` is any other
status of an order that is over. -/
inductive OrderStatus where
  | open_
  | canceled
  | ended
  | other
  deriving DecidableEq

instance : IntentStore LifecycleIntents.Transition where
  Row := LifecycleIntents.Row
  Outcome := OrderStatus
  mark
    | .signed input => some (.signed input.signerTxHash)
    | .submissionStaged input => some (.staged input.signerTxHash)
    | .sendAttemptStarted input => some (.sendAttemptStarted input.signerTxHash)
    | .expiredUnsubmitted _ => some .unsubmitted
    | .unsubmittedRefused _ => some .unsubmitted
    | _ => none

inductive Side where
  | buy
  | sell
  deriving DecidableEq

structure Requested where
  baseAmountInteger : Option JsString
  priceInteger : Option JsString
  side : Option Side
  reduceOnly : Bool

structure Intent where
  row : LifecycleIntents.Row
  requested : Requested

inductive Result where
  | canceled
  | modified
  | modifiedThenTerminal
  | cancelAllCompleted
  | closePosition (disposition : CloseDisposition)
  | sequencerPending
  | ambiguous (reason : JsString)

abbrev Step (α : Type) := Preparation LifecycleIntents.Transition α

def signerExpiryMs : Int := 60000

def maxReconciliationAttempts : Nat := 4

def reservationId (intent : Intent) : JsString := "lighter-lifecycle:" ++ intent.row.intentId

def blocked (message : JsString) : Failure :=
  invalidRequest (message ++ " No lifecycle transaction was submitted.")

/-! ## The intent -/

/-- `assertAuthority` for the consent that the intent records. -/
def authority (intent : Intent) (phase : Phase) : Step Unit :=
  assertAuthority (some intent.row.expiresAt) phase

/-- What the four checks of an intent share: it is unexpired, and approved but untouched. -/
def assertApproved (intent : Intent) (exact : Bool) (message : JsString) : Step Unit := do
  let nowMs ← now
  check (assertIntentUnexpired (some intent.row.expiresAt) nowMs .consentExpiredBeforePlan)
  refuseUnless
    (intent.row.approvalStatus == .approved && intent.row.executionState == .approved && exact)
    (blocked message)

def assertCancelableIntent (intent : Intent) : Step Unit :=
  assertApproved intent (intent.row.actionType == .cancelOne && intent.row.marketIndex.isSome &&
      intent.row.providerOrderId.isSome)
    "The Lighter cancel intent is not approved, fresh, and exact."

def assertModifyIntent (intent : Intent) : Step Unit :=
  assertApproved intent (intent.row.actionType == .modify && intent.row.marketIndex.isSome &&
      intent.row.providerOrderId.isSome && intent.requested.baseAmountInteger.isSome &&
      intent.requested.priceInteger.isSome)
    "The Lighter modify intent is not approved, fresh, and exact."

def assertCancelAllIntent (intent : Intent) : Step Unit :=
  assertApproved intent (intent.row.actionType == .cancelAll && intent.row.marketIndex.isNone &&
      intent.row.providerOrderId.isNone)
    "The Lighter cancel-all intent is not approved, fresh, and account-wide."

def assertClosePositionIntent (intent : Intent) : Step Unit :=
  assertApproved intent (intent.row.actionType == .closePosition && intent.row.marketIndex.isSome &&
      intent.row.providerOrderId.isNone && intent.requested.baseAmountInteger.isSome &&
      intent.requested.priceInteger.isSome && intent.requested.side.isSome &&
      intent.requested.reduceOnly)
    "The Lighter close-position intent is not approved, fresh, reduce-only, and exact."

/-! ## Before the reservation -/

/-- The read-only authorization of the account; it leaves the signer's public key. -/
def authorizeAccount (intent : Intent) : Step JsString := do
  lookup .loadLighterTradingSecretMaterial
  authority intent .beforeReservation
  let _ ← now
  lookup .createLighterAccountAuthWithAdapter

/-- The key of the account and key index that the provider lists first. -/
def providerKey (intent : Intent) (apiKeys : List ProviderApiKey) : Option ProviderApiKey :=
  apiKeys.find? fun candidate =>
    candidate.accountIndex == intent.row.accountIndex &&
      candidate.apiKeyIndex == intent.row.apiKeyIndex

/-- The credential is the registered one, and both reads agree on the next nonce. -/
def revalidateCredential (intent : Intent) (publicKey : JsString) : Step Int := do
  let apiKeys ← lookup .getApiKeys
  match providerKey intent apiKeys with
  | none => throw (blocked "The registered Lighter trading credential changed.")
  | some key =>
    let same ← lookup (.publicKeysMatch key.publicKey publicKey)
    refuseUnless same (blocked "The registered Lighter trading credential changed.")
    let nextNonce : Int ← lookup .getNextNonce
    refuseUnless (nextNonce == key.nonce) (blocked "Lighter returned inconsistent nonce evidence.")
    return nextNonce

/-- The order to cancel or to modify is still open and as it was approved. -/
def revalidateOrder (changed : JsString) : Step Unit := do
  lookup .getAccountActiveOrders
  let liveOrder : Option (ShownOrder OrderStatus) ← lookup .findExactOrder
  refuseUnless (liveOrder.any fun order => order.outcome == .open_)
    (blocked "The approved Lighter order is no longer active and open.")
  let _ ← lookup .lifecycleSnapshot
  let same ← lookup .sameSnapshot
  refuseUnless same (blocked changed)

/-- The evidence is recorded, the nonce observed, and the observed nonce reserved for the
intent in one transaction. -/
def reserve (intent : Intent) (nextNonce : Int) (unrecorded : JsString) : Step JsString := do
  let _ ← now
  let evidence ← lookup .evidenceJson
  let revalidated ← record ⟨.preSubmitRevalidated
    { intentId := intent.row.intentId, sessionId := intent.row.sessionId
      evidence := evidence }, rfl⟩
  refuseUnless revalidated.isSome (blocked unrecorded)
  let observed ← Program.perform (Aside.recordExecutionObserved nextNonce)
  refuseUnless observed (blocked "A previous Lighter nonce remains unresolved.")
  authority intent .beforeReservation
  Program.perform Aside.reserveNonce

def prepareCancelOne (intent : Intent) : Step JsString := do
  authority intent .beforeReservation
  assertCancelableIntent intent
  let publicKey ← authorizeAccount intent
  revalidateOrder "The approved Lighter order changed before cancel submission."
  let nextNonce ← revalidateCredential intent publicKey
  reserve intent nextNonce "The cancel intent could not persist revalidation."

def prepareModify (intent : Intent) : Step JsString := do
  authority intent .beforeReservation
  assertModifyIntent intent
  let publicKey ← authorizeAccount intent
  lookup .getMarkets
  let unchanged ← lookup .marketUnchanged
  refuseUnless unchanged
    (blocked "The Lighter market precision or active status changed before modify submission.")
  revalidateOrder "The approved Lighter order changed before modify submission."
  lookup .revalidateLighterOrderFees
  let nextNonce ← revalidateCredential intent publicKey
  Program.perform Aside.admitLighterModifyCapitalCommitment
  reserve intent nextNonce "The modify intent could not persist revalidation."

def prepareCancelAll (intent : Intent) : Step JsString := do
  authority intent .beforeReservation
  assertCancelAllIntent intent
  lookup .readStoredCancelAllOrders
  let publicKey ← authorizeAccount intent
  lookup .getAccountActiveOrders
  let unchanged ← lookup .activeOrdersUnchanged
  refuseUnless unchanged
    (blocked "The account-wide active-order set changed before cancel-all submission.")
  let nextNonce ← revalidateCredential intent publicKey
  reserve intent nextNonce "The cancel-all intent could not persist revalidation."

/-- A position that is not the approved one ends the intent, where nothing has moved it. -/
def refuseChangedPosition (intent : Intent) : Step Unit := do
  let rejected ← record ⟨.closePositionChanged intent.row.intentId intent.row.sessionId, rfl⟩
  refuseUnless rejected.isSome
    (blocked ("The approved Lighter position changed while its lifecycle state advanced " ++
      "concurrently. Reconcile it before any retry."))
  throw (blocked ("The approved Lighter position size, side, or entry changed before close " ++
    "submission. No lifecycle transaction was signed or submitted. Prepare a fresh close " ++
    "from current position and book state."))

def prepareClosePosition (intent : Intent) : Step JsString := do
  authority intent .beforeReservation
  assertClosePositionIntent intent
  lookup .readStoredCloseContext
  let publicKey ← authorizeAccount intent
  let _ ← Program.both (lookup .getAccount)
    (Program.both (lookup .getMarkets) (lookup .getOrderBookOrders))
  let account ← lookup .exactAccount
  refuseUnless account (blocked "The exact Lighter account changed or is unavailable.")
  let unchanged ← lookup .marketUnchanged
  refuseUnless unchanged
    (blocked "The Lighter close market or precision changed before submission.")
  lookup .exactOpenPosition
  let same ← lookup .sameApprovedClosePosition
  if !same then
    refuseChangedPosition intent
  lookup .assertCloseDepthAtApprovedPrice
  lookup .revalidateLighterOrderFees
  let nextNonce ← revalidateCredential intent publicKey
  reserve intent nextNonce "The close-position intent could not persist revalidation."

/-! ## After the submission -/

def ambiguousTransition (intent : Intent) (reason : JsString) :
    PlainTransition LifecycleIntents.Transition :=
  ⟨.ambiguous { intentId := intent.row.intentId, reason := reason }, rfl⟩

def markAndReturnAmbiguous (intent : Intent) (reason : JsString) : Step Result := do
  let _ ← record (ambiguousTransition intent reason)
  return .ambiguous reason

def markProviderOutcome (intent : Intent) (state : LifecycleIntents.OutcomeState) : Step Unit := do
  let evidence ← lookup .evidenceJson
  let _ ← record ⟨.providerOutcome
    { intentId := intent.row.intentId, state := state, evidence := evidence }, rfl⟩
  return ()

def isCanceledStatus (order : ShownOrder OrderStatus) : Bool := order.outcome == .canceled

def isTerminalOrderStatus (order : ShownOrder OrderStatus) : Bool :=
  order.outcome == .canceled || order.outcome == .ended

/-- The loop that all four share: up to four looks with growing pauses between them, until
one gives a result. What a look leaves behind is handed to the next, and to the record
that the outcome is pending. -/
def reconcile {β : Type} (look : β → Step (β × Option Result)) (pending : β → Step Result) :
    Nat → β → Step Result
  | 0, left => pending left
  | remaining + 1, left => do
    let attempt := maxReconciliationAttempts - (remaining + 1)
    if attempt ≠ 0 then
      Program.perform (Aside.wait (min 2000 (250 * 2 ^ attempt)))
    let (left, found) ← look left
    match found with
    | some result => return result
    | none => reconcile look pending remaining left

/-- What is done where no look has shown the outcome. -/
def endPending (intent : Intent) : Step Result := do
  markProviderOutcome intent .sequencerPending
  return .sequencerPending

/-- Both lists of orders, and the exact order in each. -/
def readOrders : Step (Option (ShownOrder OrderStatus) × Option (ShownOrder OrderStatus)) := do
  let _ ← Program.both (lookup .getAccountActiveOrders) (lookup .getAccountInactiveOrders)
  let active ← lookup .findExactOrder
  let inactive ← lookup .findExactOrder
  return (active, inactive)

def lookForCancel (intent : Intent) : Step (Option Result) := do
  let (stillActive, inactive) ← readOrders
  if stillActive.isNone && inactive.any isCanceledStatus then
    let _ ← lookup .lifecycleSnapshot
    markProviderOutcome intent .completed
    return some .canceled
  return none

def lookForModification (intent : Intent) : Step (Option Result) := do
  let (live, terminal) ← readOrders
  if (live <|> terminal).isNone then
    return none
  let matching ← lookup .matchesRequestedModification
  if !matching then
    return none
  let _ ← lookup .lifecycleSnapshot
  markProviderOutcome intent .completed
  swallow .markLighterOrderCapitalCommitmentSettled
  return some (if live.isNone then .modifiedThenTerminal else .modified)

def lookForCancelAll (intent : Intent) : Step (Option Result) := do
  let _ ← Program.both (lookup .getAccountActiveOrders) (lookup .getAccountInactiveOrders)
  let active : Nat ← lookup .activeOrderCount
  if active ≠ 0 then
    return none
  let outcomes : List (Option (ShownOrder OrderStatus)) ← lookup .findApprovedOrders
  if outcomes.any fun order => !order.any isTerminalOrderStatus then
    return none
  let _ ← lookup .lifecycleSnapshot
  markProviderOutcome intent .completed
  return some .cancelAllCompleted

/-- The terminal close order, kept from one look to the next. -/
abbrev ObservedOrder := Option (ShownOrder OrderStatus)

/-- The two reads of a look at a close; a failure of either only ends the look. -/
def readClose (observed : ObservedOrder) : Step (ObservedOrder × Bool) := do
  let order ← Program.attempt (do
    lookup .getAccountInactiveOrders
    lookup .findExactClientOrder)
  match order with
  | .ok (some order) =>
    if isTerminalOrderStatus order then
      let read ← Program.attempt (do
        let _ ← lookup .lifecycleSnapshot
        return ())
      if !read.isOk then
        return (observed, false)
      let account ← Program.attempt (lookup .getAccount)
      return (some order, account.isOk)
    else return (observed, false)
  | _ => return (observed, false)

def lookForClose (intent : Intent) (observed : ObservedOrder) :
    Step (ObservedOrder × Option Result) := do
  let (observed, read) ← readClose observed
  if !read then
    return (observed, none)
  let positions ← lookup .latestPositions
  if !positions then
    return (observed, none)
  let disposition ← lookup .confirmedLighterCloseDisposition
  match disposition with
  | none => return (observed, none)
  | some disposition => do
    markProviderOutcome intent .completed
    swallow .observeLighterFills
    return (observed, some (.closePosition disposition))

/-- A look that leaves nothing behind. -/
def once (look : Step (Option Result)) (_ : Unit) : Step (Unit × Option Result) := do
  let found ← look
  return ((), found)

def reconcileCancelOne (intent : Intent) : Step Result :=
  reconcile (once (lookForCancel intent)) (fun _ => endPending intent) maxReconciliationAttempts ()

def reconcileModify (intent : Intent) : Step Result :=
  reconcile (once (lookForModification intent)) (fun _ => endPending intent)
    maxReconciliationAttempts ()

def reconcileCancelAll (intent : Intent) : Step Result :=
  reconcile (once (lookForCancelAll intent)) (fun _ => endPending intent)
    maxReconciliationAttempts ()

def reconcileClosePosition (intent : Intent) : Step Result :=
  reconcile (lookForClose intent) (fun _ => endPending intent) maxReconciliationAttempts none

/-! ## Signing and sending -/

def withdrawal (intent : Intent) (retires : Bool) : Withdrawal LifecycleIntents.Transition where
  unsubmittedRefused reason := .unsubmittedRefused
    { intentId := intent.row.intentId, sessionId := intent.row.sessionId
      reservationId := reservationId intent, reason := reason }
  expiredUnsubmitted signerTxHash reason := .expiredUnsubmitted
    { intentId := intent.row.intentId, sessionId := intent.row.sessionId
      reservationId := reservationId intent, signerTxHash := signerTxHash, reason := reason }
  ambiguous := ambiguousTransition intent
  retires := retires

/-- The expiry that the signature of a lifecycle transaction carries. A close is signed as a
create order, which carries none. -/
def signerExpiry (expires : Bool) : Step (Option Instant) :=
  if expires then do
    let nowMs ← now
    return some (nowMs + signerExpiryMs)
  else return none

/-- `deps.now() >= signerExpiryMs`. -/
def assertWireUnexpired (expiry : Option Instant) : Step Unit :=
  match expiry with
  | none => return ()
  | some expiry => do
    let nowMs ← now
    refuseUnless (nowMs < expiry) (blocked "The signed lifecycle wire expiry elapsed before send.")

/-- What follows the provider's answer. An ambiguous outcome is recorded after the `try`
block; the reconciliation runs inside it. -/
def acceptResponse (intent : Intent) (conclude : Step Result) (signed : SignedTx)
    (response : SendTxResponse) : Step (Step Result) := do
  if response.code ≠ 200 ∨ response.txHash ≠ signed.txHash then
    return markAndReturnAmbiguous intent "send_tx_acceptance_mismatch"
  let accepted ← record ⟨.apiAccepted
    { intentId := intent.row.intentId, sessionId := intent.row.sessionId
      signerTxHash := signed.txHash, submittedTxHash := response.txHash
      submitCode := response.code, submitMessage := response.message
      predictedExecutionTimeMs := response.predictedExecutionTimeMs
      volumeQuotaRemaining :=
        response.volumeQuotaRemaining.map fun remaining => JsString.ofString (toString remaining) },
    rfl⟩
  if accepted.isNone then
    return markAndReturnAmbiguous intent "api_acceptance_persist_failed"
  let result ← conclude
  return pure result

/-- The `try` block of the four executors. -/
def signAndSend (intent : Intent) (expires : Bool) (conclude : Step Result) :
    Executor LifecycleIntents.Transition (Step Result) := do
  Program.aside (authority intent .afterReservation)
  Program.aside (authority intent .beforeSigning)
  Program.assign fun progress => { progress with signingStarted := true }
  let expiry ← Program.aside (signerExpiry expires)
  Program.aside (lookup .buildSigningInput)
  let signed ← submission (.sign expiry)
  Program.assign fun progress =>
    { progress with
      signerExited := lighterSignerRunExited .resolved
      signerTxHash := some signed.txHash }
  let signedRow ← persistLighterSigningEvidence (mark (.signed
    { intentId := intent.row.intentId, sessionId := intent.row.sessionId
      reservationId := reservationId intent, signerTxHash := signed.txHash
      signerExpiryMs := expiry }))
  if signedRow.isNone then
    return markAndReturnAmbiguous intent "signed_state_persist_failed"
  Program.aside (authority intent .afterSigning)
  let staged ← mark (.submissionStaged
    { intentId := intent.row.intentId, sessionId := intent.row.sessionId
      signerTxHash := signed.txHash })
  if staged.isNone then
    throw (intentRefusal .submissionAdmissionRefused)
  admitSendAttempt (some intent.row.expiresAt) (.sendAttemptStarted
    { intentId := intent.row.intentId, sessionId := intent.row.sessionId
      signerTxHash := signed.txHash })
  Program.aside (authority intent .beforeSubmission)
  Program.aside (assertWireUnexpired expiry)
  let response ← Program.attempt (sendTx signed)
  match response with
  | .error _ => return markAndReturnAmbiguous intent "send_tx_transport_ambiguous"
  | .ok response => Program.aside (acceptResponse intent conclude signed response)

/-! ## The executors -/

def execute {α : Type} (intent : Intent) (prepare : Step α) (expires retires : Bool)
    (conclude : Step Result) : Executor LifecycleIntents.Transition Result := do
  let _ ← Program.aside prepare
  withdrawing (withdrawal intent retires) (signAndSend intent expires conclude)

def executeApprovedLighterCancelOne (intent : Intent) :
    Executor LifecycleIntents.Transition Result :=
  execute intent (prepareCancelOne intent) true false (reconcileCancelOne intent)

/-- Only a modification holds capital, so only it retires a commitment. -/
def executeApprovedLighterModifyOrder (intent : Intent) :
    Executor LifecycleIntents.Transition Result :=
  execute intent (prepareModify intent) true true (reconcileModify intent)

def executeApprovedLighterCancelAll (intent : Intent) :
    Executor LifecycleIntents.Transition Result :=
  execute intent (prepareCancelAll intent) true false (reconcileCancelAll intent)

/-- A close is signed as a create order, without an expiry of the signature. -/
def executeApprovedLighterClosePosition (intent : Intent) :
    Executor LifecycleIntents.Transition Result :=
  execute intent (prepareClosePosition intent) false false (reconcileClosePosition intent)

end Vex.Lighter.OrderLifecycleExecution
