import Vex.Lighter.Executions
import Vex.Lighter.OrderIntents

/-!
# The executor of create orders

`executeApprovedLighterCreateOrder` with what it calls: the revalidation of the live
order state, the credential of the provider, the signing and sending of the order, and
the reconciliation of what the provider made of it.
-/

namespace Vex.Lighter.OrderCreateExecution

open Vex.Library Vex.Lighter.Executions

instance : IntentStore OrderIntents.Transition where
  Row := OrderIntents.Row
  Outcome := OrderIntents.ProviderOutcomeState
  mark
    | .signed input => some (.signed input.signerTxHash)
    | .submitted input => some (.staged input.signerTxHash)
    | .sendAttemptStarted input => some (.sendAttemptStarted input.signerTxHash)
    | .expiredUnsubmitted _ => some .unsubmitted
    | .unsubmittedRefused _ => some .unsubmitted
    | _ => none

inductive Side where
  | buy
  | sell
  deriving DecidableEq

/-- What the executor reads of `LighterOrderReadyForSignerPlan`. -/
structure Plan where
  intentId : JsString
  sessionId : JsString
  environment : Environment
  accountIndex : Nat
  apiKeyIndex : Nat
  side : Side
  expiresAt : Option Instant

inductive Result where
  | sequencerPending (signerTxHash submittedTxHash : JsString)
  | providerConfirmed (state : OrderIntents.ProviderOutcomeState)
      (signerTxHash submittedTxHash : JsString)
  | ambiguous (reason signerTxHash : JsString)

abbrev Step (α : Type) := Preparation OrderIntents.Transition α

def minWireOrderExpiryRemainingMs : Int := 5 * 60 * 1000

def providerOutcomeActiveAttempts : Nat := 3

def providerOutcomeMinDelayMs : Int := 100

def providerOutcomeMaxDelayMs : Int := 2000

def lighterOrderNonceReservationId (intentId : JsString) : JsString := "lighter-order:" ++ intentId

def blockedBeforeSubmit (message : JsString) : Failure := invalidRequest message

/-! ## Checks -/

def wireOrderExpiryHasRequiredRemainingTime (order : UnsignedOrder) (nowMs : Instant) : Bool :=
  order.orderExpiryMs == 0 || nowMs + minWireOrderExpiryRemainingMs ≤ order.orderExpiryMs

def assertWireOrderExpiryBeforeSigning (order : UnsignedOrder) : Step Unit := do
  let nowMs ← now
  refuseUnless (wireOrderExpiryHasRequiredRemainingTime order nowMs)
    (blockedBeforeSubmit ("The approved Lighter wire order expiry fell below the provider's " ++
      "five-minute minimum while live checks were running. No nonce was reserved and no " ++
      "order was signed or submitted."))

def assertWireOrderExpiryBeforeSubmission (order : UnsignedOrder) : Step Unit := do
  let nowMs ← now
  refuseUnless (wireOrderExpiryHasRequiredRemainingTime order nowMs)
    (invalidRequest ("The signed Lighter order fell below the provider's five-minute expiry " ++
      "minimum before submission, so Vex did not send it."))

def assertProviderPublicKeyMatches (provider signer : JsString) : Step Unit := do
  let same ← lookup (.publicKeysMatch provider signer)
  refuseUnless same
    (blockedBeforeSubmit ("The encrypted Lighter trading key does not match the public key " ++
      "registered for the approved account scope. No nonce was reserved and no order was " ++
      "signed or submitted."))

/-! ## Before the reservation -/

def revalidateLiveOrderState (plan : Plan) : Step Unit := do
  let approvedPreview ← lookup .findFreshPreviewById
  refuseUnless approvedPreview
    (blockedBeforeSubmit ("The exact approved Lighter preview is no longer fresh or " ++
      "available. No trading key was loaded and no order was signed or submitted."))
  let live ← Program.attempt (Program.both (lookup .getMarketDetails)
      (Program.both (lookup .getOrderBookOrders) (lookup .getAccount)))
  refuseUnless live.isOk
    (blockedBeforeSubmit ("Live Lighter market or account state is unavailable for " ++
      "post-approval revalidation. No trading key was loaded and no order was signed or " ++
      "submitted."))
  let marketDetail : Option MarketType ← lookup .marketDetail
  refuseUnless marketDetail.isSome
    (blockedBeforeSubmit ("Lighter did not return the approved market during post-approval " ++
      "revalidation. No trading key was loaded and no order was signed or submitted."))
  lookup .revalidateLighterOrderFees
  if marketDetail == some .spot && plan.side == .buy then
    lookup .readLighterOrderAccountFeeTicks
  Program.perform Aside.readmitLighterOrderCapitalCommitmentAtExecute
  let _ ← now
  let evidence ← lookup .revalidateApprovedLighterOrder
  let persisted ← record ⟨.preSubmitRevalidated
    { intentId := plan.intentId, sessionId := plan.sessionId
      environment := plan.environment, evidence := evidence }, rfl⟩
  refuseUnless persisted.isSome
    (blockedBeforeSubmit ("Lighter pre-submit revalidation evidence could not be persisted. " ++
      "No trading key was loaded and no order was signed or submitted."))

/-- The key of the approved scope and the nonce the provider expects next. -/
structure ProviderCredential where
  publicKey : JsString
  nextNonce : Int
  transactionTime : Int
  deriving DecidableEq

/-- The one key the provider has for the approved account and key index. -/
def exactApiKey (plan : Plan) (apiKeys : List ProviderApiKey) : Option ProviderApiKey :=
  match apiKeys.filter fun key =>
    key.accountIndex == plan.accountIndex && key.apiKeyIndex == plan.apiKeyIndex with
  | [key] => some key
  | _ => none

def readLiveProviderCredential (plan : Plan) : Step ProviderCredential := do
  let live ← Program.attempt (Program.both (lookup .getApiKeys) (lookup .getNextNonce))
  match live with
  | .error _ =>
    throw (blockedBeforeSubmit ("Lighter API-key identity or next nonce is unavailable. " ++
      "No trading key was loaded and no order was signed or submitted."))
  | .ok (apiKeys, nextNonce) =>
    match exactApiKey plan apiKeys with
    | none =>
      throw (blockedBeforeSubmit ("The exact Lighter trading API key is not registered " ++
        "for the approved account scope. No trading key was loaded and no order was " ++
        "signed or submitted."))
    | some key => return ⟨key.publicKey, nextNonce, key.transactionTime⟩

def assertProviderOutcomeRepairReady : Step Unit := do
  let live ← Program.attempt (Program.both (lookup .getAccountActiveOrders)
      (Program.both (lookup .getAccountInactiveOrders) (lookup .getAccountTrades)))
  refuseUnless live.isOk
    (blockedBeforeSubmit ("Lighter provider outcome repair is unavailable before " ++
      "submission. No order was signed or submitted."))
  let existingOrder ← lookup .findMatchingLighterOrder
  let existingTrade ← lookup .findMatchingLighterTrade
  refuseUnless (existingOrder.isNone && existingTrade.isNone)
    (blockedBeforeSubmit ("A Lighter order or trade with the same Vex client order id is " ++
      "already visible before submission. No order was signed or submitted."))

structure Prepared where
  unsignedOrder : UnsignedOrder
  nonceValue : JsString
  deriving DecidableEq

/-- The executor up to the reservation of the nonce. `supplied` says that the caller has
handed over an unsigned order of its own. -/
def prepare (plan : Plan) (supplied : Bool) : Step Prepared := do
  assertAuthority plan.expiresAt .beforeReservation
  let unsignedOrder ← lookup .buildLighterUnsignedCreateOrderRequest
  if supplied then
    lookup .assertUnsignedOrderMatchesApprovedPlan
  lookup .assertLighterTradingApiKeyIndexAllowed
  lookup .assertLighterPhaseOneOrderPolicy
  revalidateLiveOrderState plan
  lookup .buildLighterOrderEvidenceScope
  let providerCredential ← readLiveProviderCredential plan
  lookup .loadLighterTradingSecretMaterial
  assertAuthority plan.expiresAt .beforeReservation
  let _ ← now
  let publicKey ← lookup .createLighterAccountAuthWithAdapter
  assertProviderPublicKeyMatches providerCredential.publicKey publicKey
  let (_, observedNonce) ← Program.both assertProviderOutcomeRepairReady
    (Program.perform (Aside.recordExecutionObserved providerCredential.nextNonce))
  refuseUnless observedNonce
    (blockedBeforeSubmit ("The live Lighter nonce has not advanced beyond an unresolved " ++
      "local reservation. No order was signed or submitted. Run lighter.order.status to " ++
      "reconcile the stuck reservation from provider evidence before preparing another " ++
      "order."))
  assertWireOrderExpiryBeforeSigning unsignedOrder
  assertAuthority plan.expiresAt .beforeReservation
  let nonceValue ← Program.perform Aside.reserveNonce
  return ⟨unsignedOrder, nonceValue⟩

/-! ## Ambiguous outcomes -/

def ambiguousTransition (plan : Plan) (reason : JsString) :
    PlainTransition OrderIntents.Transition :=
  ⟨.ambiguous { intentId := plan.intentId, sessionId := plan.sessionId
                environment := plan.environment, reason := reason }, rfl⟩

def markAmbiguous (plan : Plan) (reason : JsString) : Step Unit := do
  let _ ← record (ambiguousTransition plan reason)
  return ()

/-- `await markAmbiguous(…); return ambiguous(…)`. -/
def endAmbiguous (plan : Plan) (reason signerTxHash : JsString) : Step Result := do
  markAmbiguous plan reason
  return .ambiguous reason signerTxHash

def sendTxAmbiguousReason (error : Failure) : JsString :=
  match error.code with
  | none => "sendtx_failed_after_submit_attempt"
  | some code =>
    let parts := match error.httpStatus with
      | none => "code=" ++ code
      | some status => "code=" ++ code ++ ",http=" ++ toString status
    JsString.ofString ("sendtx_failed_after_submit_attempt:" ++ parts)

/-! ## After the submission -/

structure Submitted where
  signerTxHash : JsString
  submittedTxHash : JsString
  clientOrderIndex : JsString
  predictedExecutionTimeMs : Int

def providerOutcomeDelayMs (predictedExecutionTimeMs : Int) : Int :=
  min providerOutcomeMaxDelayMs (max providerOutcomeMinDelayMs predictedExecutionTimeMs)

/-- `LIGHTER_CREATE_SETTLED_PROVIDER_STATES`. -/
def settledProviderStates : List OrderIntents.ProviderOutcomeState := [.filled, .canceled, .rejected]

def observeFillsFromOrderEvidence (state : OrderIntents.ProviderOutcomeState)
    (source : OrderIntents.ProviderOutcomeSource) : Step Unit :=
  if (state = .filled ∨ state = .partiallyFilled) ∧
      (source = .activeOrder ∨ source = .inactiveOrder) then
    swallow .observeLighterFills
  else pure ()

def providerOutcomeTransition (plan : Plan) (source : OrderIntents.ProviderOutcomeSource)
    (state : OrderIntents.ProviderOutcomeState) (orderId status : Option JsString)
    (evidence : JsString) : PlainTransition OrderIntents.Transition :=
  ⟨.providerOutcome
    { intentId := plan.intentId, sessionId := plan.sessionId, environment := plan.environment
      state := state, source := source, providerOrderId := orderId
      providerOrderStatus := status, providerOutcomeJson := evidence }, rfl⟩

/-- What a stream may have committed while the orders were being read. -/
def confirmedElsewhere (plan : Plan) (submitted : Submitted)
    (order : ShownOrder OrderIntents.ProviderOutcomeState) (current : OrderIntents.Row) : Bool :=
  current.sessionId == plan.sessionId && current.environment == plan.environment &&
    current.approvalStatus == .approved &&
    current.clientOrderIndex == some submitted.clientOrderIndex.decimalValue &&
    current.providerOrderId == some order.orderId && current.executionState == .filled &&
    current.providerOutcomeSource == some .inactiveOrder

def persistProviderOutcome (plan : Plan) (submitted : Submitted)
    (source : OrderIntents.ProviderOutcomeSource)
    (order : ShownOrder OrderIntents.ProviderOutcomeState) : Step Result := do
  let persisted ← record (providerOutcomeTransition plan source order.outcome
    (some order.orderId) order.status order.evidence)
  if persisted.isNone then
    let current ← lookup .findByIntentIdAnySession
    if current.any (confirmedElsewhere plan submitted order) then
      observeFillsFromOrderEvidence .filled .inactiveOrder
      return .providerConfirmed .filled submitted.signerTxHash submitted.submittedTxHash
    return ← endAmbiguous plan "provider_outcome_persist_failed" submitted.signerTxHash
  observeFillsFromOrderEvidence order.outcome source
  if order.outcome ∈ settledProviderStates then
    swallow .markLighterOrderCapitalCommitmentSettled
  if order.outcome = .sequencerPending then
    return .sequencerPending submitted.signerTxHash submitted.submittedTxHash
  return .providerConfirmed order.outcome submitted.signerTxHash submitted.submittedTxHash

def persistProviderOutcomeSafely (plan : Plan) (submitted : Submitted)
    (source : OrderIntents.ProviderOutcomeSource)
    (order : ShownOrder OrderIntents.ProviderOutcomeState) : Step Result :=
  tryCatch (persistProviderOutcome plan submitted source order) fun _ =>
    endAmbiguous plan "provider_outcome_persist_failed" submitted.signerTxHash

/-- The reads of the active orders, with a growing pause between them. -/
def findActiveOrder (delayMs : Int) :
    Nat → Step (Option (ShownOrder OrderIntents.ProviderOutcomeState))
  | 0 => return none
  | remaining + 1 => do
    lookup .getAccountActiveOrders
    let active ← lookup .findMatchingLighterOrder
    if active.isSome then
      return active
    if remaining ≠ 0 then
      Program.perform (Aside.wait (delayMs * (providerOutcomeActiveAttempts - remaining)))
    findActiveOrder delayMs remaining

/-- The part of `reconcileProviderOutcome` in its `try` block: the result where the
provider shows the order, and nothing where it does not. -/
def findProviderOutcome (plan : Plan) (submitted : Submitted) : Step (Option (Step Result)) := do
  let active ← findActiveOrder (providerOutcomeDelayMs submitted.predictedExecutionTimeMs)
    providerOutcomeActiveAttempts
  if let some order := active then
    return some (persistProviderOutcomeSafely plan submitted .activeOrder order)
  lookup .getAccountInactiveOrders
  let inactive ← lookup .findMatchingLighterOrder
  if let some order := inactive then
    return some (persistProviderOutcomeSafely plan submitted .inactiveOrder order)
  lookup .getAccountTrades
  swallow .observeLighterFills
  let trade ← lookup .findMatchingLighterTrade
  return trade.map (persistProviderOutcomeSafely plan submitted .accountTrade)

def reconcileProviderOutcome (plan : Plan) (submitted : Submitted) : Step Result := do
  let found ← Program.attempt (findProviderOutcome plan submitted)
  match found with
  | .error error =>
    endAmbiguous plan
      (if error.evidenceConflict then error.message else "provider_outcome_read_failed")
      submitted.signerTxHash
  | .ok (some conclude) => conclude
  | .ok none => do
    let evidence ← lookup .evidenceJson
    let persisted ← Program.attempt
      (record (providerOutcomeTransition plan .notFound .sequencerPending none none evidence))
    match persisted with
    | .ok (some _) =>
      return .sequencerPending submitted.signerTxHash submitted.submittedTxHash
    | _ => endAmbiguous plan "provider_outcome_persist_failed" submitted.signerTxHash

/-! ## Signing and sending -/

def withdrawal (plan : Plan) : Withdrawal OrderIntents.Transition where
  unsubmittedRefused reason := .unsubmittedRefused
    { intentId := plan.intentId, sessionId := plan.sessionId
      reservationId := lighterOrderNonceReservationId plan.intentId, reason := reason }
  expiredUnsubmitted signerTxHash reason := .expiredUnsubmitted
    { intentId := plan.intentId, sessionId := plan.sessionId
      reservationId := lighterOrderNonceReservationId plan.intentId
      signerTxHash := signerTxHash, reason := reason }
  ambiguous := ambiguousTransition plan
  retires := true

def acceptResponse (plan : Plan) (prepared : Prepared) (signed : SignedTx)
    (response : SendTxResponse) : Step (Step Result) := do
  if response.code ≠ 200 then
    return ← pure <$> endAmbiguous plan "provider_non_acceptance_code" signed.txHash
  if response.txHash ≠ signed.txHash then
    return ← pure <$> endAmbiguous plan "provider_tx_hash_mismatch" signed.txHash
  let accepted ← Program.attempt (record ⟨.apiAccepted
    { intentId := plan.intentId, sessionId := plan.sessionId, environment := plan.environment
      signerTxHash := signed.txHash, submittedTxHash := response.txHash
      submitCode := response.code, submitMessage := response.message
      predictedExecutionTimeMs := response.predictedExecutionTimeMs
      volumeQuotaRemaining := response.volumeQuotaRemaining }, rfl⟩)
  match accepted with
  | .ok (some _) => do
    let pending ← record ⟨.sequencerPending
      { intentId := plan.intentId, sessionId := plan.sessionId
        environment := plan.environment, signerTxHash := signed.txHash
        submittedTxHash := response.txHash }, rfl⟩
    if pending.isNone then
      return ← pure <$> endAmbiguous plan "sequencer_pending_persist_failed" signed.txHash
    return reconcileProviderOutcome plan
      ⟨signed.txHash, response.txHash, prepared.unsignedOrder.clientOrderIndex,
        response.predictedExecutionTimeMs⟩
  | _ => pure <$> endAmbiguous plan "api_acceptance_persist_failed" signed.txHash

/-- The `try` block of the executor. -/
def signAndSend (plan : Plan) (prepared : Prepared) :
    Executor OrderIntents.Transition (Step Result) := do
  Program.aside (assertAuthority plan.expiresAt .afterReservation)
  Program.aside (assertAuthority plan.expiresAt .beforeSigning)
  Program.aside (assertWireOrderExpiryBeforeSigning prepared.unsignedOrder)
  Program.assign fun progress => { progress with signingStarted := true }
  Program.aside (lookup .buildSigningInput)
  let signed ← submission (.sign none)
  Program.assign fun progress =>
    { progress with
      signerExited := lighterSignerRunExited .resolved
      signerTxHash := some signed.txHash }
  let signedIntent ← persistLighterSigningEvidence (mark (.signed
    { intentId := plan.intentId, sessionId := plan.sessionId, environment := plan.environment
      nonceReservationId := lighterOrderNonceReservationId plan.intentId
      nonceValue := prepared.nonceValue
      clientOrderIndex := prepared.unsignedOrder.clientOrderIndex
      signerTxHash := signed.txHash }))
  if signedIntent.isNone then
    Program.aside (markAmbiguous plan "signed_state_persist_failed")
    throw (blockedBeforeSubmit ("Lighter order execution intent " ++ plan.intentId ++
      " could not persist signed state."))
  Program.aside (assertAuthority plan.expiresAt .afterSigning)
  Program.aside (assertWireOrderExpiryBeforeSubmission prepared.unsignedOrder)
  let submitted ← mark (.submitted
    { intentId := plan.intentId, sessionId := plan.sessionId, environment := plan.environment
      signerTxHash := signed.txHash })
  if submitted.isNone then
    Program.aside (assertAuthority plan.expiresAt .beforeSubmission)
    throw (intentRefusal .submissionAdmissionRefused)
  admitSendAttempt plan.expiresAt (.sendAttemptStarted
    { intentId := plan.intentId, sessionId := plan.sessionId, signerTxHash := signed.txHash })
  Program.aside (assertAuthority plan.expiresAt .beforeSubmission)
  Program.aside (assertWireOrderExpiryBeforeSubmission prepared.unsignedOrder)
  let response ← Program.attempt (sendTx signed)
  match response with
  | .error error =>
    Program.aside (pure <$> endAmbiguous plan (sendTxAmbiguousReason error) signed.txHash)
  | .ok response => Program.aside (acceptResponse plan prepared signed response)

def executeApprovedLighterCreateOrder (plan : Plan) (supplied : Bool) :
    Executor OrderIntents.Transition Result := do
  let prepared ← Program.aside (prepare plan supplied)
  withdrawing (withdrawal plan) (signAndSend plan prepared)

end Vex.Lighter.OrderCreateExecution
