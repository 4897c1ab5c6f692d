import Vex.Library.DecimalText
import Vex.Library.LetterCase
import Vex.Library.Programs

/-!
# Signing, staging and sending one transaction

`signStageBroadcast` estimates, prepares and signs one transaction, hands its hash
to a hook, and only then sends it and waits for its receipt. It is a program over
its calls: the requests to the node, the hooks, the resolution of a signer, and the
leases it holds and gives back. Each of them may answer anything or fail.

The signer is given (`eager`) or resolved when everything is prepared (`deferred`).
The estimate of a leg is one call, and so is the signature, which of a given signer
asks the node for its chain first. The clock of the receipt wait is a call.
-/

namespace Vex.Evm.StagedBroadcast

open Vex.Library Vex.Library.JsString

/-! ## Requests and answers -/

/-- `StagedTxParams`, with the value that is meant. -/
structure StagedTxParams where
  to_ : JsString
  data : JsString
  value : Nat
  deriving DecidableEq

structure FeeFields where
  gasPrice : Option Nat
  maxFeePerGas : Option Nat
  maxPriorityFeePerGas : Option Nat
  deriving DecidableEq

/-- What `prepareTransactionRequest` is given. -/
structure PrepareArgs where
  account : JsString
  chainId : Nat
  tx : StagedTxParams
  gas : Nat
  fees : FeeFields
  /-- Only the chain, the nonce and the type are to be filled. -/
  feesGiven : Bool
  deriving DecidableEq

structure Request where
  to_ : Option JsString
  data : Option JsString
  value : Option Nat
  gas : Option Nat
  nonce : Option Nat
  chainId : Option Nat
  fees : FeeFields
  deriving DecidableEq

structure FinalSignedRequest where
  to_ : Option JsString
  data : Option JsString
  value : Nat
  gas : Nat
  nonce : Nat
  fees : FeeFields
  deriving DecidableEq

structure StagedSendHandles where
  txHash : JsString
  fromAddress : JsString
  nonce : Nat
  deriving DecidableEq

structure ResolvedSigner where
  address : JsString
  chainId : Nat
  local_ : Bool
  deriving DecidableEq

inductive ReplacementReason where
  | repriced
  | replaced
  | cancelled
  deriving DecidableEq

structure ReceiptReplacementEvidence where
  reason : ReplacementReason
  replacedTxHash : JsString
  replacementTxHash : JsString
  fromAddress : JsString
  nonce : Nat
  to_ : Option JsString
  data : JsString
  value : Nat
  gas : Nat
  maxFeePerGas : Option Nat
  maxPriorityFeePerGas : Option Nat
  deriving DecidableEq

/-- What is read of a `TransactionReceipt`. -/
structure TransactionReceipt where
  success : Bool
  blockNumber : Nat
  deriving DecidableEq

/-- `ReceiptWithReplacementEvidence`. -/
structure ReceiptWithReplacement where
  receipt : TransactionReceipt
  replacement : Option ReceiptReplacementEvidence
  deriving DecidableEq

/-- What the sequence throws itself, and what its calls throw. -/
inductive Failure where
  | error (message : JsString)
  | feeBoundsExceeded (field : JsString) (actual approved : Nat)
  | deferredSignerIdentity (field : JsString)
  | deferredOfflineSignerUnavailable
  | nonceMismatch (chainId : Nat) (reserved pending : Int)
  | receiptWaitDeadline
  | unattributedReplacement
  deriving DecidableEq

inductive Call where
  | acquireEvmNonceOwner (address : JsString) (chainId : Nat)
  | releaseNonceOwner
  | releaseReservations
  | estimateGasForPlanLeg (account : JsString) (tx : StagedTxParams)
  | estimateFeesPerGas
  | prepareTransactionRequest (args : PrepareArgs)
  | onNonceReserved (address : JsString) (chainId nodePendingNonce : Nat)
  | deferredBeforeSign (request : FinalSignedRequest)
  | createSigner
  | validateNonceReservationScope
  | getTransactionCount (address : JsString)
  | onBeforeSign (request : FinalSignedRequest)
  | signTransaction (request : Request)
  | signOffline (request : Request)
  | onHashStaged (handles : StagedSendHandles)
  | sendRawTransaction (serialized : JsString)
  | onAccepted
  | performanceNow
  | waitForTransactionReceipt (hash : JsString) (timeout : Nat)
  | delay (ms : Nat)
  deriving DecidableEq

abbrev Call.Answer : Call → Type
  | .estimateGasForPlanLeg _ _ => Nat
  | .estimateFeesPerGas => Nat × Nat
  | .prepareTransactionRequest _ => Request
  | .onNonceReserved _ _ _ => Int
  | .createSigner => ResolvedSigner
  | .getTransactionCount _ => Int
  | .signTransaction _ => JsString
  | .signOffline _ => JsString
  | .performanceNow => Nat
  | .waitForTransactionReceipt _ _ => ReceiptWithReplacement
  | _ => Unit

def Call.asksNode : Call → Bool
  | .estimateGasForPlanLeg _ _ => true
  | .estimateFeesPerGas => true
  | .prepareTransactionRequest _ => true
  | .getTransactionCount _ => true
  | .signTransaction _ => true
  | .sendRawTransaction _ => true
  | .waitForTransactionReceipt _ _ => true
  | _ => false

abbrev Broadcast (α : Type) := Program Call Call.Answer Unit Failure α

def ask (call : Call) : Broadcast call.Answer := Program.perform call

abbrev BroadcastEvent := Program.Event Call.Answer Failure

inductive StagedSigner where
  | eager (address : JsString) (chainId : Nat)
  | deferred (address : JsString) (chainId : Nat)

def StagedSigner.address : StagedSigner → JsString
  | .eager address _ => address
  | .deferred address _ => address

def StagedSigner.chainId : StagedSigner → Nat
  | .eager _ chainId => chainId
  | .deferred _ chainId => chainId

/-- `ReceiptWaitRetryOptions`, with their defaults. -/
structure ReceiptWaitRetryOptions where
  delayMs : Nat
  attempts : Nat
  deadlineMs : Nat
  deriving DecidableEq

def receiptWaitAttempts : Nat := 3

inductive StagedFeePolicy where
  | eip1559 (gasLimit : Option Nat) (maxFeePerGasWei maxPriorityFeePerGasWei : Nat)
  | legacy (gasLimit : Option Nat) (gasPriceWei : Nat)
  | exposure (gasLimit maxFeePerGas maxPriorityFeePerGas maxNetworkFeeWei : Nat)

/-- `StagedBroadcastOutcome`. -/
inductive Outcome where
  | confirmed (txHash : JsString) (receipt : TransactionReceipt)
      (replacement : Option ReceiptReplacementEvidence)
  | reverted (txHash : JsString) (receipt : TransactionReceipt)
      (replacement : Option ReceiptReplacementEvidence)
  | ambiguousSend (txHash reason : JsString)
  | ambiguousConfirm (txHash reason : JsString)
  deriving DecidableEq

/-! ## Fees -/

def gasLimitWithHeadroom (gasEstimate : Nat) : Nat := gasEstimate * 200 / 100

/-- A missing number is above every ceiling. -/
def above (actual : Option Nat) (approved : Nat) : Bool :=
  match actual with
  | none => true
  | some actual => approved < actual

def assertField (field : JsString) (actual : Option Nat) (approved : Nat) : Except Failure Unit :=
  if above actual approved then .error (.feeBoundsExceeded field (actual.getD 0) approved) else .ok ()

def assertGasLimit (actual : Option Nat) (approved : Option Nat) : Except Failure Unit :=
  match approved with
  | none => .ok ()
  | some approved => assertField "gas limit" actual approved

/-- `assertWithinFeeBounds`, and the last check of an exposure limit. -/
def assertFees (policy : Option StagedFeePolicy) (gasLimit : Nat) (request : Request) :
    Except Failure Unit :=
  match policy with
  | none => .ok ()
  | some (.eip1559 limit maxFee maxPriority) => do
    assertGasLimit request.gas limit
    assertField "maxFeePerGas" request.fees.maxFeePerGas maxFee
    assertField "maxPriorityFeePerGas" request.fees.maxPriorityFeePerGas maxPriority
  | some (.legacy limit gasPrice) => do
    assertGasLimit request.gas limit
    assertField "gasPrice" request.fees.gasPrice gasPrice
  | some (.exposure _ maxFee maxPriority maxNetworkFee) =>
    if above request.fees.maxFeePerGas maxFee ∨ above request.fees.maxPriorityFeePerGas maxPriority
        ∨ above (request.fees.maxFeePerGas.map (gasLimit * ·)) maxNetworkFee then
      .error (.error (("Refusing to sign: prepared EIP-1559 fees exceed the approved transaction "
        ++ "ceiling." : String) : JsString))
    else .ok ()

def readExposureFees (policy : Option StagedFeePolicy) (gasLimit : Nat) :
    Broadcast (Option (Nat × Nat)) :=
  match policy with
  | some (.exposure limit maxFee maxPriority maxNetworkFee) => do
    let estimated ← ask Call.estimateFeesPerGas
    if limit < gasLimit ∨ maxFee < estimated.1 ∨ maxPriority < estimated.2
        ∨ maxNetworkFee < gasLimit * estimated.1 then
      throw (.error (("Refusing to sign: live gas or EIP-1559 fees exceed the approved transaction "
        ++ "ceiling." : String) : JsString))
    else pure (some estimated)
  | _ => pure none

def givenFees (policy : Option StagedFeePolicy) (exposureFees : Option (Nat × Nat)) : FeeFields :=
  match exposureFees, policy with
  | some (maxFee, maxPriority), _ => ⟨none, some maxFee, some maxPriority⟩
  | none, some (.eip1559 _ maxFee maxPriority) => ⟨none, some maxFee, some maxPriority⟩
  | none, some (.legacy _ gasPrice) => ⟨some gasPrice, none, none⟩
  | none, _ => ⟨none, none, none⟩

def feesGiven : Option StagedFeePolicy → Bool
  | some (.eip1559 _ _ _) => true
  | some (.legacy _ _) => true
  | _ => false

/-! ## Before the signature -/

def liftExcept {α : Type} : Except Failure α → Broadcast α
  | .ok value => pure value
  | .error failure => throw failure

/-- The nonce is reserved for the one the node has pending, and is a safe integer. -/
def reserveNonce (signer : StagedSigner) (request : Request) : Broadcast Nat :=
  match request.nonce with
  | none => throw (.error ("signStageBroadcast: prepared transaction request has no nonce" : String))
  | some nodePendingNonce => do
    let nonce ← ask (Call.onNonceReserved signer.address signer.chainId nodePendingNonce)
    if nonce < 0 ∨ 9007199254740991 < nonce then
      throw (.error (("signStageBroadcast: durable nonce reservation returned an invalid nonce" :
        String) : JsString))
    else pure nonce.toNat

def Request.signed (request : Request) (nonce gas : Nat) : Request :=
  { request with nonce := some nonce, gas := some gas }

def Request.final (request : Request) (nonce gas : Nat) : FinalSignedRequest :=
  ⟨request.to_, request.data, request.value.getD 0, gas, nonce, request.fees⟩

/-- Addresses are compared in lower case. -/
def sameText (one other : JsString) : Bool := one.map lowerAscii = other.map lowerAscii

/-- `resolveDeferredSigner`; a given signer is there. -/
def resolveSigner (signer : StagedSigner) (request : FinalSignedRequest) :
    Broadcast (Option ResolvedSigner) :=
  match signer with
  | .eager _ _ => pure none
  | .deferred address chainId => do
    ask (Call.deferredBeforeSign request)
    let wallet ← ask Call.createSigner
    if sameText wallet.address address = false then
      throw (.deferredSignerIdentity ("account" : JsString))
    else if wallet.chainId ≠ chainId then throw (.deferredSignerIdentity ("chain" : JsString))
    else pure (some wallet)

def assertReservedNonceMatchesPending (address : JsString) (chainId nonce : Nat) : Broadcast Unit := do
  ask Call.validateNonceReservationScope
  let pending ← ask (Call.getTransactionCount address)
  if pending < 0 ∨ 9007199254740991 < pending then
    throw (.error ("The pending nonce could not be read before signing" : String))
  else if pending ≠ nonce then throw (.nonceMismatch chainId nonce pending)
  else pure ()

/-- The signature: by the action of a given wallet, or offline. -/
def sign (signer : StagedSigner) (wallet : Option ResolvedSigner) (request : Request) :
    Broadcast JsString :=
  match wallet with
  | none => ask (Call.signTransaction request)
  | some wallet =>
    if wallet.local_ = false then throw .deferredOfflineSignerUnavailable
    else if ∃ chainId ∈ request.chainId, chainId ≠ signer.chainId then
      throw (.deferredSignerIdentity ("chain" : JsString))
    else ask (Call.signOffline { request with chainId := some signer.chainId })

/-! ## After it -/

section Describe

variable (keccak256 : JsString → JsString) (describeFailureForLog : Failure → JsString)

def remaining (retry : ReceiptWaitRetryOptions) : Broadcast Nat := do
  let elapsed ← ask Call.performanceNow
  pure (retry.deadlineMs - elapsed)

/-- The pause after a failed attempt that was not the last. -/
def pause (retry : ReceiptWaitRetryOptions) (attempt : Nat) : Broadcast Unit :=
  if attempt < retry.attempts then do
    let left ← remaining retry
    ask (Call.delay (min left (retry.delayMs * 2 ^ (attempt - 1))))
  else pure ()

def waitAttempts (retry : ReceiptWaitRetryOptions) (hash : JsString) :
    Nat → Nat → Failure → Broadcast ReceiptWithReplacement
  | 0, _, lastError => throw lastError
  | left + 1, attempt, _ => do
    let budget ← remaining retry
    if budget = 0 then throw .receiptWaitDeadline
    else do
      let waited ← Program.attempt (ask (Call.waitForTransactionReceipt hash budget))
      match waited with
      | .ok found => pure found
      | .error failure =>
        if failure = .receiptWaitDeadline then throw .receiptWaitDeadline
        else do
          let after_ ← remaining retry
          if after_ = 0 then throw .receiptWaitDeadline
          else do
            pause retry attempt
            waitAttempts retry hash left (attempt + 1) failure

def waitForReceiptWithReplacementEvidence (retry : ReceiptWaitRetryOptions) (hash : JsString) :
    Broadcast ReceiptWithReplacement :=
  if retry.attempts < 1 ∨ receiptWaitAttempts < retry.attempts then
    throw (.error ("Receipt wait attempts must be between 1 and 3." : String))
  else if retry.deadlineMs < 1 then
    throw (.error ("Receipt wait timeout must be a positive integer." : String))
  else waitAttempts retry hash retry.attempts 1 .receiptWaitDeadline

def waitForReceiptWithRetry (retry : ReceiptWaitRetryOptions) (hash : JsString) :
    Broadcast TransactionReceipt := do
  let waited ← waitForReceiptWithReplacementEvidence retry hash
  if waited.replacement = none then pure waited.receipt else throw .unattributedReplacement

def settledOutcome (txHash : JsString) (receipt : TransactionReceipt)
    (replacement : Option ReceiptReplacementEvidence) : Outcome :=
  if receipt.success then .confirmed txHash receipt replacement
  else .reverted txHash receipt replacement

/-- A replacement is the staged transaction at another price, within the exposure limit. -/
def provesReplacement (handles : StagedSendHandles) (tx : StagedTxParams)
    (gasLimit maxFeePerGas maxPriorityFeePerGas maxNetworkFeeWei : Nat)
    (replacement : ReceiptReplacementEvidence) : Bool :=
  replacement.reason = .repriced && sameText replacement.replacedTxHash handles.txHash
    && sameText replacement.fromAddress handles.fromAddress
    && replacement.nonce = handles.nonce
    && replacement.to_.elim false (sameText · tx.to_)
    && sameText replacement.data tx.data
    && replacement.value = tx.value
    && !(gasLimit < replacement.gas)
    && !above replacement.maxFeePerGas maxFeePerGas
    && !above replacement.maxPriorityFeePerGas maxPriorityFeePerGas
    && !above (replacement.maxFeePerGas.map (replacement.gas * ·)) maxNetworkFeeWei

def awaitReceipt (policy : Option StagedFeePolicy) (retry : ReceiptWaitRetryOptions)
    (handles : StagedSendHandles) (tx : StagedTxParams) : Broadcast Outcome :=
  match policy with
  | some (.exposure gasLimit maxFee maxPriority maxNetworkFee) => do
    let waited ← waitForReceiptWithReplacementEvidence retry handles.txHash
    if waited.replacement.all
        (provesReplacement handles tx gasLimit maxFee maxPriority maxNetworkFee) then
      pure (settledOutcome handles.txHash waited.receipt waited.replacement)
    else
      pure (.ambiguousConfirm handles.txHash (("Ethereum reported a replacement that does not match "
        ++ "the staged identity, calldata, or approved fee ceiling." : String) : JsString))
  | _ => do
    let receipt ← waitForReceiptWithRetry retry handles.txHash
    pure (settledOutcome handles.txHash receipt none)

/-- Sending what is staged: the owner is given back once the submission has settled. -/
def submit (policy : Option StagedFeePolicy) (retry : ReceiptWaitRetryOptions)
    (serialized : JsString) (handles : StagedSendHandles) (tx : StagedTxParams) :
    Broadcast Outcome := do
  let sent ← Program.attempt (ask (Call.sendRawTransaction serialized))
  -- giving the owner back cannot fail, and does nothing a second time
  let _released ← Program.attempt (ask Call.releaseNonceOwner)
  match sent with
  | .error failure => pure (.ambiguousSend handles.txHash (describeFailureForLog failure))
  | .ok _ => do
    let _accepted ← Program.attempt (ask Call.onAccepted)
    let waited ← Program.attempt (awaitReceipt policy retry handles tx)
    match waited with
    | .ok outcome => pure outcome
    | .error failure => pure (.ambiguousConfirm handles.txHash (describeFailureForLog failure))

/-- `runStagedBroadcast`; `gated` where there is a hook before the signature. -/
def runStagedBroadcast (signer : StagedSigner) (tx : StagedTxParams) (gated : Bool)
    (retry : ReceiptWaitRetryOptions) (policy : Option StagedFeePolicy) : Broadcast Outcome := do
  let gasEstimate ← ask (Call.estimateGasForPlanLeg signer.address tx)
  let gasLimit := gasLimitWithHeadroom gasEstimate
  let exposureFees ← readExposureFees policy gasLimit
  let request ← ask (Call.prepareTransactionRequest
    ⟨signer.address, signer.chainId, tx, gasLimit, givenFees policy exposureFees, feesGiven policy⟩)
  let nonce ← reserveNonce signer request
  let signedRequest := request.signed nonce gasLimit
  let finalRequest := request.final nonce gasLimit
  liftExcept (assertFees policy gasLimit signedRequest)
  let wallet ← resolveSigner signer finalRequest
  assertReservedNonceMatchesPending signer.address signer.chainId nonce
  if gated then ask (Call.onBeforeSign finalRequest) else pure ()
  let serialized ← sign signer wallet signedRequest
  let handles : StagedSendHandles := ⟨keccak256 serialized, signer.address, nonce⟩
  ask (Call.onHashStaged handles)
  submit describeFailureForLog policy retry serialized handles tx

/-- The sequence while the owner is held: what the hooks registered for its end is done when it
has ended, and the owner is given back. -/
def holdingNonceOwner (signer : StagedSigner) (tx : StagedTxParams) (gated : Bool)
    (retry : ReceiptWaitRetryOptions) (policy : Option StagedFeePolicy) : Broadcast Outcome := do
  let result ← Program.attempt
    (runStagedBroadcast keccak256 describeFailureForLog signer tx gated retry policy)
  let _cleaned ← Program.attempt (ask Call.releaseReservations)
  let _released ← Program.attempt (ask Call.releaseNonceOwner)
  liftExcept result

def signStageBroadcast (signer : StagedSigner) (tx : StagedTxParams) (gated : Bool)
    (retry : ReceiptWaitRetryOptions) (policy : Option StagedFeePolicy) : Broadcast Outcome := do
  ask (Call.acquireEvmNonceOwner signer.address signer.chainId)
  holdingNonceOwner keccak256 describeFailureForLog signer tx gated retry policy

end Describe

end Vex.Evm.StagedBroadcast
