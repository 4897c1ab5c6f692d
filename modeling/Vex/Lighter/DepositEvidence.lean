import Vex.Evm.StagedBroadcast
import Vex.Lighter.OnboardingIntents

/-!
# What proves a deposit

The deployments that deposits go to, the calldata of a deposit, what the persisted
preflight says of its fees, and the two proofs an executor asks for: that a transaction
that replaced a staged one is the same call at another price, and that a receipt is the
receipt of the deposit. An amount is a number, since its text is checked to be one.

Address checks, the ABI encoders and the decoder of the event are parameters, as is
`toLowerCase`, which agrees with `LOWER` here, and the reading of the preflight columns.
-/

namespace Vex.Lighter.OnboardingIntents

open Vex.Library Vex.Evm.StagedBroadcast

/-! ## Deployments -/

/-- What is read of a `LighterFundingDeployment`. -/
structure FundingDeployment where
  settlementChainId : Nat
  gatewayProxy : JsString
  settlementTokenProxy : JsString
  settlementSymbol : JsString
  settlementAssetIndex : Nat
  perpsRouteType : Nat
  minimumDepositUnits : Nat

def getLighterFundingDeployment : Environment → FundingDeployment
  | .core =>
    { settlementChainId := 1
      gatewayProxy := "0x3B4D794a66304F130a4Db8F2551B0070dfCf5ca7"
      settlementTokenProxy := "0xA0b86991c6218b36c1d19D4a2e9Eb0cE3606eB48"
      settlementSymbol := "USDC"
      settlementAssetIndex := 3
      perpsRouteType := 0
      minimumDepositUnits := 1000000 }
  | .rhc =>
    { settlementChainId := 4663
      gatewayProxy := "0x94bAB9693Ba2f6358507eFfcbd372b0660AFfF9d"
      settlementTokenProxy := "0x5fc5360D0400a0Fd4f2af552ADD042D716F1d168"
      settlementSymbol := "USDG"
      settlementAssetIndex := 3
      perpsRouteType := 0
      minimumDepositUnits := 1000000 }

inductive LegStage where
  | approve
  | deposit
  deriving DecidableEq

def LegStage.text : LegStage → String
  | .approve => "approve"
  | .deposit => "deposit"

/-- The persisted preflight; a column that is null or holds no number is missing. -/
structure Preflight where
  settlementTokenAddress : Option JsString
  settlementTokenSymbol : Option JsString
  settlementTokenDecimals : Option Nat
  minimumTransferUnits : Option Nat
  walletBalanceUnits : Option Nat
  walletAllowanceUnits : Option Nat
  walletNativeBalanceWei : Option Nat
  ethereumBlockNumber : Option Nat
  lighterBlockNumber : Option Nat
  observedAt : Option Instant
  approveGasLimit : Option Nat
  depositGasLimit : Option Nat
  maxFeePerGasWei : Option Nat
  maxPriorityFeePerGasWei : Option Nat
  approveMaxFeeWei : Option Nat
  depositMaxFeeWei : Option Nat
  totalMaxFeeWei : Option Nat
  nativeReserveWei : Option Nat
  requiredNativeBalanceWei : Option Nat

/-- `LighterDepositReceiptLog`. -/
structure ReceiptLog where
  address : JsString
  data : JsString
  topics : List JsString
  deriving DecidableEq

/-- `LighterDepositReceipt`. -/
structure Receipt where
  success : Bool
  transactionHash : JsString
  blockHash : JsString
  blockNumber : Nat
  from_ : JsString
  to_ : Option JsString
  logs : List ReceiptLog
  deriving DecidableEq

/-- The arguments of a `Deposit` event. -/
structure DepositEvent where
  toAccountIndex : Nat
  toAddress : JsString
  assetIndex : Nat
  routeType : Nat
  baseAmount : Nat

/-- What is used of the chain library, and the columns of the preflight. -/
structure Surroundings where
  lower : JsString → JsString
  isAddress : JsString → Bool
  getAddress : JsString → Except String JsString
  encodeApprove : JsString → Nat → JsString
  encodeDeposit : JsString → Nat → Nat → Nat → JsString
  decodeDeposit : ReceiptLog → Option DepositEvent
  preflight : JsString → Preflight

/-- `LighterDepositSignedFeeCeiling`. -/
structure FeeCeiling where
  gasLimit : Nat
  maxFeePerGas : Nat
  maxPriorityFeePerGas : Nat
  maxNetworkFeeWei : Nat

structure Calldata where
  to_ : JsString
  data : JsString
  deriving DecidableEq

section

variable (env : Surroundings)

/-! ## The calldata of a deposit -/

def require (holds : Bool) (message : String) : Except String Unit :=
  if holds then .ok () else .error message

/-- `buildLighterDepositCalldata` to the perps account, for an asset index that is given. -/
def buildLighterDepositCalldata (environment : Environment) (to_ : JsString) (amountUnits : Nat)
    (assetIndex : Nat) : Except String Calldata := do
  require (env.isAddress to_)
    "Lighter deposit `to` must be a valid EVM address (the crediting wallet)."
  let deployment := getLighterFundingDeployment environment
  require (decide (1 ≤ assetIndex ∧ assetIndex ≤ 62))
    "Lighter deposit assetIndex must be an integer in [1, 62]."
  require (decide (deployment.minimumDepositUnits ≤ amountUnits))
    ("Lighter deposit amount " ++ toString amountUnits ++ " is below the "
      ++ toString deployment.minimumDepositUnits
      ++ " base-unit minimum; a smaller deposit is not credited.")
  require (decide (amountUnits ≤ 2 ^ 256 - 1)) "Lighter deposit amount exceeds uint256."
  let recipient ← env.getAddress to_
  .ok ⟨deployment.gatewayProxy, env.encodeDeposit recipient assetIndex 0 amountUnits⟩

/-! ## The persisted preflight -/

def Row.preflightColumns (row : Row) : Option Preflight := row.preflight.map env.preflight

def hasValidPersistedPreflight (funding : FundingDeployment) (amount : Nat)
    (preflight : Preflight) : Bool :=
  preflight.settlementTokenAddress.map env.lower = some (env.lower funding.settlementTokenProxy)
    && preflight.settlementTokenSymbol = some funding.settlementSymbol
    && preflight.settlementTokenDecimals = some 6
    && preflight.observedAt.isSome
    && (do
      let minimum ← preflight.minimumTransferUnits
      let balance ← preflight.walletBalanceUnits
      let allowance ← preflight.walletAllowanceUnits
      let nativeBalance ← preflight.walletNativeBalanceWei
      let block ← preflight.ethereumBlockNumber
      let _ ← preflight.lighterBlockNumber
      let approveGasLimit ← preflight.approveGasLimit
      let depositGasLimit ← preflight.depositGasLimit
      let maxFeePerGas ← preflight.maxFeePerGasWei
      let maxPriorityFeePerGas ← preflight.maxPriorityFeePerGasWei
      let approveMaxFee ← preflight.approveMaxFeeWei
      let depositMaxFee ← preflight.depositMaxFeeWei
      let totalMaxFee ← preflight.totalMaxFeeWei
      let nativeReserve ← preflight.nativeReserveWei
      let requiredNativeBalance ← preflight.requiredNativeBalanceWei
      some (decide (0 < amount ∧ 0 < minimum ∧ minimum ≤ amount ∧ amount ≤ balance
        ∧ 0 < nativeBalance ∧ 0 < block
        ∧ (if allowance < amount then 0 < approveGasLimit else approveGasLimit = 0)
        ∧ 0 < depositGasLimit ∧ 0 < maxFeePerGas ∧ maxPriorityFeePerGas ≤ maxFeePerGas
        ∧ approveMaxFee = approveGasLimit * maxFeePerGas
        ∧ depositMaxFee = depositGasLimit * maxFeePerGas
        ∧ totalMaxFee = approveMaxFee + depositMaxFee
        ∧ nativeReserve = max approveMaxFee depositMaxFee
        ∧ requiredNativeBalance = totalMaxFee + nativeReserve
        ∧ requiredNativeBalance ≤ nativeBalance))) = some true

def revalidationError (message : String) : String :=
  "Lighter deposit pre-sign revalidation refused execution: " ++ message
    ++ " Nothing was signed or submitted."

def parseRequiredInteger (value : Option Nat) (field : String) : Except String Nat :=
  match value with
  | some value => .ok value
  | none => .error (revalidationError ("The " ++ field ++ " is missing or invalid."))

def persistedFeeSafetyLimit (preflight : Option Preflight) (stage : LegStage) :
    Except String FeeCeiling := do
  let gasLimit ← parseRequiredInteger (preflight.bind fun columns =>
    match stage with
    | .approve => columns.approveGasLimit
    | .deposit => columns.depositGasLimit) (stage.text ++ " gas limit")
  let maxFeePerGas ← parseRequiredInteger (preflight.bind (·.maxFeePerGasWei)) "maximum fee per gas"
  let maxPriorityFeePerGas ← parseRequiredInteger (preflight.bind (·.maxPriorityFeePerGasWei))
    "maximum priority fee per gas"
  let maxNetworkFeeWei ← parseRequiredInteger (preflight.bind fun columns =>
    match stage with
    | .approve => columns.approveMaxFeeWei
    | .deposit => columns.depositMaxFeeWei) (stage.text ++ " maximum network fee")
  require (!(decide (stage = .deposit ∧ gasLimit = 0) || decide (maxFeePerGas = 0)
      || decide (maxFeePerGas < maxPriorityFeePerGas)
      || decide (maxNetworkFeeWei ≠ gasLimit * maxFeePerGas)))
    (revalidationError ("The persisted " ++ stage.text ++ " fee safety data is inconsistent."))
  .ok ⟨gasLimit, maxFeePerGas, maxPriorityFeePerGas, maxNetworkFeeWei⟩

/-! ## A replacement -/

/-- The pattern of a transaction hash: 64 digits after the prefix. -/
def isTransactionHash (value : JsString) : Bool :=
  value.take 2 = [48, 120] && value.length = 66 && (value.drop 2).all JsString.isHexDigit

def Row.leg (row : Row) : LegStage → Leg
  | .approve => row.approve
  | .deposit => row.deposit

def expectedCall (intent : Row) (terms : DepositTerms) : LegStage → Except String Calldata
  | .approve => do
    let spender ← env.getAddress terms.depositContract
    .ok ⟨(getLighterFundingDeployment intent.environment).settlementTokenProxy,
      env.encodeApprove spender terms.amountUnits⟩
  | .deposit =>
    buildLighterDepositCalldata env intent.environment terms.depositTo terms.amountUnits
      terms.assetIndex

def assertStoredIdentity (intent : Row) (terms : DepositTerms) (stage : LegStage) :
    Except String Unit := do
  let funding := getLighterFundingDeployment intent.environment
  let incomplete := "Stored Lighter " ++ stage.text ++ " transaction identity is incomplete."
  require (decide (0 < terms.amountUnits ∧ intent.capability = .deposit
    ∧ intent.chainId = funding.settlementChainId
    ∧ terms.assetIndex = funding.settlementAssetIndex
    ∧ terms.routeType = funding.perpsRouteType)) incomplete
  let wallet ← env.getAddress intent.walletAddress
  let recipient ← env.getAddress terms.depositTo
  require (decide (wallet = recipient)) incomplete
  let gateway ← env.getAddress terms.depositContract
  require (decide (gateway = funding.gatewayProxy)) incomplete

/-- The replacement is the staged transaction at another price. -/
def assertRepricing (intent : Row) (stage : LegStage) (originalHash stagedFrom : JsString)
    (stagedNonce : Nat) (replacement : ReceiptReplacementEvidence) : Except String Unit := do
  let inexact := "Settlement-chain replacement is not an exact fee-only " ++ stage.text
    ++ " repricing."
  require (decide (replacement.reason = .repriced) && isTransactionHash replacement.replacedTxHash
    && isTransactionHash replacement.replacementTxHash
    && decide (env.lower replacement.replacedTxHash = env.lower originalHash)
    && decide (env.lower replacement.replacementTxHash ≠ env.lower originalHash)) inexact
  let sender ← env.getAddress replacement.fromAddress
  let staged ← env.getAddress stagedFrom
  require (decide (sender = staged)) inexact
  let wallet ← env.getAddress intent.walletAddress
  require (decide (sender = wallet ∧ replacement.nonce = stagedNonce ∧ replacement.to_ ≠ none
    ∧ replacement.value = 0)) inexact

def assertApprovedCall (stage : LegStage) (expected : Calldata)
    (replacement : ReceiptReplacementEvidence) : Except String Unit := do
  let recipient ← env.getAddress (replacement.to_.getD [])
  let target ← env.getAddress expected.to_
  require (decide (recipient = target ∧ env.lower replacement.data = env.lower expected.data))
    ("Settlement-chain replacement changed the approved " ++ stage.text ++ " calldata.")

def assertFeeCeiling (stage : LegStage) (ceiling : FeeCeiling)
    (replacement : ReceiptReplacementEvidence) : Except String Unit :=
  require (!(decide (replacement.maxFeePerGas = none)
      || decide (replacement.maxPriorityFeePerGas = none)
      || decide (ceiling.gasLimit < replacement.gas)
      || above replacement.maxFeePerGas ceiling.maxFeePerGas
      || above replacement.maxPriorityFeePerGas ceiling.maxPriorityFeePerGas
      || above (replacement.maxFeePerGas.map (replacement.gas * ·)) ceiling.maxNetworkFeeWei))
    ("Settlement-chain replacement exceeds the persisted " ++ stage.text ++ " fee safety limit.")

def proveApprovedLighterDepositReplacement (intent : Row) (stage : LegStage)
    (replacement : ReceiptReplacementEvidence) (observedAt : Instant) :
    Except String Replacement :=
  match (intent.leg stage).txHash, (intent.leg stage).txFrom, (intent.leg stage).txNonce,
    intent.terms with
  | some originalHash, some stagedFrom, some stagedNonce, some terms => do
    assertStoredIdentity env intent terms stage
    assertRepricing env intent stage originalHash stagedFrom stagedNonce replacement
    let expected ← expectedCall env intent terms stage
    assertApprovedCall env stage expected replacement
    let ceiling ← persistedFeeSafetyLimit (intent.preflightColumns env) stage
    assertFeeCeiling stage ceiling replacement
    .ok ⟨originalHash, replacement.replacementTxHash, JsString.ofString "repriced", observedAt⟩
  | _, _, _, _ =>
    .error ("Stored Lighter " ++ stage.text ++ " transaction identity is incomplete.")

/-! ## The receipt of a deposit -/

/-- `sameAddress`: an address that is none is like no other. -/
def sameAddress (left right : JsString) : Bool :=
  match env.getAddress left, env.getAddress right with
  | .ok left, .ok right => left = right
  | _, _ => false

/-- `ExpectedLighterDeposit`. -/
structure ExpectedDeposit where
  txHash : JsString
  gatewayAddress : JsString
  walletAddress : JsString
  recipientAddress : JsString
  assetIndex : Nat
  routeType : Nat
  amountUnits : Nat

def proveLighterDepositL1 (receipt : Receipt) (expected : ExpectedDeposit) :
    Except String DepositL1Evidence := do
  require receipt.success "The settlement chain does not prove a successful Lighter deposit."
  require (decide (env.lower receipt.transactionHash = env.lower expected.txHash))
    "Settlement receipt hash does not match the staged Lighter deposit hash."
  require (receipt.to_.elim false (sameAddress env · expected.gatewayAddress))
    "Settlement receipt target does not match the approved Lighter gateway."
  require (sameAddress env receipt.from_ expected.walletAddress)
    "Settlement receipt sender does not match the approved Vex wallet."
  let gatewayLogs := receipt.logs.filter (sameAddress env ·.address expected.gatewayAddress)
  match gatewayLogs.filterMap env.decodeDeposit with
  | [event] => do
    require (sameAddress env event.toAddress expected.recipientAddress)
      "Lighter Deposit event recipient does not match the approved wallet."
    require (decide (event.assetIndex = expected.assetIndex))
      "Lighter Deposit event asset index does not match the approved intent."
    require (decide (event.routeType = expected.routeType))
      "Lighter Deposit event route type does not match the approved intent."
    require (decide (event.baseAmount = expected.amountUnits))
      "Lighter Deposit event amount does not match the approved intent."
    let wallet ← env.getAddress event.toAddress
    .ok ⟨receipt.transactionHash, receipt.blockHash, receipt.blockNumber, event.toAccountIndex,
      wallet, event.assetIndex, event.routeType, event.baseAmount⟩
  | _ => .error "Settlement receipt must contain exactly one Lighter Deposit event."

end

end Vex.Lighter.OnboardingIntents
