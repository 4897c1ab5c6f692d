import Vex.Evm.BridgeDepositCalldata
import Vex.Evm.NativeValue

/-!
# The steps of a Relay quote

A quote lists steps, each with the transactions it asks for. `classifyRelayBridgeSteps`
gives each step a role and refuses a quote that is not approvals and one deposit on
the origin chain, with each approval bound to the target of the deposit.
`planRelayStepTx` takes the one transaction of a step apart before it is signed, and
`signedTransactions` is the loop that signs them in order for as long as each
confirms.

Roles are looked up in a plain object, so a step named after a member that every
object inherits has a role too (`inheritedMembers`). Log lines are left out, and a
`chainId` is an integer.
-/

namespace Vex.Relay

open Vex.Library Vex.Library.JsString
open Vex.Evm

/-! ## Quotes -/

/-- `RelayStepItemData`: what the schema lets through. -/
structure RelayStepItemData where
  sender : Option JsString
  to_ : JsString
  value : JsString
  data : JsString
  chainId : Int
  hexData : isHexData data = true

/-- `RelayStep`, of its items their data. -/
structure RelayStep where
  id : JsString
  kind : JsString
  items : List (Option RelayStepItemData)

/-- `RelayStepRole`; a member that is inherited is written as its text. -/
inductive RelayStepRole where
  | allowance
  | bridgeDeposit
  | inherited (text : JsString)
  deriving DecidableEq

def roleText : RelayStepRole → JsString
  | .allowance => "allowance"
  | .bridgeDeposit => "bridge_deposit"
  | .inherited text => text

def nativeCode (name : JsString) : JsString :=
  ("function " : JsString) ++ name ++ ("() \x7b [native code] \x7d" : JsString)

/-- What every plain object inherits: the names, and the texts of the members. -/
def inheritedMembers : List (JsString × JsString) :=
  [(("constructor" : JsString), nativeCode "Object"), ("__proto__", "[object Object]")]
    ++ ([("__defineGetter__" : JsString), "__defineSetter__", "hasOwnProperty", "__lookupGetter__",
      "__lookupSetter__", "isPrototypeOf", "propertyIsEnumerable", "toString", "valueOf",
      "toLocaleString"].map fun name => (name, nativeCode name))

/-- `STEP_ID_ROLE[id]`. -/
def stepIdRole (id : JsString) : Option RelayStepRole :=
  if id = ("approve" : JsString) then some .allowance
  else if id = ("deposit" : JsString) then some .bridgeDeposit
  else (inheritedMembers.lookup id).map .inherited

/-- `RelayStepRejectionReason`. -/
inductive StepRejectionReason where
  | unsupportedStepId
  | unsupportedStepKind
  | stepChainNotOrigin
  | missingStepTransaction
  | approveNotBoundToDeposit
  | unsupportedDepositStepCount
  deriving DecidableEq

structure StepRejection where
  reason : StepRejectionReason
  stepId : JsString
  detail : JsString
  deriving DecidableEq

structure RelaySignableStep where
  stepId : JsString
  role : RelayStepRole
  chainId : Int
  step : RelayStep

/-! ## Classification -/

def RelayStep.transactions (step : RelayStep) : List RelayStepItemData := step.items.filterMap fun item => item

/-- One step of `classifyRelayBridgeSteps`. -/
def classifyStep (originChainId : Int) (step : RelayStep) : Except StepRejection RelaySignableStep :=
  match stepIdRole step.id with
  | none => .error ⟨.unsupportedStepId, step.id, ("Relay step \"" : JsString) ++ step.id
      ++ ("\" is not an allowed bridging step (only approve/deposit are signable)." : JsString)⟩
  | some role => do
    refuseIf (step.kind ≠ ("transaction" : JsString))
      (⟨.unsupportedStepKind, step.id, ("Relay step \"" : JsString) ++ step.id
        ++ ("\" is kind \"" : JsString) ++ step.kind
        ++ ("\" — only transaction steps are signable." : JsString)⟩ : StepRejection)
    match step.transactions.find? fun transaction => transaction.chainId ≠ originChainId with
    | some transaction => .error ⟨.stepChainNotOrigin, step.id, ("Relay step \"" : JsString)
        ++ step.id ++ ("\" targets chain " : JsString) ++ ofInt transaction.chainId
        ++ (", not the origin chain " : JsString) ++ ofInt originChainId
        ++ ((". Vex signs only origin-chain steps; the fill is solver-signed on the "
          ++ "destination." : String) : JsString)⟩
    | none => do
      refuseIf (step.transactions.length ≠ 1)
        (⟨.missingStepTransaction, step.id, ("Relay step \"" : JsString) ++ step.id
          ++ ("\" (" : JsString) ++ roleText role
          ++ (") must carry exactly one origin-chain transaction to sign (found " : JsString)
          ++ ofNat step.transactions.length
          ++ (("). A signable step with no transaction data is rejected pre-intent." : String) :
            JsString)⟩ : StepRejection)
      .ok ⟨step.id, role, originChainId, step⟩

def stepTransaction (entry : RelaySignableStep) : Option RelayStepItemData :=
  entry.step.transactions.head?

def approveRejection (entry : RelaySignableStep) (detail : JsString) : StepRejection :=
  ⟨.approveNotBoundToDeposit, entry.stepId, ("Relay step \"" : JsString) ++ entry.stepId
    ++ ("\" is a token approval Vex will not sign: " : JsString) ++ detail
    ++ ((". Nothing was signed. Get a fresh relay__bridge_quote_get for this route and retry." :
      String) : JsString)⟩

section Client

variable (viem : Viem)

def readApproval (depositTarget : Option JsString) (entry : RelaySignableStep) :
    Except StepRejection Approve :=
  match stepTransaction entry with
  | none => .error (approveRejection entry
      ("the approval step carries no transaction to read" : String))
  | some transaction =>
    match bigInt transaction.value with
    | none => .error (approveRejection entry (("its native value is not an integer, so Vex cannot "
        ++ "read what it would send" : String) : JsString))
    | some value =>
      (verifyApproveStepAuthorizesDeposit viem
        ⟨transaction.to_, some transaction.data, value, none⟩ depositTarget).mapError fun refusal =>
          approveRejection entry refusal.detail

def approvalEntries (depositTarget : Option JsString) :
    List RelaySignableStep → Nat → Except StepRejection (List ApprovalSequenceEntry)
  | [], _ => .ok []
  | entry :: rest, index =>
    if entry.role = .allowance then do
      let approve ← readApproval viem depositTarget entry
      let entries ← approvalEntries depositTarget rest (index + 1)
      .ok (⟨index, approve.allowance⟩ :: entries)
    else approvalEntries depositTarget rest (index + 1)

def depositIndex (signable : List RelaySignableStep) : Option Nat :=
  signable.findIdx? fun entry => entry.role = .bridgeDeposit

def depositTargetOf (signable : List RelaySignableStep) : Option JsString :=
  ((signable.find? fun entry => entry.role = .bridgeDeposit).bind stepTransaction).map (·.to_)

def bindApproveStepsToDeposit (signable : List RelaySignableStep) : Except StepRejection Unit := do
  let entries ← approvalEntries viem (depositTargetOf signable) signable 0
  match verifyApprovalSequence entries (depositIndex signable) with
  | .ok _ => .ok ()
  | .error refusal =>
    match (signable.filter fun entry => entry.role = .allowance).getLast? with
    | some offending => .error (approveRejection offending refusal.detail)
    | none => .ok ()

def countDeposits (signable : List RelaySignableStep) : Nat :=
  signable.countP fun entry => entry.role = .bridgeDeposit

def classifyRelayBridgeSteps (steps : List RelayStep) (originChainId : Int) :
    Except StepRejection (List RelaySignableStep) := do
  let signable ← steps.mapM (classifyStep originChainId)
  bindApproveStepsToDeposit viem signable
  refuseIf (countDeposits signable ≠ 1)
    (⟨.unsupportedDepositStepCount, ("deposit" : JsString), ("Relay returned " : JsString)
      ++ ofNat (countDeposits signable)
      ++ ((" deposit steps for this bridge; Vex signs a plain bridge, which is exactly one. Nothing "
        ++ "was signed. Get a fresh relay__bridge_quote_get for this route and retry." : String) :
        JsString)⟩ : StepRejection)
  .ok signable

/-! ## Planning a transaction -/

inductive RelayTradeType where
  | exactInput
  | exactOutput
  | expectedOutput
  deriving DecidableEq

/-- What was derived of the bridge: `RelayStepNativeValueContext` without the role. -/
structure BridgeContext where
  originCurrency : JsString
  tradeType : RelayTradeType
  bridgedAmountRaw : JsString
  deriving DecidableEq

inductive PlanErrorCode where
  | relayUnsupportedStep
  | relayBridgeFailed
  | relayStepChainMismatch
  | nativeValueUnauthorized
  | syntaxError
  | invalidAddress
  deriving DecidableEq

structure PlanError where
  code : PlanErrorCode
  message : JsString
  deriving DecidableEq

/-- `PlannedRelayStepTx`, of the target its number. -/
structure PlannedRelayStepTx where
  to_ : Nat
  data : JsString
  value : Int
  deriving DecidableEq

def relayNativeCurrency : JsString := "0x0000000000000000000000000000000000000000"

def BridgeContext.isNative (context : BridgeContext) : Bool :=
  lowerHex context.originCurrency = relayNativeCurrency

def BridgeContext.originToken (context : BridgeContext) : Option JsString :=
  if context.isNative then none else some context.originCurrency

def relayDerivedPrincipal (context : BridgeContext) : Option Int :=
  if context.tradeType ≠ .exactInput then none else bigInt context.bridgedAmountRaw

/-- `relayStepNativePrincipal`: the amount of a deposit in the native currency. -/
def relayStepNativePrincipal (role : RelayStepRole) (context : BridgeContext) :
    Except PlanError (Option ProvenComponent) :=
  if role ≠ .bridgeDeposit ∨ context.isNative = false ∨ context.tradeType ≠ .exactInput then .ok none
  else
    match bigInt context.bridgedAmountRaw with
    | none => .error ⟨.syntaxError, ("Cannot convert " : JsString) ++ context.bridgedAmountRaw
        ++ (" to a BigInt" : JsString)⟩
    | some amount =>
      .ok (some ⟨amount, ("the post-fee amount Vex asked Relay to bridge" : String)⟩)

def relayStepLabel (role : RelayStepRole) : JsString :=
  if role = .bridgeDeposit then "deposit" else "token approval"

def relayNativeValueRefusal (role : RelayStepRole) (reason : JsString) : JsString :=
  ("Refused before signing the Relay " : JsString) ++ relayStepLabel role ++ (": " : JsString)
    ++ reason ++ (". Nothing was signed or broadcast for this step." : JsString)

def BridgeContext.binding (context : BridgeContext) (wallet : Nat) : ApproveAmountBinding :=
  ⟨context.originToken, wallet, relayDerivedPrincipal context⟩

def assertSender (step : RelayStep) (data : RelayStepItemData) (wallet : Nat) :
    Except PlanError Unit :=
  match data.sender with
  | none => .ok ()
  | some sender =>
    match viem.getAddress sender with
    | none => .error ⟨.invalidAddress, sender⟩
    | some address =>
      refuseIf (address ≠ wallet) (⟨.relayBridgeFailed, ("Relay step \"" : JsString) ++ step.id
        ++ ("\" sender does not match the selected wallet." : JsString)⟩ : PlanError)

/-- The bindings of a step to the plan, by its role. -/
def assertBound (role : RelayStepRole) (data : RelayStepItemData) (value : Int)
    (plan : ApproveAmountBinding) : Except PlanError Unit :=
  match role with
  | .allowance =>
    match verifyApproveStepBindsPlan viem ⟨data.to_, some data.data, value, data.sender⟩ plan with
    | .ok _ => .ok ()
    | .error refusal => .error ⟨.relayBridgeFailed,
        ("Refused before signing the Relay token approval: " : JsString) ++ refusal.detail
          ++ (". Nothing was signed or broadcast for this step." : JsString)⟩
  | .bridgeDeposit =>
    match verifyBridgeDepositCalldata viem ⟨some data.data, value⟩ plan with
    | .ok _ => .ok ()
    | .error refusal => .error ⟨.relayBridgeFailed,
        ("Refused before signing the Relay deposit: " : JsString) ++ refusal.detail
          ++ (". Nothing was signed or broadcast for this step." : JsString)⟩
  | .inherited _ => .ok ()

/-- The one transaction of a step, on the origin chain. -/
def plannedData (step : RelayStep) (originChainId : Int) : Except PlanError RelayStepItemData :=
  if step.kind ≠ ("transaction" : JsString) then
    .error ⟨.relayUnsupportedStep, ("Relay step \"" : JsString) ++ step.id ++ ("\" (" : JsString)
      ++ step.kind ++ (") is not signable — only transaction steps are signed." : JsString)⟩
  else
    match step.transactions with
    | [data] =>
      if data.chainId ≠ originChainId then
        .error ⟨.relayStepChainMismatch, ("Relay step \"" : JsString) ++ step.id
          ++ ("\" targets chain " : JsString) ++ ofInt data.chainId
          ++ (", not the origin chain " : JsString) ++ ofInt originChainId
          ++ ((". Vex signs only origin-chain steps; the fill is solver-signed on the "
            ++ "destination." : String) : JsString)⟩
      else .ok data
    | _ => .error ⟨.relayBridgeFailed, ("Relay step \"" : JsString) ++ step.id
        ++ ("\" must carry exactly one origin transaction (found " : JsString)
        ++ ofNat step.transactions.length ++ (")." : JsString)⟩

def planRelayStepTx (keccak256 : JsString → JsString) (originChainId : Int) (wallet : Nat)
    (context : BridgeContext) (entry : RelaySignableStep) : Except PlanError PlannedRelayStepTx := do
  let data ← plannedData entry.step originChainId
  assertSender viem entry.step data wallet
  match viem.getAddress data.to_ with
  | none => .error ⟨.relayBridgeFailed, ("Relay step \"" : JsString) ++ entry.step.id
      ++ ("\" has a malformed recipient address." : JsString)⟩
  | some target =>
    match bigInt data.value with
    | none => .error ⟨.relayBridgeFailed, ("Relay step \"" : JsString) ++ entry.step.id
        ++ ("\" has a malformed transaction value." : JsString)⟩
    | some value => do
      let call : NativeValueCall := ⟨originChainId, data.to_, data.data, value⟩
      let principal ← relayStepNativePrincipal entry.role context
      (checkNativeValueAuthorizedForCall keccak256
        (classifyNativeValue keccak256 call ⟨principal, none, none⟩) call).mapError fun reason =>
          (⟨.nativeValueUnauthorized, relayNativeValueRefusal entry.role reason⟩ : PlanError)
      assertBound viem entry.role data value (context.binding wallet)
      .ok ⟨target, data.data, value⟩

/-- The loop of `runOriginBroadcasts`: each step is planned and signed, and the next one only once
it has confirmed. -/
def signedTransactions (plan : RelaySignableStep → Except PlanError PlannedRelayStepTx) :
    List RelaySignableStep → List Bool → List (RelaySignableStep × PlannedRelayStepTx)
  | [], _ => []
  | entry :: rest, outcomes =>
    match plan entry with
    | .error _ => []
    | .ok transaction =>
      (entry, transaction) :: (match outcomes with
          | true :: later => signedTransactions plan rest later
          | _ => [])

end Client

end Vex.Relay
