import Vex.Library.DecimalText
import Vex.Library.Checks

/-!
# Native value is attributed before it is signed

The value of a transaction is split into components, each proven, and a remainder
that is not. `checkNativeValueAuthorizedForCall` lets a call through only when the
components are those of the call, add up to its value and leave nothing
unattributed.

* `authorized_value` — without a platform fee and a proven fee, what passes sends
  nothing or exactly the principal.
-/

namespace Vex.Evm

open Vex.Library Vex.Library.JsString

/-- `NativeValueComponentKind`. -/
inductive ComponentKind where
  | nativePrincipal
  | vexPlatformFee
  | protocolFee
  | destinationExecutionPrepay
  | recoverableEscrowOrDeposit
  | unclassified
  deriving DecidableEq

def kindText : ComponentKind → JsString
  | .nativePrincipal => "native_principal"
  | .vexPlatformFee => "vex_platform_fee"
  | .protocolFee => "protocol_fee"
  | .destinationExecutionPrepay => "destination_execution_prepay"
  | .recoverableEscrowOrDeposit => "recoverable_escrow_or_deposit"
  | .unclassified => "unclassified"

/-- The source of `NativeValueEvidence`. -/
inductive Evidence where
  | vexConstructed
  | decodedCalldata
  | verifiedContractRead
  | unproven
  deriving DecidableEq

/-- `NativeValueComponent`, with the words of its evidence. -/
structure Component where
  kind : ComponentKind
  amountWei : Int
  evidence : Evidence
  detail : JsString

structure NativeValueCall where
  chainId : Int
  to_ : JsString
  data : JsString
  valueWei : Int

/-- `NativeValueAuthorization`. -/
structure Authorization where
  totalValueWei : Int
  components : List Component
  fingerprint : JsString

structure ProvenComponent where
  amountWei : Int
  detail : JsString
  deriving DecidableEq

/-- `NativeValueClassificationRequest`, of a call. -/
structure ClassificationRequest where
  nativePrincipal : Option ProvenComponent
  vexPlatformFee : Option ProvenComponent
  provenProtocolFee : Option ProvenComponent
  deriving DecidableEq

section Digest

variable (keccak256 : JsString → JsString)

def nativeValueCallFingerprint (call : NativeValueCall) : JsString :=
  keccak256 (("vex.native-value.v1|" : JsString) ++ ofInt call.chainId ++ ("|" : JsString)
    ++ call.to_.map lowerAscii ++ ("|" : JsString) ++ call.data.map lowerAscii ++ ("|" : JsString)
    ++ ofInt call.valueWei)

def buildNativeValueAuthorization (call : NativeValueCall) (components : List Component) :
    Authorization :=
  ⟨call.valueWei, components, nativeValueCallFingerprint keccak256 call⟩

def attributed (kind : ComponentKind) (proven : ProvenComponent) : Component :=
  ⟨kind, proven.amountWei, .vexConstructed, proven.detail⟩

def unclassified (amountWei : Int) (detail : JsString) : Component :=
  ⟨.unclassified, amountWei, .unproven, detail⟩

def amountOf (component : Option ProvenComponent) : Int := (component.map (·.amountWei)).getD 0

def positive (kind : ComponentKind) (component : Option ProvenComponent) : List Component :=
  match component with
  | none => []
  | some proven => if 0 < proven.amountWei then [attributed kind proven] else []

def sumNativeValueComponents (components : List Component) : Int :=
  (components.map (·.amountWei)).sum

def unclassifiedNativeValue (components : List Component) : Int :=
  sumNativeValueComponents (components.filter fun component => component.kind = .unclassified)

def classifyNativeValue (call : NativeValueCall) (request : ClassificationRequest) : Authorization :=
  let total := call.valueWei
  if total < 0 then
    buildNativeValueAuthorization keccak256 call
      [unclassified total ("transaction value is negative" : String)]
  else if total = 0 then buildNativeValueAuthorization keccak256 call []
  else
    let declared := amountOf request.nativePrincipal + amountOf request.vexPlatformFee
    if total < declared then
      buildNativeValueAuthorization keccak256 call
        [unclassified total (("Vex-derived components (" : JsString) ++ ofInt declared
          ++ (" wei) exceed the transaction value (" : JsString) ++ ofInt total
          ++ (" wei)" : JsString))]
    else
      let known := positive .nativePrincipal request.nativePrincipal
        ++ positive .vexPlatformFee request.vexPlatformFee
      let remaining := total - sumNativeValueComponents known
      if remaining = 0 then buildNativeValueAuthorization keccak256 call known
      else
        let fee := match request.provenProtocolFee with
          | none => []
          | some fee =>
            if 0 < fee.amountWei ∧ fee.amountWei ≤ remaining then [attributed .protocolFee fee]
            else []
        let left := remaining - sumNativeValueComponents fee
        let rest := if 0 < left then
            [unclassified left (match request.provenProtocolFee with
              | some fee => ("surcharge does not match the proven protocol fee (" : JsString)
                  ++ ofInt fee.amountWei ++ (" wei)" : JsString)
              | none => ("no proof was found for this native charge" : JsString))]
          else []
        buildNativeValueAuthorization keccak256 call (known ++ fee ++ rest)

def componentFault (component : Component) : Option JsString :=
  if component.amountWei ≤ 0 then
    some (("native value component '" : JsString) ++ kindText component.kind
      ++ ("' has a non-positive amount (" : JsString) ++ ofInt component.amountWei
      ++ (" wei); a zero component must be omitted" : JsString))
  else if component.evidence = .unproven ∧ component.kind ≠ .unclassified then
    some (("native value component '" : JsString) ++ kindText component.kind
      ++ ("' carries no proof; only 'unclassified' may be unproven" : JsString))
  else if component.evidence ≠ .unproven ∧ component.kind = .unclassified then
    some ("an 'unclassified' native value component must carry 'unproven' evidence" : String)
  else none

def evaluateNativeValueAuthorization (authorization : Authorization) : Except JsString Unit :=
  match authorization.components.findSome? componentFault with
  | some fault => .error fault
  | none => do
    let summed := sumNativeValueComponents authorization.components
    refuseIf (summed ≠ authorization.totalValueWei)
      (("native value components sum to " : JsString) ++ ofInt summed
        ++ (" wei but the transaction sends " : JsString) ++ ofInt authorization.totalValueWei
        ++ (" wei" : JsString))
    let unattributed := unclassifiedNativeValue authorization.components
    refuseIf (0 < unattributed)
      (ofInt unattributed ++ ((" wei of native value could not be attributed to a proven cost "
        ++ "component" : String) : JsString))

def checkNativeValueAuthorizedForCall (authorization : Authorization) (call : NativeValueCall) :
    Except JsString Unit := do
  refuseIf (nativeValueCallFingerprint keccak256 call ≠ authorization.fingerprint)
    (("the transaction reaching the signer is not the one whose native value was authorized "
      ++ "(target, calldata, or value changed after classification)" : String) : JsString)
  refuseIf (authorization.totalValueWei ≠ call.valueWei)
    (("authorized " : JsString) ++ ofInt authorization.totalValueWei
      ++ (" wei but the signer was handed " : JsString) ++ ofInt call.valueWei
      ++ (" wei" : JsString))
  evaluateNativeValueAuthorization authorization

/-! ## What is authorized -/

@[simp] theorem sumNativeValueComponents_append (components more : List Component) :
    sumNativeValueComponents (components ++ more)
      = sumNativeValueComponents components + sumNativeValueComponents more := by
  simp [sumNativeValueComponents]

@[simp] theorem sumNativeValueComponents_nil : sumNativeValueComponents [] = 0 := rfl

@[simp] theorem unclassifiedNativeValue_append (components more : List Component) :
    unclassifiedNativeValue (components ++ more)
      = unclassifiedNativeValue components + unclassifiedNativeValue more := by
  simp [unclassifiedNativeValue]

@[simp] theorem unclassifiedNativeValue_unclassified (amountWei : Int) (detail : JsString) :
    unclassifiedNativeValue [unclassified amountWei detail] = amountWei := by
  simp [unclassifiedNativeValue, unclassified, sumNativeValueComponents]

@[simp] theorem unclassifiedNativeValue_positive (component : Option ProvenComponent) :
    unclassifiedNativeValue (positive .nativePrincipal component) = 0 := by
  unfold positive
  split
  · rfl
  · split_ifs with some_
    · rfl
    · rfl

theorem sumNativeValueComponents_positive (kind : ComponentKind)
    (component : Option ProvenComponent) :
    sumNativeValueComponents (positive kind component) = max 0 (amountOf component) := by
  unfold positive amountOf
  cases component with
  | none => rfl
  | some proven =>
    dsimp only [Option.map_some, Option.getD_some]
    split_ifs with some_
    · simp [sumNativeValueComponents, attributed, max_eq_right some_.le]
    · simp [max_eq_left (not_lt.1 some_)]

theorem evaluate_ok {authorization : Authorization}
    (passed : evaluateNativeValueAuthorization authorization = .ok ()) :
    (∀ component ∈ authorization.components, componentFault component = none)
      ∧ sumNativeValueComponents authorization.components = authorization.totalValueWei
      ∧ unclassifiedNativeValue authorization.components ≤ 0 := by
  unfold evaluateNativeValueAuthorization at passed
  split at passed
  · cases passed
  · rename_i faultless
    simp only [bind_eq_ok, refuseIf_eq_ok, not_not, not_lt] at passed
    obtain ⟨_, sum, attributedAll⟩ := passed
    exact ⟨List.findSome?_eq_none_iff.1 faultless, sum, attributedAll⟩

theorem authorized_value {call : NativeValueCall} {nativePrincipal : Option ProvenComponent}
    (passed : checkNativeValueAuthorizedForCall keccak256
      (classifyNativeValue keccak256 call ⟨nativePrincipal, none, none⟩) call = .ok ()) :
    call.valueWei = 0
      ∨ ∃ principal, nativePrincipal = some principal ∧ call.valueWei = principal.amountWei := by
  simp only [checkNativeValueAuthorizedForCall, bind_eq_ok, refuseIf_eq_ok] at passed
  obtain ⟨_, _, _, _, evaluated⟩ := passed
  obtain ⟨faultless, -, none_⟩ := evaluate_ok evaluated
  have known := sumNativeValueComponents_positive .nativePrincipal nativePrincipal
  have platform : positive .vexPlatformFee none = [] := rfl
  unfold classifyNativeValue at faultless none_
  dsimp only at faultless none_
  rw [platform, List.append_nil] at faultless none_
  split_ifs at faultless none_ with negative zero above whole left_
  · -- a negative component is at fault
    have fault := faultless _ List.mem_cons_self
    simp [componentFault, unclassified, negative.le] at fault
  · exact .inl zero
  · simp [buildNativeValueAuthorization] at none_
    omega
  · refine .inr ?_
    cases nativePrincipal with
    | none =>
      rw [known] at whole
      simp [amountOf] at whole
      exact absurd whole zero
    | some principal =>
      refine ⟨principal, rfl, ?_⟩
      rw [known] at whole
      simp [amountOf] at whole
      omega
  · -- whatever is left over is unattributed
    simp [buildNativeValueAuthorization] at none_
    simp at left_
    omega
  · -- the principal is no more than the value
    rw [known] at whole left_
    simp [amountOf] at above whole left_
    omega

end Digest

end Vex.Evm
