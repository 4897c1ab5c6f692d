import Mathlib.Algebra.Order.BigOperators.Group.List
import Mathlib.Algebra.Order.Group.Int
import Vex.Evm.NativeValue

/-!
# Every wei of native value is accounted for

`proveEvmNativeValue` puts together what Vex derived itself and what the venue's
prover decoded and read. The components of a classification add up to the value
of the call (`sum_classified`) unless a declared amount is negative and the other
exceeds the value; a principal that the two sources disagree on is the smaller
one (`principal_le`). What the authorization check lets through is the call that
was classified, with nothing left unattributed (`authorized_call`).
-/

namespace Vex.Evm

open Vex.Library Vex.Library.JsString

/-- The units of `Address` and `Hex` texts. -/
def isHexUnit (unit : UInt16) : Bool := isHexDigit unit || unit == 120

/-- A call whose target and calldata are hexadecimal; absent calldata is `0x`. -/
structure EvmCall extends NativeValueCall where
  hexTarget : ∀ unit ∈ to_, isHexUnit unit = true
  hexData : ∀ unit ∈ data, isHexUnit unit = true

/-- What `proveDebridgeOrderNativeCharge` proves of a call. -/
structure DebridgeProof where
  giveTokenIsNative : Bool
  giveAmountWei : Int
  fixedFeeWei : Int

/-- `VexDerivedNativeValue`. -/
structure VexDerived where
  nativePrincipal : Option ProvenComponent
  platformFee : Option ProvenComponent

def reconcilePrincipal : Option ProvenComponent → Option ProvenComponent → Option ProvenComponent
  | vexDerived, none => vexDerived
  | none, some decoded => some decoded
  | some vexDerived, some decoded =>
    if decoded.amountWei ≤ vexDerived.amountWei then some decoded else some vexDerived

def decodedPrincipal (proof : DebridgeProof) : Option ProvenComponent :=
  if proof.giveTokenIsNative then some ⟨proof.giveAmountWei, "giveAmount"⟩ else none

/-- What is classified, with the proof of the prover where it recognised the call. -/
def legRequest (derived : VexDerived) (proof : Option DebridgeProof) : ClassificationRequest :=
  match proof with
  | none => ⟨derived.nativePrincipal, derived.platformFee, none⟩
  | some proof => ⟨reconcilePrincipal derived.nativePrincipal (decodedPrincipal proof),
      derived.platformFee, some ⟨proof.fixedFeeWei, "globalFixedNativeFee()"⟩⟩

section Digest

variable (keccak256 : JsString → JsString)

def proveEvmNativeValue (call : NativeValueCall) (derived : VexDerived)
    (proof : Option DebridgeProof) : Authorization :=
  if call.valueWei = 0 then buildNativeValueAuthorization keccak256 call []
  else classifyNativeValue keccak256 call (legRequest derived proof)

/-! ## The components add up -/

/-- One declared amount is negative, and the other exceeds a value the two fit in. -/
def Overdeclared (value : Int) (request : ClassificationRequest) : Prop :=
  0 < value ∧ amountOf request.nativePrincipal + amountOf request.vexPlatformFee ≤ value ∧
    value < max 0 (amountOf request.nativePrincipal) + max 0 (amountOf request.vexPlatformFee)

theorem sum_unclassified (amountWei : Int) (detail : JsString) :
    sumNativeValueComponents [unclassified amountWei detail] = amountWei := by
  simp [sumNativeValueComponents, unclassified]

theorem sum_classified (call : NativeValueCall) (request : ClassificationRequest) :
    sumNativeValueComponents (classifyNativeValue keccak256 call request).components =
      call.valueWei ↔ ¬ Overdeclared call.valueWei request := by
  have principal := sumNativeValueComponents_positive .nativePrincipal request.nativePrincipal
  have platform := sumNativeValueComponents_positive .vexPlatformFee request.vexPlatformFee
  have single (kind : ComponentKind) (fee : ProvenComponent) :
      sumNativeValueComponents [attributed kind fee] = fee.amountWei := by
    simp [sumNativeValueComponents, attributed]
  have fits {value : Int} (below : value ≤ 0 ∨ value < amountOf request.nativePrincipal +
      amountOf request.vexPlatformFee) : ¬ Overdeclared value request := by
    rintro ⟨positive, declared, -⟩
    omega
  unfold classifyNativeValue
  dsimp only
  generalize named : positive .nativePrincipal request.nativePrincipal ++
    positive .vexPlatformFee request.vexPlatformFee = known
  have sum : sumNativeValueComponents known = max 0 (amountOf request.nativePrincipal) +
      max 0 (amountOf request.vexPlatformFee) := by
    rw [← named, sumNativeValueComponents_append, principal, platform]
  by_cases negative : call.valueWei < 0
  · rw [if_pos negative]
    exact iff_of_true (sum_unclassified _ _) (fits (.inl negative.le))
  rw [if_neg negative]
  by_cases zero : call.valueWei = 0
  · rw [if_pos zero]
    exact iff_of_true zero.symm (fits (.inl zero.le))
  rw [if_neg zero]
  by_cases above : call.valueWei < amountOf request.nativePrincipal + amountOf request.vexPlatformFee
  · rw [if_pos above]
    exact iff_of_true (sum_unclassified _ _) (fits (.inr above))
  rw [if_neg above]
  have past : Overdeclared call.valueWei request ↔ call.valueWei < sumNativeValueComponents known := by
    rw [sum]
    exact ⟨fun past => past.2.2, fun past => ⟨by omega, by omega, past⟩⟩
  rw [past]
  by_cases whole : call.valueWei - sumNativeValueComponents known = 0
  · rw [if_pos whole]
    change sumNativeValueComponents known = _ ↔ _
    omega
  rw [if_neg whole]
  have remainder (fee : List Component) (detail : JsString)
      (fits : sumNativeValueComponents fee = 0 ∨ 0 ≤ sumNativeValueComponents fee ∧
        sumNativeValueComponents fee ≤ call.valueWei - sumNativeValueComponents known) :
      sumNativeValueComponents (known ++ fee ++
        if 0 < call.valueWei - sumNativeValueComponents known - sumNativeValueComponents fee then
          [unclassified (call.valueWei - sumNativeValueComponents known -
            sumNativeValueComponents fee) detail]
        else []) = call.valueWei ↔ ¬ call.valueWei < sumNativeValueComponents known := by
    rw [sumNativeValueComponents_append, sumNativeValueComponents_append]
    split_ifs
    · rw [sum_unclassified]
      omega
    · rw [sumNativeValueComponents_nil]
      omega
  cases request.provenProtocolFee with
  | none => exact remainder [] _ (.inl rfl)
  | some fee =>
    refine remainder _ _ ?_
    dsimp only
    split_ifs with proven
    · rw [single]
      exact .inr ⟨proven.1.le, proven.2⟩
    · exact .inl rfl

/-- A principal is the amount of the principal that was put in. -/
theorem principal_of_classified {call : NativeValueCall} {request : ClassificationRequest}
    {component : Component}
    (member : component ∈ (classifyNativeValue keccak256 call request).components)
    (principal : component.kind = .nativePrincipal) :
    component.amountWei = amountOf request.nativePrincipal := by
  have alone {amountWei : Int} {detail : JsString} :
      component ∉ [unclassified amountWei detail] := by
    intro inside
    obtain rfl := List.mem_singleton.1 inside
    cases principal
  have fee {proven : ProvenComponent} {kind : ComponentKind} (other : kind ≠ .nativePrincipal) :
      component ∉ [attributed kind proven] := by
    intro inside
    obtain rfl := List.mem_singleton.1 inside
    exact other principal
  have known (inside : component ∈ positive .nativePrincipal request.nativePrincipal ++
      positive .vexPlatformFee request.vexPlatformFee) :
      component.amountWei = amountOf request.nativePrincipal := by
    rcases List.mem_append.1 inside with inside | inside
    · cases own : request.nativePrincipal with
      | none => simp [own, positive] at inside
      | some proven =>
        simp only [own, positive] at inside
        split_ifs at inside
        · obtain rfl := List.mem_singleton.1 inside
          rfl
        · cases inside
    · cases own : request.vexPlatformFee with
      | none => simp [own, positive] at inside
      | some proven =>
        simp only [own, positive] at inside
        split_ifs at inside
        · exact absurd inside (fee (by decide))
        · cases inside
  have protocol {proven : ProvenComponent} {remaining : Int} (inside : component ∈
      if 0 < proven.amountWei ∧ proven.amountWei ≤ remaining then [attributed .protocolFee proven]
      else []) : False := by
    split_ifs at inside
    · exact fee (by decide) inside
    · cases inside
  unfold classifyNativeValue at member
  dsimp only at member
  split_ifs at member
  · exact absurd member alone
  · cases member
  · exact absurd member alone
  · exact known member
  · rcases List.mem_append.1 member with member | left
    · rcases List.mem_append.1 member with member | fee
      · exact known member
      · split at fee
        · cases fee
        · exact (protocol fee).elim
    · exact absurd left alone
  · rcases List.mem_append.1 member with member | left
    · rcases List.mem_append.1 member with member | fee
      · exact known member
      · split at fee
        · cases fee
        · exact (protocol fee).elim
    · cases left

/-! ## The call that is authorized -/

/-- The two calls send one value with the same calldata to one target of a chain; hexadecimal
digits may be written in either case. -/
structure SameCall (call other : NativeValueCall) : Prop where
  chainId : call.chainId = other.chainId
  target : call.to_.map lowerAscii = other.to_.map lowerAscii
  data : call.data.map lowerAscii = other.data.map lowerAscii
  valueWei : call.valueWei = other.valueWei

theorem separator_free {text : JsString} (hex : ∀ unit ∈ text, isHexUnit unit = true) :
    124 ∉ text.map lowerAscii := by
  intro inside
  obtain ⟨unit, member, same⟩ := List.mem_map.1 inside
  have kind := hex unit member
  rw [lowerAscii] at same
  split_ifs at same with upper
  · obtain rfl : unit = 92 := (UInt16.add_left_inj 32).1 same
    cases upper
  · subst same
    cases kind

theorem separator_free_ofInt (value : Int) : 124 ∉ ofInt value := by
  intro inside
  rcases mem_ofInt inside with sign | digit
  · cases sign
  · cases digit

variable {keccak256} in
theorem sameCall_of_fingerprint (injective : Function.Injective keccak256) {call other : EvmCall}
    (same : nativeValueCallFingerprint keccak256 call.toNativeValueCall =
      nativeValueCallFingerprint keccak256 other.toNativeValueCall) :
    SameCall call.toNativeValueCall other.toNativeValueCall := by
  have text := injective same
  simp only [List.append_assoc] at text
  have text := List.append_cancel_left text
  obtain ⟨chainId, text⟩ := field_eq (separator_free_ofInt _) (separator_free_ofInt _) text
  obtain ⟨target, text⟩ := field_eq (separator_free call.hexTarget)
    (separator_free other.hexTarget) text
  obtain ⟨data, text⟩ := field_eq (separator_free call.hexData) (separator_free other.hexData) text
  exact ⟨ofInt_injective chainId, target, data, ofInt_injective text⟩

variable {keccak256} in
theorem authorized_call {authorization : Authorization} {call : NativeValueCall}
    (passed : checkNativeValueAuthorizedForCall keccak256 authorization call = .ok ()) :
    nativeValueCallFingerprint keccak256 call = authorization.fingerprint ∧
      sumNativeValueComponents authorization.components = call.valueWei ∧
      ∀ component ∈ authorization.components, component.kind ≠ .unclassified := by
  simp only [checkNativeValueAuthorizedForCall, bind_eq_ok, refuseIf_eq_ok, not_not] at passed
  obtain ⟨_, same, _, value, evaluated⟩ := passed
  obtain ⟨faultless, sum, attributedAll⟩ := evaluate_ok evaluated
  refine ⟨same, sum.trans value, fun component member kind => ?_⟩
  have positive {component : Component} (inside : component ∈ authorization.components) :
      0 < component.amountWei := by
    have fault := faultless component inside
    rw [componentFault] at fault
    by_contra none_
    rw [if_pos (not_lt.1 none_)] at fault
    cases fault
  have bounded := List.single_le_sum (l := (authorization.components.filter fun component =>
    component.kind = .unclassified).map (·.amountWei)) (by
      intro amount inside
      obtain ⟨own, kept, rfl⟩ := List.mem_map.1 inside
      exact (positive (List.mem_filter.1 kept).1).le) component.amountWei
    (List.mem_map_of_mem (List.mem_filter.2 ⟨member, by simpa using kind⟩))
  exact absurd ((positive member).trans_le bounded) (not_lt.2 attributedAll)

/-! ## What a leg proves -/

/-- The components add up to the value; what is authorized is the call that was classified,
with nothing unattributed; and no more than the smaller of two principals is a principal. -/
structure Accounted (call checked : EvmCall) (derived : VexDerived) (proof : Option DebridgeProof) :
    Prop where
  whole : sumNativeValueComponents
    (proveEvmNativeValue keccak256 call.toNativeValueCall derived proof).components = call.valueWei
  authorized : checkNativeValueAuthorizedForCall keccak256
      (proveEvmNativeValue keccak256 call.toNativeValueCall derived proof)
      checked.toNativeValueCall = .ok () →
    SameCall checked.toNativeValueCall call.toNativeValueCall ∧
      ∀ component ∈ (proveEvmNativeValue keccak256 call.toNativeValueCall derived proof).components,
        component.kind ≠ .unclassified
  principal : ∀ own decoded, derived.nativePrincipal = some own →
    proof.bind decodedPrincipal = some decoded →
      ∀ component ∈ (proveEvmNativeValue keccak256 call.toNativeValueCall derived proof).components,
        component.kind = .nativePrincipal →
          component.amountWei ≤ min own.amountWei decoded.amountWei

variable {keccak256} in
theorem accounted_iff (injective : Function.Injective keccak256) (call checked : EvmCall)
    (derived : VexDerived) (proof : Option DebridgeProof) :
    Accounted keccak256 call checked derived proof ↔
      ¬ Overdeclared call.valueWei (legRequest derived proof) := by
  have sum : sumNativeValueComponents (proveEvmNativeValue keccak256 call.toNativeValueCall derived
      proof).components = call.valueWei ↔ ¬ Overdeclared call.valueWei (legRequest derived proof) := by
    rw [proveEvmNativeValue]
    split_ifs with zero
    · exact iff_of_true zero.symm fun past => absurd past.1 (by omega)
    · exact sum_classified keccak256 _ _
  refine ⟨fun held => sum.1 held.whole, fun fits => ⟨sum.2 fits, fun passed => ?_, ?_⟩⟩
  · obtain ⟨same, -, unclassifiedNone⟩ := authorized_call passed
    refine ⟨sameCall_of_fingerprint injective (same.trans ?_), unclassifiedNone⟩
    unfold proveEvmNativeValue classifyNativeValue
    dsimp only
    split_ifs <;> rfl
  · intro own decoded first second component member kind
    rw [proveEvmNativeValue] at member
    split_ifs at member
    · cases member
    · rw [principal_of_classified keccak256 member kind]
      obtain ⟨proof, rfl, read⟩ := Option.bind_eq_some_iff.1 second
      change amountOf (reconcilePrincipal derived.nativePrincipal (decodedPrincipal proof)) ≤ _
      rw [first, read, reconcilePrincipal]
      split_ifs with smaller
      · exact le_min smaller le_rfl
      · exact le_min le_rfl (not_le.1 smaller).le

end Digest

/-- A call of a value. -/
def sendsValue (valueWei : Int) : EvmCall where
  chainId := 8453
  to_ := "0xeF4f"
  data := "0x4d8160ba"
  valueWei := valueWei
  hexTarget := List.all_eq_true.1 (by decide)
  hexData := List.all_eq_true.1 (by decide)

/-- A principal of 10 and a fixed fee of 1, in a value of 11. -/
theorem accounted_iff_principal_and_fee : Function.Injective (id : JsString → JsString) ∧
      Accounted id (sendsValue 11) (sendsValue 11) ⟨some ⟨10, "split"⟩, none⟩ (some ⟨true, 10, 1⟩) :=
  ⟨Function.injective_id, (accounted_iff Function.injective_id _ _ _ _).2 fun past => by
    have above := past.2.2
    revert above
    decide⟩

/-- A principal of 10 and a platform fee of -5 in a value of 6: the components add up to 10. -/
theorem negative_fee_is_over : ¬ Accounted id (sendsValue 6) (sendsValue 6)
    ⟨some ⟨10, "split"⟩, some ⟨-5, "fee"⟩⟩ none := by
  intro held
  have whole := held.whole
  revert whole
  decide

end Vex.Evm
