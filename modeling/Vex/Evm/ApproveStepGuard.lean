import Vex.Library.AbiWords
import Vex.Library.Checks

/-!
# Approvals that a plan may contain

A provider may ask for an `approve` before the deposit of a bridge. It is signed
only where its calldata is one, its spender is the target of the deposit
(`verifyApproveStepAuthorizesDeposit`), it is on the origin token and grants the
principal or nothing (`verifyApproveStepBindsPlan`), and the approvals of the plan
are a reset and a grant before the deposit (`verifyApprovalSequence`).

* `decodeCanonicalApprove_spec` — the calldata that decodes, word for word;
* `authorizesDeposit_ok`, `bindsPlan_ok` — what a step that passes is;
* `sequence_shape` — the shapes that approvals in order can have.
-/

namespace Vex.Evm

open Vex.Library Vex.Library.JsString

/-- What the guards use of the client library: `getAddress`, as the number of the address, and the
decoder of calldata. -/
structure Viem where
  getAddress : JsString → Option Nat
  decoder : AbiDecoder

/-- `toLowerCase` of a text of hexadecimal digits. -/
def lowerHex (value : JsString) : JsString := value.map lowerAscii

/-! ## Refusals -/

/-- `Erc20ApproveStepRefusalReason`. -/
inductive ApproveRefusalReason where
  | notCanonicalApprove
  | approveCarriesNativeValue
  | spenderNotDepositTarget
  | planHasNoDepositCall
  | approveOnNativeOrigin
  | tokenNotOriginCurrency
  | senderNotSelectedWallet
  | allowanceNotPrincipal
  | principalNotDerivable
  | extraApproveStep
  | approveAfterDeposit
  | allowanceResetWithoutGrant
  | allowanceResetAfterGrant
  deriving DecidableEq

structure ApproveRefusal where
  reason : ApproveRefusalReason
  detail : JsString
  deriving DecidableEq

structure Approve where
  spender : Nat
  allowance : Nat
  deriving DecidableEq

structure ApproveStepCall where
  to_ : JsString
  data : Option JsString
  value : Int
  sender : Option JsString

structure ApproveAmountBinding where
  originToken : Option JsString
  wallet : Nat
  principalRaw : Option Int
  deriving DecidableEq

section Guard

variable (viem : Viem)

/-- `sameAddress` of two texts. -/
def sameAddress (a b : JsString) : Bool :=
  viem.getAddress a ≠ none ∧ viem.getAddress a = viem.getAddress b

def erc20ApproveSelector : JsString := "0x095ea7b3"

def canonicalApproveHexLength : Nat := 2 + 8 + 128

def decodeCanonicalApprove (data : Option JsString) : Option Approve :=
  match data with
  | none => none
  | some data =>
    if data.length ≠ canonicalApproveHexLength then none
    else if (lowerHex data).take 10 ≠ erc20ApproveSelector then none
    else
      match viem.decoder.decode [.address, .uint256] (data.drop 10) with
      | some [.address spender, .uint256 allowance] => some ⟨spender, allowance⟩
      | _ => none

/-- The refusal of calldata that is no approval, or carries value. -/
def readApprove (call : ApproveStepCall) : Except ApproveRefusal Approve :=
  match decodeCanonicalApprove viem call.data with
  | none => .error ⟨.notCanonicalApprove,
      ("the approval step's calldata is not a canonical approve(address,uint256) call" : String)⟩
  | some approve =>
    if call.value ≠ 0 then
      .error ⟨.approveCarriesNativeValue, ("the approval step attaches " : JsString)
        ++ ofInt call.value ++ (" native wei, and an approval never sends value" : JsString)⟩
    else .ok approve

def verifyApproveStepAuthorizesDeposit (call : ApproveStepCall) (depositTarget : Option JsString) :
    Except ApproveRefusal Approve := do
  let approve ← readApprove viem call
  match depositTarget with
  | none => .error ⟨.planHasNoDepositCall,
      ("the plan makes no deposit call, so no token approval in it is legitimate" : String)⟩
  | some target =>
    if viem.getAddress target = some approve.spender then .ok approve
    else .error ⟨.spenderNotDepositTarget,
      ("the approval names a spender that is not the deposit this plan makes" : String)⟩

def verifyApproveStepBindsPlan (call : ApproveStepCall) (plan : ApproveAmountBinding) :
    Except ApproveRefusal Approve := do
  let approve ← readApprove viem call
  match plan.originToken with
  | none => .error ⟨.approveOnNativeOrigin,
      ("the origin asset is the chain's native currency, which has no token approval" : String)⟩
  | some originToken => do
    refuseIf (sameAddress viem call.to_ originToken = false)
      (⟨.tokenNotOriginCurrency, (("the approval targets a token contract that is not the origin "
        ++ "currency of this bridge" : String) : JsString)⟩ : ApproveRefusal)
    refuseIf (∃ sender ∈ call.sender, viem.getAddress sender ≠ some plan.wallet)
      (⟨.senderNotSelectedWallet, (("the approval would be sent from an address that is not the "
        ++ "selected wallet" : String) : JsString)⟩ : ApproveRefusal)
    match plan.principalRaw with
    | none =>
      refuseIf (approve.allowance ≠ 0)
        (⟨.principalNotDerivable, (("Vex derived no input amount for this bridge, so the "
          ++ "allowance cannot be bound" : String) : JsString)⟩ : ApproveRefusal)
    | some principal =>
      refuseIf (approve.allowance ≠ 0 ∧ (approve.allowance : Int) ≠ principal)
        (⟨.allowanceNotPrincipal, ("the approval grants " : JsString) ++ ofNat approve.allowance
          ++ (" where the deposit needs exactly " : JsString) ++ ofInt principal⟩ :
          ApproveRefusal)
    .ok approve

end Guard

structure ApprovalSequenceEntry where
  position : Nat
  allowance : Nat
  deriving DecidableEq

def verifyApprovalSequence (approvals : List ApprovalSequenceEntry) (depositPosition : Option Nat) :
    Except ApproveRefusal Unit :=
  if approvals = [] then .ok ()
  else
    match depositPosition with
    | none => .error ⟨.planHasNoDepositCall,
        ("the plan makes no deposit call, so no token approval in it is legitimate" : String)⟩
    | some deposit => do
      refuseIf (approvals.any fun entry => deposit ≤ entry.position)
        (⟨.approveAfterDeposit, (("a token approval is sequenced at or after the deposit it claims "
          ++ "to fund, so it would leave a standing allowance the bridge never needed" : String) :
          JsString)⟩ : ApproveRefusal)
      let grants := approvals.filter fun entry => entry.allowance ≠ 0
      let resets := approvals.filter fun entry => entry.allowance = 0
      refuseIf (1 < grants.length)
        (⟨.extraApproveStep, ("the plan grants a token allowance " : JsString)
          ++ ofNat grants.length
          ++ (" times, and one deposit needs at most one grant" : JsString)⟩ : ApproveRefusal)
      refuseIf (1 < resets.length)
        (⟨.extraApproveStep, ("the plan resets the allowance " : JsString) ++ ofNat resets.length
          ++ (" times, and one deposit needs at most one reset" : JsString)⟩ : ApproveRefusal)
      match resets.head?, grants.head? with
      | none, _ => .ok ()
      | some _, none => .error ⟨.allowanceResetWithoutGrant,
          (("the plan revokes an allowance and never grants one, so it is a bare approval change "
            ++ "rather than the approval a deposit needs" : String) : JsString)⟩
      | some reset, some grant =>
        refuseIf (grant.position < reset.position)
          (⟨.allowanceResetAfterGrant, (("the plan resets the allowance after granting it, which "
            ++ "would leave the deposit unfunded" : String) : JsString)⟩ : ApproveRefusal)

/-! ## What passes -/

/-- Calldata that approves an allowance to a spender: 68 bytes, of which the first twelve of the
spender's word are not read. -/
structure IsApprove (data : JsString) (approve : Approve) : Prop where
  length : data.length = canonicalApproveHexLength
  selector : (lowerHex data).take 10 = erc20ApproveSelector
  spender : abiWord (data.drop 10) 0 % 2 ^ 160 = approve.spender
  allowance : abiWord (data.drop 10) 1 = approve.allowance

section Passes

variable {viem : Viem}

variable {approve : Approve}

theorem decodeCanonicalApprove_spec {data : Option JsString}
    (decoded : decodeCanonicalApprove viem data = some approve) :
    ∃ text, data = some text ∧ IsApprove text approve := by
  unfold decodeCanonicalApprove at decoded
  cases data with
  | none => cases decoded
  | some text =>
    dsimp only at decoded
    split_ifs at decoded with long other
    push Not at long other
    split at decoded
    · rename_i spender allowance read
      obtain rfl := Option.some.inj decoded
      have whole : (text.drop 10).length % 2 = 0 := by
        rw [List.length_drop, long]
        rfl
      obtain ⟨-, words⟩ := viem.decoder.words whole read
      simp only [abiValues, AbiType.read, List.cons.injEq, AbiValue.address.injEq,
        AbiValue.uint256.injEq, and_true] at words
      exact ⟨text, rfl, long, other, words.1.symm, words.2.symm⟩
    · cases decoded

variable {call : ApproveStepCall}

theorem readApprove_ok (read : readApprove viem call = .ok approve) :
    call.value = 0 ∧ ∃ text, call.data = some text ∧ IsApprove text approve := by
  unfold readApprove at read
  split at read
  · cases read
  · rename_i decoded decodes
    split_ifs at read with carries
    obtain rfl := Except.ok.inj read
    exact ⟨not_not.1 carries, decodeCanonicalApprove_spec decodes⟩

theorem authorizesDeposit_ok {target : Option JsString}
    (passed : verifyApproveStepAuthorizesDeposit viem call target = .ok approve) :
    readApprove viem call = .ok approve
      ∧ ∃ text, target = some text ∧ viem.getAddress text = some approve.spender := by
  rw [verifyApproveStepAuthorizesDeposit, bind_eq_ok] at passed
  obtain ⟨decoded, read, passed⟩ := passed
  split at passed
  · cases passed
  · rename_i text
    split_ifs at passed with same
    obtain rfl := Except.ok.inj passed
    exact ⟨read, text, rfl, same⟩

theorem bindsPlan_ok {plan : ApproveAmountBinding}
    (passed : verifyApproveStepBindsPlan viem call plan = .ok approve) :
    readApprove viem call = .ok approve
      ∧ (∃ token, plan.originToken = some token ∧ sameAddress viem call.to_ token = true)
      ∧ (∀ sender ∈ call.sender, viem.getAddress sender = some plan.wallet)
      ∧ (approve.allowance = 0 ∨ plan.principalRaw = some (approve.allowance : Int)) := by
  rw [verifyApproveStepBindsPlan, bind_eq_ok] at passed
  obtain ⟨decoded, read, passed⟩ := passed
  split at passed
  · cases passed
  · rename_i token native
    simp only [bind_eq_ok, refuseIf_eq_ok, Bool.not_eq_false, not_exists, not_and, not_not] at passed
    obtain ⟨_, onToken, _, fromWallet, passed⟩ := passed
    split at passed
    · rename_i underived
      simp only [bind_eq_ok, refuseIf_eq_ok, not_not] at passed
      obtain ⟨_, zero, result⟩ := passed
      obtain rfl := Except.ok.inj result
      exact ⟨read, ⟨token, native, onToken⟩, fromWallet, .inl zero⟩
    · rename_i principal derived
      simp only [bind_eq_ok, refuseIf_eq_ok, not_and, not_not] at passed
      obtain ⟨_, bound, result⟩ := passed
      obtain rfl := Except.ok.inj result
      refine ⟨read, ⟨token, native, onToken⟩, fromWallet, ?_⟩
      by_cases zero : decoded.allowance = 0
      · exact .inl zero
      · exact .inr (by rw [derived, bound zero])

end Passes

/-! ## The order -/

/-- The allowances of a plan: none, one grant, or a reset and a grant. -/
def ApprovalShape (allowances : List Nat) : Prop :=
  allowances = [] ∨ ∃ grant, grant ≠ 0 ∧ (allowances = [grant] ∨ allowances = [0, grant])

variable {approvals : List ApprovalSequenceEntry}

theorem sequence_early {deposit : Nat}
    (passed : verifyApprovalSequence approvals (some deposit) = .ok ()) :
    ∀ entry ∈ approvals, entry.position < deposit := by
  intro entry member
  rw [verifyApprovalSequence, if_neg (List.ne_nil_of_mem member)] at passed
  simp only [bind_eq_ok, refuseIf_eq_ok] at passed
  obtain ⟨_, early, -⟩ := passed
  by_contra late
  exact early (List.any_eq_true.2 ⟨entry, member, by simpa using late⟩)

theorem sequence_shape {depositPosition : Option Nat}
    (ordered : approvals.Pairwise fun first second => first.position < second.position)
    (passed : verifyApprovalSequence approvals depositPosition = .ok ()) :
    ApprovalShape (approvals.map (·.allowance)) := by
  unfold verifyApprovalSequence at passed
  split_ifs at passed with none_
  · subst none_
    exact .inl rfl
  · split at passed
    · cases passed
    · simp only [bind_eq_ok, refuseIf_eq_ok] at passed
      obtain ⟨_, -, _, oneGrant, _, oneReset, passed⟩ := passed
      rcases approvals with _ | ⟨one, _ | ⟨two, _ | ⟨three, rest⟩⟩⟩
      · exact absurd rfl none_
      · by_cases zero : one.allowance = 0
        · simp [zero] at passed
        · exact .inr ⟨_, zero, .inl rfl⟩
      · have before : one.position < two.position := by simpa using ordered
        by_cases zeroOne : one.allowance = 0
        · by_cases zeroTwo : two.allowance = 0
          · simp [zeroOne, zeroTwo] at oneReset
          · exact .inr ⟨_, zeroTwo, .inr (by simp [zeroOne])⟩
        · by_cases zeroTwo : two.allowance = 0
          · simp [zeroOne, zeroTwo] at passed
            omega
          · simp [zeroOne, zeroTwo] at oneGrant
      · -- two of the three are of one kind
        by_cases zeroOne : one.allowance = 0 <;> by_cases zeroTwo : two.allowance = 0 <;>
          by_cases zeroThree : three.allowance = 0 <;>
          simp [zeroOne, zeroTwo, zeroThree] at oneGrant oneReset

end Vex.Evm
