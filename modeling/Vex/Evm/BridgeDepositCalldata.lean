import Vex.Evm.ApproveStepGuard

/-!
# The calldata of a deposit

Where the signature behind a selector is confirmed, the arguments of a deposit are
compared with the plan: the account it credits, the token, and the principal, as an
argument or as the value of the transaction. The overload that pulls a whole
allowance is refused. A selector that nobody confirms is let through unread, and
said to be so.

* `depositCalldata_bound` — what a deposit that is bound moves.
-/

namespace Vex.Evm

open Vex.Library Vex.Library.JsString

/-- `BridgeDepositCalldataRefusalReason`. -/
inductive DepositRefusalReason where
  | depositCalldataUndecodable
  | depositTokenNotOrigin
  | depositPrincipalMismatch
  | depositDepositorNotWallet
  | depositAllowancePullUnbindable
  deriving DecidableEq

structure DepositRefusal where
  reason : DepositRefusalReason
  detail : JsString
  deriving DecidableEq

structure VerifiedDepositSignature where
  signature : JsString
  types : List AbiType
  tokenArg : Option Nat
  amountArg : Option Nat
  depositorArg : Option Nat
  principalIsTxValue : Bool
  deriving DecidableEq

/-- The selectors of the table, and of the overload that pulls an allowance. -/
def depositErc20Selector : JsString := "0xe8017952"

def depositNativeSelector : JsString := "0x49290c1c"

def allowancePullSelector : JsString := "0x5a1ee3ac"

/-- `depositErc20(address,address,uint256,bytes32)`. -/
def depositErc20 : VerifiedDepositSignature where
  signature := "depositErc20(address,address,uint256,bytes32)"
  types := [.address, .address, .uint256, .bytes32]
  depositorArg := some 0
  tokenArg := some 1
  amountArg := some 2
  principalIsTxValue := false

/-- `depositNative(address,bytes32)`. -/
def depositNative : VerifiedDepositSignature where
  signature := "depositNative(address,bytes32)"
  types := [.address, .bytes32]
  depositorArg := some 0
  tokenArg := none
  amountArg := none
  principalIsTxValue := true

def verifiedDepositSignatures (selector : JsString) : Option VerifiedDepositSignature :=
  if selector = depositErc20Selector then some depositErc20
  else if selector = depositNativeSelector then some depositNative
  else none

def unbindableDepositSignatures (selector : JsString) : Option JsString :=
  if selector = allowancePullSelector then some ("depositErc20(address,address,bytes32)" : String)
  else none

structure BridgeDepositCall where
  data : Option JsString
  value : Int
  deriving DecidableEq

/-- A verdict that lets a deposit through: its signature, or the selector nobody confirms. -/
inductive DepositVerdict where
  | bound (signature : JsString)
  | unbound (selector : JsString)

def selectorOf (data : Option JsString) : Option JsString :=
  match data with
  | none => none
  | some data =>
    if data.take 2 = [48, 120] ∧ ((data.drop 2).take 8).length = 8
        ∧ ((data.drop 2).take 8).all isHexDigit then
      some (lowerHex (data.take 10))
    else none

section Verify

variable (viem : Viem)

def creditsWallet (known : VerifiedDepositSignature) (values : List AbiValue) (wallet : Nat) : Bool :=
  match known.depositorArg with
  | none => true
  | some place => values[place]? = some (.address wallet)

def movesOrigin (known : VerifiedDepositSignature) (values : List AbiValue)
    (originToken : Option JsString) : Bool :=
  match known.tokenArg with
  | none => true
  | some place =>
    match originToken, values[place]? with
    | some token, some (.address moved) => viem.getAddress token = some moved
    | _, _ => false

def movesPrincipal (known : VerifiedDepositSignature) (values : List AbiValue) (value : Int)
    (principalRaw : Option Int) : Bool :=
  match principalRaw with
  | none => true
  | some principal =>
    match known.amountArg with
    | some place =>
      match values[place]? with
      | some (.uint256 amount) => (amount : Int) = principal
      | _ => false
    | none => known.principalIsTxValue = false ∨ value = principal

def principalMismatch (known : VerifiedDepositSignature) (values : List AbiValue) (value : Int)
    (principalRaw : Option Int) : JsString :=
  let principal := (principalRaw.map ofInt).getD []
  match known.amountArg with
  | some place =>
    ("the deposit would move " : JsString) ++ (match values[place]? with
          | some (.uint256 amount) => ofNat amount
          | _ => ("an unreadable amount" : JsString))
      ++ (" where the plan bridges exactly " : JsString) ++ principal
  | none =>
    ("the deposit sends " : JsString) ++ ofInt value
      ++ (" native wei where the plan bridges exactly " : JsString) ++ principal

def verifyBridgeDepositCalldata (call : BridgeDepositCall) (plan : ApproveAmountBinding) :
    Except DepositRefusal DepositVerdict :=
  match selectorOf call.data with
  | none => .ok (.unbound "0x")
  | some selector =>
    match unbindableDepositSignatures selector with
    | some unbindable => .error ⟨.depositAllowancePullUnbindable,
        ("the deposit calls " : JsString) ++ unbindable ++ (" (selector " : JsString) ++ selector
          ++ (("), the overload that pulls the whole standing allowance instead of an amount Vex "
            ++ "can bind to this plan" : String) : JsString)⟩
    | none =>
      match verifiedDepositSignatures selector with
      | none => .ok (.unbound selector)
      | some known =>
        match viem.decoder.decode known.types ((call.data.getD []).drop 10) with
        | none => .error ⟨.depositCalldataUndecodable,
            ("the deposit calls " : JsString) ++ known.signature
              ++ (" with an argument body Vex could not decode" : JsString)⟩
        | some values => do
          refuseIf (creditsWallet known values plan.wallet = false)
            (⟨.depositDepositorNotWallet, (("the deposit would be credited to an account "
              ++ "that is not the selected wallet" : String) : JsString)⟩ : DepositRefusal)
          refuseIf (movesOrigin viem known values plan.originToken = false)
            (⟨.depositTokenNotOrigin, (("the deposit would move a token that is not the "
              ++ "origin currency of this bridge" : String) : JsString)⟩ : DepositRefusal)
          refuseIf (movesPrincipal known values call.value plan.principalRaw = false)
            (⟨.depositPrincipalMismatch, principalMismatch known values call.value
              plan.principalRaw⟩ : DepositRefusal)
          .ok (.bound known.signature)

end Verify

/-! ## What a bound deposit moves -/

/-- A deposit of a token: the words of the arguments. -/
structure DepositsErc20 (viem : Viem) (data : JsString) (plan : ApproveAmountBinding) : Prop where
  credits : abiWord (data.drop 10) 0 % 2 ^ 160 = plan.wallet
  token : ∃ token, plan.originToken = some token
    ∧ viem.getAddress token = some (abiWord (data.drop 10) 1 % 2 ^ 160)
  principal : ∀ principal ∈ plan.principalRaw, (abiWord (data.drop 10) 2 : Int) = principal

/-- A deposit of the native currency: its value is the principal. -/
structure DepositsNative (data : JsString) (value : Int) (plan : ApproveAmountBinding) : Prop where
  credits : abiWord (data.drop 10) 0 % 2 ^ 160 = plan.wallet
  principal : ∀ principal ∈ plan.principalRaw, value = principal

/-- What the calldata of a deposit that passes is: where its selector is confirmed, its words are
the wallet, the origin token and the principal. -/
structure DepositBound (viem : Viem) (data : JsString) (value : Int) (plan : ApproveAmountBinding) :
    Prop where
  erc20 : selectorOf (some data) = some depositErc20Selector → DepositsErc20 viem data plan
  native : selectorOf (some data) = some depositNativeSelector → DepositsNative data value plan
  noPull : selectorOf (some data) ≠ some allowancePullSelector

section Bound

variable {viem : Viem} {data : JsString} {value : Int} {plan : ApproveAmountBinding}

theorem verified_checks {selector : JsString} {known : VerifiedDepositSignature}
    {verdict : DepositVerdict} (selected : selectorOf (some data) = some selector)
    (bindable : unbindableDepositSignatures selector = none)
    (verified : verifiedDepositSignatures selector = some known)
    (passed : verifyBridgeDepositCalldata viem ⟨some data, value⟩ plan = .ok verdict) :
    ∃ values, viem.decoder.decode known.types (data.drop 10) = some values
      ∧ creditsWallet known values plan.wallet = true
      ∧ movesOrigin viem known values plan.originToken = true
      ∧ movesPrincipal known values value plan.principalRaw = true := by
  unfold verifyBridgeDepositCalldata at passed
  rw [selected] at passed
  dsimp only at passed
  rw [bindable] at passed
  dsimp only at passed
  rw [verified] at passed
  dsimp only [Option.getD_some] at passed
  split at passed
  · cases passed
  · rename_i values decoded
    simp only [bind_eq_ok, refuseIf_eq_ok, Bool.not_eq_false] at passed
    obtain ⟨_, credits, _, token, _, principal, -⟩ := passed
    exact ⟨values, decoded, credits, token, principal⟩

theorem depositCalldata_bound {verdict : DepositVerdict} (whole : data.length % 2 = 0)
    (passed : verifyBridgeDepositCalldata viem ⟨some data, value⟩ plan = .ok verdict) :
    DepositBound viem data value plan := by
  have body : 10 ≤ data.length → (data.drop 10).length % 2 = 0 := by
    intro long
    rw [List.length_drop]
    omega
  have long : ∀ {selector}, selectorOf (some data) = some selector → 10 ≤ data.length := by
    intro selector selected
    unfold selectorOf at selected
    dsimp only at selected
    split_ifs at selected with matched
    have eight := matched.2.1
    rw [List.length_take, List.length_drop] at eight
    omega
  refine ⟨fun selected => ?_, fun selected => ?_, fun selected => ?_⟩
  · obtain ⟨values, decoded, credits, token, principal⟩ :=
      verified_checks selected (by decide)
        (show verifiedDepositSignatures depositErc20Selector = some depositErc20 by decide)
        passed
    obtain ⟨-, rfl⟩ := viem.decoder.words (body (long selected)) decoded
    refine ⟨?_, ?_, ?_⟩
    · simpa [creditsWallet, depositErc20, abiValues, AbiType.read] using credits
    · cases origin : plan.originToken with
      | none => simp [movesOrigin, depositErc20, origin] at token
      | some text =>
        refine ⟨text, rfl, ?_⟩
        simpa [movesOrigin, depositErc20, abiValues, AbiType.read, origin] using token
    · rintro amount member
      rw [Option.mem_def] at member
      simpa [movesPrincipal, depositErc20, abiValues, AbiType.read, member] using principal
  · obtain ⟨values, decoded, credits, -, principal⟩ :=
      verified_checks selected (by decide)
        (show verifiedDepositSignatures depositNativeSelector = some depositNative by decide)
        passed
    obtain ⟨-, rfl⟩ := viem.decoder.words (body (long selected)) decoded
    refine ⟨?_, ?_⟩
    · simpa [creditsWallet, depositNative, abiValues, AbiType.read] using credits
    · rintro amount member
      rw [Option.mem_def] at member
      simpa [movesPrincipal, depositNative, member] using principal
  · unfold verifyBridgeDepositCalldata at passed
    rw [selected] at passed
    have pulls : unbindableDepositSignatures allowancePullSelector
        = some ("depositErc20(address,address,bytes32)" : JsString) := by decide
    dsimp only at passed
    rw [pulls] at passed
    cases passed

end Bound

end Vex.Evm
