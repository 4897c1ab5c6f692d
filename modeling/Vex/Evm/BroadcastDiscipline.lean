import Vex.Evm.StagedBroadcast
import Vex.Library.Checks

/-!
# The discipline of a staged broadcast

A monitor follows the sequence from the lease over preparation, reservation, the last
check of the nonce, the signature and the staging to the submission, and has no next
stage where a call stands out of its turn or carries anything but what the stage holds.
The program meets the monitor whatever its calls answer, so what the discipline says of
a run is read off the accepted list of its events. A second monitor only remembers the
receipt that was found, and the outcome is read off what it remembers.
-/

namespace Vex.Evm.StagedBroadcast

open Vex.Library Vex.Library.JsString

variable (keccak256 : JsString → JsString) (describeFailureForLog : Failure → JsString)
  (signer : StagedSigner) (tx : StagedTxParams) (policy : Option StagedFeePolicy)

/-! ## What is signed -/

/-- A request that was prepared with so much gas, for the nonce that was reserved. -/
structure Draft where
  gas : Nat
  request : Request
  deriving DecidableEq

def Draft.signed (draft : Draft) (nonce : Nat) : Request := draft.request.signed nonce draft.gas

def Draft.final (draft : Draft) (nonce : Nat) : FinalSignedRequest :=
  draft.request.final nonce draft.gas

/-- The request is priced at most as approved, and its gas is at most what was approved. -/
def withinPolicy (policy : Option StagedFeePolicy) (request : Request) : Bool :=
  match policy with
  | none => true
  | some (.eip1559 limit maxFee maxPriority) =>
    limit.all (fun limit => !above request.gas limit) && !above request.fees.maxFeePerGas maxFee
      && !above request.fees.maxPriorityFeePerGas maxPriority
  | some (.legacy limit gasPrice) =>
    limit.all (fun limit => !above request.gas limit) && !above request.fees.gasPrice gasPrice
  | some (.exposure limit maxFee maxPriority maxNetworkFee) =>
    !above request.gas limit && !above request.fees.maxFeePerGas maxFee
      && !above request.fees.maxPriorityFeePerGas maxPriority
      && !above (request.gas.bind fun gas => request.fees.maxFeePerGas.map (gas * ·)) maxNetworkFee

theorem assertField_ok {field : JsString} {actual : Option Nat} {approved : Nat}
    (passes : assertField field actual approved = .ok ()) : above actual approved = false := by
  unfold assertField at passes
  split at passes
  · cases passes
  · exact Bool.eq_false_iff.2 ‹_›

theorem assertGasLimit_ok {actual limit : Option Nat}
    (passes : assertGasLimit actual limit = .ok ()) :
    limit.all (fun limit => !above actual limit) = true := by
  cases limit with
  | none => rfl
  | some limit =>
    have below := assertField_ok passes
    simp [below]

/-- The gas of an exposure limit was checked when the fees were read; the others check it
with the fees. -/
def gasApproved (policy : Option StagedFeePolicy) (gas : Nat) : Prop :=
  ∀ limit maxFee maxPriority maxNetworkFee,
    policy = some (.exposure limit maxFee maxPriority maxNetworkFee) → gas ≤ limit

theorem withinPolicy_of_assertFees {policy : Option StagedFeePolicy} {draft : Draft} {nonce : Nat}
    (approved : gasApproved policy draft.gas)
    (passes : assertFees policy draft.gas (draft.signed nonce) = .ok ()) :
    withinPolicy policy (draft.signed nonce) = true := by
  match policy with
  | none => rfl
  | some (.eip1559 limit maxFee maxPriority) =>
    obtain ⟨_, gas, passes⟩ := bind_eq_ok.1 passes
    obtain ⟨_, fee, priority⟩ := bind_eq_ok.1 passes
    simp only [withinPolicy, assertGasLimit_ok gas, assertField_ok fee, assertField_ok priority]
    rfl
  | some (.legacy limit gasPrice) =>
    obtain ⟨_, gas, price⟩ := bind_eq_ok.1 passes
    simp only [withinPolicy, assertGasLimit_ok gas, assertField_ok price]
    rfl
  | some (.exposure limit maxFee maxPriority maxNetworkFee) =>
    have gas : above (draft.signed nonce).gas limit = false :=
      decide_eq_false (Nat.not_lt.2 (approved limit maxFee maxPriority maxNetworkFee rfl))
    simp only [assertFees] at passes
    split at passes
    · cases passes
    · rename_i below
      simp only [not_or, Bool.not_eq_true] at below
      obtain ⟨fee, priority, network⟩ := below
      have network : above ((draft.signed nonce).gas.bind fun gas =>
        (draft.signed nonce).fees.maxFeePerGas.map (gas * ·)) maxNetworkFee = false := network
      simp only [withinPolicy, gas, fee, priority, network]
      rfl

/-! ## The monitor -/

/-- How far the sequence is. At `over` only releases follow, and `finished` is after the
owner of the nonce was given back at the very end. -/
inductive Stage where
  | idle
  | owned
  | prepared (draft : Draft)
  | reserved (draft : Draft) (nonce : Nat)
  | checked (draft : Draft) (nonce : Nat)
  | signed (draft : Draft) (nonce : Nat) (serialized : JsString)
  | staged (draft : Draft) (nonce : Nat) (serialized : JsString)
  | sent (draft : Draft) (nonce : Nat) (serialized : JsString)
  | settled (draft : Draft) (nonce : Nat) (serialized : JsString)
  | concluded
  | finished
  deriving DecidableEq

/-- The call that signs a draft: by the action of a given wallet, or offline for the chain of
the signer. -/
def signing (draft : Draft) (nonce : Nat) : Call :=
  match signer with
  | .eager _ _ => .signTransaction (draft.signed nonce)
  | .deferred _ chainId => .signOffline { draft.signed nonce with chainId := some chainId }

/-- The stages at which the sequence may end: nothing is under way. -/
def Stage.endable : Stage → Bool
  | .owned => true
  | .prepared _ => true
  | .reserved _ _ => true
  | .checked _ _ => true
  | .signed _ _ _ => true
  | .settled _ _ _ => true
  | .concluded => true
  | _ => false

/-- The next stage after an answer, and the same after a failure. -/
def Stage.onward {α : Type} (stage next : Stage) : Except Failure α → Stage
  | .ok _ => next
  | .error _ => stage

def Stage.reservedBy (draft : Draft) : Except Failure Int → Stage
  | .ok answer =>
    if answer < 0 ∨ 9007199254740991 < answer then .prepared draft
    else .reserved draft answer.toNat
  | .error _ => .prepared draft

def Stage.checkedBy (draft : Draft) (nonce : Nat) : Except Failure Int → Stage
  | .ok pending => if pending = nonce then .checked draft nonce else .reserved draft nonce
  | .error _ => .reserved draft nonce

/-- A failed signature is not tried again. -/
def Stage.signedBy (draft : Draft) (nonce : Nat) : Except Failure JsString → Stage
  | .ok serialized => .signed draft nonce serialized
  | .error _ => .concluded

def Stage.preparedBy (gas : Nat) : Except Failure Request → Stage
  | .ok request => .prepared ⟨gas, request⟩
  | .error _ => .owned

/-- A signature: of the draft that was checked, within what was approved. -/
def observeSigning (stage : Stage) (call : Call) (answer : Except Failure JsString) :
    Option Stage :=
  match stage with
  | .checked draft nonce =>
    if call = signing signer draft nonce ∧ withinPolicy policy (draft.signed nonce) = true then
      some (Stage.signedBy draft nonce answer)
    else none
  | _ => none

def observeWait (stage : Stage) (hash : Option JsString) : Option Stage :=
  match stage with
  | .settled draft nonce serialized =>
    if hash.all (· = keccak256 serialized) = true then some (.settled draft nonce serialized)
    else none
  | _ => none

/-- A call between the reservation and the check. -/
def observeResolving (stage : Stage) (request : Option FinalSignedRequest) : Option Stage :=
  match stage with
  | .reserved draft nonce =>
    if request.all (· = draft.final nonce) = true then some (.reserved draft nonce) else none
  | _ => none

def observe (stage : Stage) : BroadcastEvent → Option Stage
  | ⟨.acquireEvmNonceOwner address chainId, answer⟩ =>
    if stage = .idle ∧ address = signer.address ∧ chainId = signer.chainId then
      some (Stage.idle.onward .owned answer)
    else none
  | ⟨.estimateGasForPlanLeg _ _, _⟩ => if stage = .owned then some .owned else none
  | ⟨.estimateFeesPerGas, _⟩ => if stage = .owned then some .owned else none
  | ⟨.prepareTransactionRequest args, answer⟩ =>
    if stage = .owned ∧ args.account = signer.address ∧ args.chainId = signer.chainId
        ∧ args.tx = tx then some (Stage.preparedBy args.gas answer) else none
  | ⟨.onNonceReserved address chainId nodePendingNonce, answer⟩ =>
    match stage with
    | .prepared draft =>
      if address = signer.address ∧ chainId = signer.chainId
          ∧ draft.request.nonce = some nodePendingNonce then
        some (Stage.reservedBy draft answer)
      else none
    | _ => none
  | ⟨.deferredBeforeSign request, _⟩ => observeResolving stage (some request)
  | ⟨.createSigner, _⟩ => observeResolving stage none
  | ⟨.validateNonceReservationScope, _⟩ => observeResolving stage none
  | ⟨.getTransactionCount address, answer⟩ =>
    match stage with
    | .reserved draft nonce =>
      if address = signer.address then some (Stage.checkedBy draft nonce answer) else none
    | _ => none
  | ⟨.onBeforeSign request, _⟩ =>
    match stage with
    | .checked draft nonce =>
      if request = draft.final nonce then some (.checked draft nonce) else none
    | _ => none
  | ⟨.signTransaction request, answer⟩ =>
    observeSigning signer policy stage (.signTransaction request) answer
  | ⟨.signOffline request, answer⟩ =>
    observeSigning signer policy stage (.signOffline request) answer
  | ⟨.onHashStaged handles, answer⟩ =>
    match stage with
    | .signed draft nonce serialized =>
      if handles = ⟨keccak256 serialized, signer.address, nonce⟩ then
        some ((Stage.signed draft nonce serialized).onward (.staged draft nonce serialized) answer)
      else none
    | _ => none
  | ⟨.sendRawTransaction bytes, _⟩ =>
    match stage with
    | .staged draft nonce serialized =>
      if bytes = serialized then some (.sent draft nonce serialized) else none
    | _ => none
  | ⟨.onAccepted, _⟩ => observeWait keccak256 stage none
  | ⟨.performanceNow, _⟩ => observeWait keccak256 stage none
  | ⟨.waitForTransactionReceipt hash _, _⟩ => observeWait keccak256 stage (some hash)
  | ⟨.delay _, _⟩ => observeWait keccak256 stage none
  | ⟨.releaseReservations, _⟩ => if stage.endable = true then some .concluded else none
  | ⟨.releaseNonceOwner, _⟩ =>
    match stage with
    | .sent draft nonce serialized => some (.settled draft nonce serialized)
    | .concluded => some .finished
    | _ => none

/-! ## The program meets it -/

def Call.Waits (hash : JsString) : Call → Prop
  | .onAccepted => True
  | .performanceNow => True
  | .delay _ => True
  | .waitForTransactionReceipt waited _ => waited = hash
  | _ => False

variable (retry : ReceiptWaitRetryOptions)

theorem remaining_only (hash : JsString) : (remaining retry).Only (Call.Waits hash) :=
  Program.only_bind (Program.only_perform trivial) fun _ => trivial

theorem pause_only (hash : JsString) (attempt : Nat) :
    (pause retry attempt).Only (Call.Waits hash) := by
  unfold pause
  split
  · exact Program.only_bind (remaining_only retry hash) fun _ => Program.only_perform trivial
  · trivial

theorem waitAttempts_only (hash : JsString) (left attempt : Nat) (lastError : Failure) :
    (waitAttempts retry hash left attempt lastError).Only (Call.Waits hash) := by
  induction left generalizing attempt lastError with
  | zero => trivial
  | succ left ih =>
    refine Program.only_bind (remaining_only retry hash) fun budget => ?_
    split
    · trivial
    · refine Program.only_bind (Program.only_attempt (Program.only_perform rfl)) fun waited => ?_
      cases waited with
      | ok found => trivial
      | error failure =>
        dsimp only
        split
        · trivial
        · refine Program.only_bind (remaining_only retry hash) fun after_ => ?_
          split
          · trivial
          · exact Program.only_bind (pause_only retry hash attempt) fun _ => ih _ _

theorem waitForReceiptWithReplacementEvidence_only (hash : JsString) :
    (waitForReceiptWithReplacementEvidence retry hash).Only (Call.Waits hash) := by
  unfold waitForReceiptWithReplacementEvidence
  split
  · trivial
  · split
    · trivial
    · exact waitAttempts_only retry hash _ _ _

theorem awaitReceipt_only (policy : Option StagedFeePolicy) (retry : ReceiptWaitRetryOptions)
    (handles : StagedSendHandles) (tx : StagedTxParams) :
    (awaitReceipt policy retry handles tx).Only (Call.Waits handles.txHash) := by
  unfold awaitReceipt
  split
  · refine Program.only_bind (waitForReceiptWithReplacementEvidence_only retry _) fun waited => ?_
    split <;> trivial
  · refine Program.only_bind (Program.only_bind
      (waitForReceiptWithReplacementEvidence_only retry _) fun waited => ?_) fun _ => trivial
    split <;> trivial

section Meets

/-- The sequence ends where nothing is under way. -/
def Endable {α : Type} (_ : Except Failure α) (_ : Unit) (stage : Stage) : Prop :=
  stage.endable = true

variable {keccak256 signer tx policy} {draft : Draft} {nonce : Nat} {serialized : JsString}

theorem observe_waits (call : Call) (waits : call.Waits (keccak256 serialized))
    (answer : Except Failure call.Answer) :
    observe keccak256 signer tx policy (.settled draft nonce serialized) ⟨call, answer⟩ =
      some (.settled draft nonce serialized) := by
  have settled (hash : Option JsString) (same : ∀ waited ∈ hash, waited = keccak256 serialized) :
      observeWait keccak256 (.settled draft nonce serialized) hash =
        some (.settled draft nonce serialized) := by
    refine if_pos (Option.all_eq_true _ _ |>.2 fun waited among => ?_)
    exact decide_eq_true (same waited among)
  cases call with
  | onAccepted => exact settled none nofun
  | performanceNow => exact settled none nofun
  | delay ms => exact settled none nofun
  | waitForTransactionReceipt hash timeout =>
    refine settled (some hash) fun waited among => ?_
    rw [← Option.some.inj among]
    exact waits
  | _ => cases waits

theorem submit_wp (retry : ReceiptWaitRetryOptions) :
    (submit describeFailureForLog policy retry serialized
      ⟨keccak256 serialized, signer.address, nonce⟩ tx).wp (observe keccak256 signer tx policy)
      Endable () (.staged draft nonce serialized) := by
  refine Program.wp_attempt_perform_bind fun sent => ?_
  refine ⟨.sent draft nonce serialized, if_pos rfl, ?_⟩
  refine Program.wp_attempt_perform_bind fun released => ?_
  refine ⟨.settled draft nonce serialized, rfl, ?_⟩
  cases sent with
  | error failure => rfl
  | ok _ =>
    refine Program.wp_only observe_waits ?_ fun _ _ => rfl
    have accepted : (ask Call.onAccepted).Only (Call.Waits (keccak256 serialized)) :=
      Program.only_perform trivial
    refine Program.only_bind (Program.only_attempt accepted) fun _ => ?_
    have waits := awaitReceipt_only policy retry ⟨keccak256 serialized, signer.address, nonce⟩ tx
    refine Program.only_bind (Program.only_attempt waits) ?_
    intro waited
    cases waited <;> trivial

theorem sign_wp {wallet : Option ResolvedSigner} {α : Type} {next : JsString → Broadcast α}
    (arm : wallet.isSome = true ↔ ∃ address chainId, signer = .deferred address chainId)
    (within : withinPolicy policy (draft.signed nonce) = true)
    (onward : ∀ serialized, (next serialized).wp (observe keccak256 signer tx policy) Endable ()
      (.signed draft nonce serialized)) :
    (sign signer wallet (draft.signed nonce) >>= next).wp (observe keccak256 signer tx policy)
      Endable () (.checked draft nonce) := by
  have seen {call : Call} (same : call = signing signer draft nonce)
      (answer : Except Failure JsString) :
      observeSigning signer policy (.checked draft nonce) call answer =
        some (Stage.signedBy draft nonce answer) := if_pos ⟨same, within⟩
  cases wallet with
  | none =>
    cases signer with
    | deferred address chainId =>
      have resolved := arm.2 ⟨address, chainId, rfl⟩
      cases resolved
    | eager address chainId =>
      exact Program.wp_perform_bind (fun failure => ⟨_, seen rfl (.error failure), rfl⟩)
        fun serialized => ⟨_, seen rfl (.ok serialized), onward serialized⟩
  | some wallet =>
    obtain ⟨address, chainId, rfl⟩ := arm.1 rfl
    refine Program.wp_bind.2 ?_
    unfold sign
    dsimp only
    split
    · rfl
    · split
      · rfl
      · intro answer
        refine ⟨_, seen rfl answer, ?_⟩
        cases answer with
        | error failure => rfl
        | ok serialized => exact onward serialized

theorem observeResolving_reserved (request : Option FinalSignedRequest)
    (same : ∀ shown ∈ request, shown = draft.final nonce) :
    observeResolving (.reserved draft nonce) request = some (.reserved draft nonce) := by
  refine if_pos (Option.all_eq_true _ _ |>.2 fun shown among => ?_)
  exact decide_eq_true (same shown among)

theorem assertReservedNonceMatchesPending_wp {α : Type} {next : Unit → Broadcast α}
    (onward : (next ()).wp (observe keccak256 signer tx policy) Endable () (.checked draft nonce)) :
    (assertReservedNonceMatchesPending signer.address signer.chainId nonce >>= next).wp
      (observe keccak256 signer tx policy) Endable () (.reserved draft nonce) := by
  have validated : observeResolving (.reserved draft nonce) none = some (.reserved draft nonce) :=
    observeResolving_reserved none nofun
  refine Program.wp_bind.2 (Program.wp_perform_bind ?_ fun _ => ?_)
  · exact fun failure => ⟨.reserved draft nonce, validated, rfl⟩
  · refine ⟨.reserved draft nonce, validated, ?_⟩
    refine Program.wp_perform_bind ?_ fun pending => ?_
    · exact fun failure => ⟨.reserved draft nonce, if_pos rfl, rfl⟩
    · refine ⟨Stage.checkedBy draft nonce (.ok pending), if_pos rfl, ?_⟩
      have endable : (Stage.checkedBy draft nonce (.ok pending)).endable = true := by
        show (if pending = nonce then Stage.checked draft nonce
          else Stage.reserved draft nonce).endable = true
        split <;> rfl
      split
      · exact endable
      · split
        · exact endable
        · rename_i same
          have checked : Stage.checkedBy draft nonce (.ok pending) = .checked draft nonce :=
            if_pos (not_not.1 same)
          rw [checked]
          exact onward

theorem resolveSigner_wp {α : Type} {next : Option ResolvedSigner → Broadcast α}
    (onward : ∀ wallet : Option ResolvedSigner,
      (wallet.isSome = true ↔ ∃ address chainId, signer = .deferred address chainId) →
      (next wallet).wp (observe keccak256 signer tx policy) Endable () (.reserved draft nonce)) :
    (resolveSigner signer (draft.final nonce) >>= next).wp (observe keccak256 signer tx policy)
      Endable () (.reserved draft nonce) := by
  cases signer with
  | eager address chainId => exact onward none (by simp)
  | deferred address chainId =>
    have shown := observeResolving_reserved (some (draft.final nonce))
      fun shown among => (Option.some.inj among).symm
    have resolved : observeResolving (.reserved draft nonce) none = some (.reserved draft nonce) :=
      observeResolving_reserved none fun shown among => nomatch among
    refine Program.wp_bind.2 (Program.wp_perform_bind ?_ fun _ => ?_)
    · exact fun failure => ⟨.reserved draft nonce, shown, rfl⟩
    · refine ⟨.reserved draft nonce, shown, ?_⟩
      refine Program.wp_perform_bind ?_ fun wallet => ?_
      · exact fun failure => ⟨.reserved draft nonce, resolved, rfl⟩
      · refine ⟨.reserved draft nonce, resolved, ?_⟩
        split
        · rfl
        · split
          · rfl
          · exact onward (some wallet) (by simp)

theorem reserveNonce_wp {α : Type} {next : Nat → Broadcast α}
    (onward : ∀ nonce, (next nonce).wp (observe keccak256 signer tx policy) Endable ()
      (.reserved draft nonce)) :
    (reserveNonce signer draft.request >>= next).wp (observe keccak256 signer tx policy)
      Endable () (.prepared draft) := by
  unfold reserveNonce
  split
  · rfl
  · rename_i pending isPending
    refine Program.wp_bind.2 (Program.wp_perform_bind ?_ fun answer => ?_)
    · exact fun failure => ⟨_, if_pos ⟨rfl, rfl, isPending⟩, rfl⟩
    · refine ⟨_, if_pos ⟨rfl, rfl, isPending⟩, ?_⟩
      by_cases unsafe_ : answer < 0 ∨ 9007199254740991 < answer
      · simp only [if_pos unsafe_, Stage.reservedBy]
        rfl
      · simp only [if_neg unsafe_, Stage.reservedBy]
        exact onward answer.toNat

theorem readExposureFees_wp {gas : Nat} {α : Type} {next : Option (Nat × Nat) → Broadcast α}
    (onward : ∀ fees, gasApproved policy gas →
      (next fees).wp (observe keccak256 signer tx policy) Endable () .owned) :
    (readExposureFees policy gas >>= next).wp (observe keccak256 signer tx policy)
      Endable () .owned := by
  unfold readExposureFees
  split
  · rename_i limit maxFee maxPriority maxNetworkFee
    refine Program.wp_bind.2 (Program.wp_perform_bind ?_ fun estimated => ?_)
    · exact fun failure => ⟨.owned, rfl, rfl⟩
    refine ⟨.owned, rfl, ?_⟩
    split
    · rfl
    · rename_i within
      refine onward (some estimated) fun _ _ _ _ same => ?_
      cases same
      exact Nat.le_of_not_lt fun exceeds => within (.inl exceeds)
  · rename_i other
    exact onward none fun limit maxFee maxPriority maxNetworkFee same =>
      absurd same (other limit maxFee maxPriority maxNetworkFee)

variable (keccak256 signer tx policy)

variable (gated : Bool)

theorem runStagedBroadcast_wp (retry : ReceiptWaitRetryOptions) :
    (runStagedBroadcast keccak256 describeFailureForLog signer tx gated retry policy).wp
      (observe keccak256 signer tx policy) Endable () .owned := by
  refine Program.wp_perform_bind (fun _ => ⟨.owned, rfl, rfl⟩) fun gasEstimate => ⟨.owned, rfl, ?_⟩
  refine readExposureFees_wp fun fees approved => ?_
  refine Program.wp_perform_bind ?_ fun request => ?_
  · exact fun failure => ⟨.owned, if_pos ⟨rfl, rfl, rfl, rfl⟩, rfl⟩
  refine ⟨.prepared ⟨gasLimitWithHeadroom gasEstimate, request⟩, if_pos ⟨rfl, rfl, rfl, rfl⟩, ?_⟩
  refine @reserveNonce_wp _ _ _ _ ⟨gasLimitWithHeadroom gasEstimate, request⟩ _ _ fun nonce => ?_
  set draft : Draft := ⟨gasLimitWithHeadroom gasEstimate, request⟩ with _drafted
  refine Program.wp_bind.2 ?_
  cases passes : assertFees policy draft.gas (draft.signed nonce) with
  | error failure =>
    show Program.wp _ (liftExcept (assertFees policy draft.gas (draft.signed nonce))) _ _ _
    rw [passes]
    rfl
  | ok _ =>
    show Program.wp _ (liftExcept (assertFees policy draft.gas (draft.signed nonce))) _ _ _
    rw [passes]
    have within := withinPolicy_of_assertFees approved passes
    refine @resolveSigner_wp _ _ _ _ draft nonce _ _ fun wallet arm => ?_
    refine assertReservedNonceMatchesPending_wp ?_
    have onward : ∀ serialized, Program.wp (observe keccak256 signer tx policy)
        (ask (Call.onHashStaged ⟨keccak256 serialized, signer.address, nonce⟩) >>= fun _ =>
          submit describeFailureForLog policy retry serialized
            ⟨keccak256 serialized, signer.address, nonce⟩ tx) Endable ()
        (.signed draft nonce serialized) := by
      intro serialized
      refine Program.wp_perform_bind (fun _ => ⟨_, if_pos rfl, rfl⟩) fun _ => ?_
      exact ⟨.staged draft nonce serialized, if_pos rfl, submit_wp describeFailureForLog retry⟩
    cases gated with
    | false => exact sign_wp arm within onward
    | true =>
      refine Program.wp_perform_bind ?_ fun _ => ?_
      · exact fun failure => ⟨.checked draft nonce, if_pos rfl, rfl⟩
      · exact ⟨.checked draft nonce, if_pos rfl, sign_wp arm within onward⟩

theorem holdingNonceOwner_wp (retry : ReceiptWaitRetryOptions) :
    (holdingNonceOwner keccak256 describeFailureForLog signer tx gated retry policy).wp
      (observe keccak256 signer tx policy) (fun _ _ stage => stage = .finished) () .owned := by
  refine Program.wp_attempt_bind.2 (Program.wp_mono ?_
    (runStagedBroadcast_wp keccak256 describeFailureForLog signer tx policy gated retry))
  intro result _ stage endable
  refine Program.wp_attempt_perform_bind fun cleaned => ⟨.concluded, if_pos endable, ?_⟩
  refine Program.wp_attempt_perform_bind fun released => ⟨.finished, rfl, ?_⟩
  cases result with
  | error failure => rfl
  | ok outcome => rfl

theorem signStageBroadcast_wp (retry : ReceiptWaitRetryOptions) :
    (signStageBroadcast keccak256 describeFailureForLog signer tx gated retry policy).wp
      (observe keccak256 signer tx policy) (fun _ _ _ => True) () .idle := by
  refine Program.wp_perform_bind ?_ fun _ => ?_
  · exact fun failure => ⟨.idle, if_pos ⟨rfl, rfl, rfl⟩, trivial⟩
  · exact ⟨.owned, if_pos ⟨rfl, rfl, rfl⟩, Program.wp_mono (fun _ _ _ _ => trivial)
      (holdingNonceOwner_wp keccak256 describeFailureForLog signer tx policy gated retry)⟩

end Meets

end Vex.Evm.StagedBroadcast
