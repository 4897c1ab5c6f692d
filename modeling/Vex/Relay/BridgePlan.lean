import Vex.Relay.StepPolicy

/-!
# An accepted plan is the bridge that was quoted

A quote is accepted when its steps are classified and each of them can be planned
(`acceptedPlan`). What the guards of the three modules check of single steps is
put together here: the steps are a reset and a grant, or a prefix of these, and
then the deposit (`classified_shape`); an approval is on the origin token, for the
principal, to the target of the deposit (`approvalStep_of_checks`); a deposit whose
selector is confirmed moves the principal for the wallet (`depositStep_of_planned`).

Steps that are named after inherited members of objects are outside: they pass
with a role that no guard checks (`accepted_plans_not_quoted`).
-/

namespace Vex.Relay

open Vex.Library Vex.Library.JsString
open Vex.Evm

/-! ## Classified steps -/

structure Classified (originChainId : Int) (entry : RelaySignableStep) : Prop where
  role : stepIdRole entry.step.id = some entry.role
  transaction : ∃ transaction, entry.step.transactions = [transaction]
    ∧ transaction.chainId = originChainId

theorem classifyStep_ok {originChainId : Int} {step : RelayStep} {entry : RelaySignableStep}
    (classified : classifyStep originChainId step = .ok entry) :
    entry.step = step ∧ Classified originChainId entry := by
  unfold classifyStep at classified
  split at classified
  · cases classified
  · rename_i role found
    rw [bind_eq_ok] at classified
    obtain ⟨_, -, classified⟩ := classified
    split at classified
    · cases classified
    · rename_i onOrigin
      rw [bind_eq_ok] at classified
      obtain ⟨_, one, classified⟩ := classified
      rw [refuseIf_eq_ok, not_not] at one
      obtain rfl := Except.ok.inj classified
      refine ⟨rfl, found, ?_⟩
      obtain ⟨transaction, only⟩ := List.length_eq_one_iff.1 one
      rw [only] at onOrigin
      exact ⟨transaction, only, by simpa using onOrigin⟩

variable {steps : List RelayStep} {signable : List RelaySignableStep}

theorem classifySteps_ok {originChainId : Int}
    (classified : steps.mapM (classifyStep originChainId) = .ok signable) :
    signable.map (·.step) = steps ∧ ∀ entry ∈ signable, Classified originChainId entry := by
  induction steps generalizing signable with
  | nil =>
    obtain rfl := Except.ok.inj classified
    exact ⟨rfl, fun _ member => (List.not_mem_nil member).elim⟩
  | cons step rest ih =>
    rw [List.mapM_cons, bind_eq_ok] at classified
    obtain ⟨entry, first, classified⟩ := classified
    rw [bind_eq_ok] at classified
    obtain ⟨entries, others, result⟩ := classified
    obtain rfl := Except.ok.inj result
    obtain ⟨same, isClassified⟩ := classifyStep_ok first
    obtain ⟨sameRest, restClassified⟩ := ih others
    refine ⟨by rw [List.map_cons, same, sameRest], ?_⟩
    rintro other (_ | ⟨_, member⟩)
    · exact isClassified
    · exact restClassified other member

/-- No step is named after an inherited member. -/
def PlainNames (steps : List RelayStep) : Prop :=
  ∀ step ∈ steps, inheritedMembers.lookup step.id = none

theorem Classified.plain_role {originChainId : Int} {entry : RelaySignableStep}
    (classified : Classified originChainId entry)
    (plain : inheritedMembers.lookup entry.step.id = none) :
    entry.role = .allowance ∨ entry.role = .bridgeDeposit := by
  have role := classified.role
  unfold stepIdRole at role
  split_ifs at role with approve deposit
  · exact .inl (Option.some.inj role).symm
  · exact .inr (Option.some.inj role).symm
  · rw [plain] at role
    cases role

theorem split_at_deposit
    (roles : ∀ entry ∈ signable, entry.role = .allowance ∨ entry.role = .bridgeDeposit)
    (one : countDeposits signable = 1) :
    ∃ before deposit after, signable = before ++ deposit :: after ∧ deposit.role = .bridgeDeposit
      ∧ (∀ entry ∈ before, entry.role = .allowance) ∧ ∀ entry ∈ after, entry.role = .allowance := by
  induction signable with
  | nil => cases one
  | cons entry rest ih =>
    have restRoles := fun other member => roles other (List.mem_cons_of_mem _ member)
    rcases roles entry List.mem_cons_self with allowance | bridgeDeposit
    · rw [countDeposits, List.countP_cons_of_neg (by simp [allowance])] at one
      obtain ⟨before, deposit, after, rfl, isDeposit, early, late⟩ := ih restRoles one
      refine ⟨entry :: before, deposit, after, rfl, isDeposit, ?_, late⟩
      rintro other (_ | ⟨_, member⟩)
      · exact allowance
      · exact early other member
    · rw [countDeposits, List.countP_cons_of_pos (by simp [bridgeDeposit])] at one
      have noOther : rest.countP (fun other => decide (other.role = .bridgeDeposit)) = 0 := by omega
      refine ⟨[], entry, rest, rfl, bridgeDeposit, fun _ member => (List.not_mem_nil member).elim,
        fun other member => ?_⟩
      have notDeposit := List.countP_eq_zero.1 noOther other member
      exact (restRoles other member).resolve_right (by simpa using notDeposit)

section Bind

variable {viem : Viem} {target : Option JsString}

variable {index : Nat} {entries : List ApprovalSequenceEntry}

theorem approvalEntries_append {before after : List RelaySignableStep}
    (read : approvalEntries viem target (before ++ after) index = .ok entries) :
    ∃ early late, approvalEntries viem target before index = .ok early
      ∧ approvalEntries viem target after (index + before.length) = .ok late
      ∧ entries = early ++ late := by
  induction before generalizing index entries with
  | nil => exact ⟨[], entries, rfl, by simpa using read, rfl⟩
  | cons entry rest ih =>
    rw [List.cons_append, approvalEntries] at read
    rw [approvalEntries, List.length_cons, Nat.add_comm rest.length, ← Nat.add_assoc]
    split_ifs at read ⊢ with allowance
    · rw [bind_eq_ok] at read
      obtain ⟨approve, first, read⟩ := read
      rw [bind_eq_ok] at read
      obtain ⟨others, readOthers, result⟩ := read
      obtain rfl := Except.ok.inj result
      obtain ⟨early, late, readEarly, readLate, rfl⟩ := ih readOthers
      refine ⟨_, late, ?_, readLate, (List.cons_append).symm⟩
      rw [first, ok_bind, readEarly, ok_bind]
    · exact ih read

theorem approvalEntries_spec {approvals : List RelaySignableStep}
    (allowances : ∀ entry ∈ approvals, entry.role = .allowance)
    (read : approvalEntries viem target approvals index = .ok entries) :
    (entries.Pairwise fun first second => first.position < second.position)
      ∧ (∀ entry ∈ entries, index ≤ entry.position)
      ∧ List.Forall₂ (fun approval allowance => ∃ approve,
          readApproval viem target approval = .ok approve ∧ approve.allowance = allowance)
          approvals (entries.map (·.allowance)) := by
  induction approvals generalizing index entries with
  | nil =>
    obtain rfl := Except.ok.inj read
    exact ⟨List.Pairwise.nil, fun _ member => (List.not_mem_nil member).elim, .nil⟩
  | cons approval rest ih =>
    rw [approvalEntries, if_pos (allowances approval List.mem_cons_self), bind_eq_ok] at read
    obtain ⟨approve, first, read⟩ := read
    rw [bind_eq_ok] at read
    obtain ⟨others, readOthers, result⟩ := read
    obtain rfl := Except.ok.inj result
    obtain ⟨ordered, later, each⟩ :=
      ih (fun entry member => allowances entry (List.mem_cons_of_mem _ member)) readOthers
    refine ⟨List.pairwise_cons.2 ⟨fun entry member => later entry member, ordered⟩, ?_,
      .cons ⟨approve, first, rfl⟩ each⟩
    rintro entry (_ | ⟨_, member⟩)
    · exact Nat.le_refl _
    · exact Nat.le_of_succ_le (later entry member)

theorem bind_ok {signable : List RelaySignableStep}
    (bound : bindApproveStepsToDeposit viem signable = .ok ()) :
    ∃ entries, approvalEntries viem (depositTargetOf signable) signable 0 = .ok entries
      ∧ (verifyApprovalSequence entries (depositIndex signable) = .ok ()
        ∨ ∀ entry ∈ signable, entry.role ≠ .allowance) := by
  rw [bindApproveStepsToDeposit, bind_eq_ok] at bound
  obtain ⟨entries, read, bound⟩ := bound
  refine ⟨entries, read, ?_⟩
  split at bound
  · rename_i passed
    exact .inl passed
  · split at bound
    · cases bound
    · rename_i none_
      refine .inr fun entry member allowance => ?_
      rw [List.getLast?_eq_none_iff, List.filter_eq_nil_iff] at none_
      exact none_ entry member (by simp [allowance])

end Bind

/-- The approvals of a quote that is classified, and then its deposit. -/
structure Shape (viem : Viem) (signable approvals : List RelaySignableStep)
    (deposit : RelaySignableStep) (allowances : List Nat) : Prop where
  order : signable = approvals ++ [deposit]
  roles : ∀ entry ∈ approvals, entry.role = .allowance
  role : deposit.role = .bridgeDeposit
  shape : ApprovalShape allowances
  read : List.Forall₂ (fun approval allowance => ∃ approve,
    readApproval viem ((stepTransaction deposit).map (·.to_)) approval = .ok approve
      ∧ approve.allowance = allowance) approvals allowances

section Deposit

variable {before after : List RelaySignableStep} {deposit : RelaySignableStep}

theorem depositIndex_of_split (isDeposit : deposit.role = .bridgeDeposit)
    (early : ∀ entry ∈ before, entry.role = .allowance) :
    depositIndex (before ++ deposit :: after) = some before.length := by
  have none_ : before.findIdx? (fun entry => decide (entry.role = .bridgeDeposit)) = none := by
    rw [List.findIdx?_eq_none_iff]
    intro entry member
    simp [early entry member]
  rw [depositIndex, List.findIdx?_append, none_]
  simp [isDeposit, List.findIdx?_cons]

theorem depositTargetOf_of_split (isDeposit : deposit.role = .bridgeDeposit)
    (early : ∀ entry ∈ before, entry.role = .allowance) :
    depositTargetOf (before ++ deposit :: after) = (stepTransaction deposit).map (·.to_) := by
  have none_ : before.find? (fun entry => decide (entry.role = .bridgeDeposit)) = none := by
    rw [List.find?_eq_none]
    intro entry member
    simp [early entry member]
  rw [depositTargetOf, List.find?_append, none_]
  simp [isDeposit]

end Deposit

/-- A classified quote with plain names is a reset and a grant, or a prefix of these, and the
deposit. -/
theorem classified_shape {viem : Viem} {originChainId : Int} (plain : PlainNames steps)
    (classified : classifyRelayBridgeSteps viem steps originChainId = .ok signable) :
    (signable.map (·.step) = steps ∧ ∀ entry ∈ signable, Classified originChainId entry)
      ∧ ∃ approvals deposit allowances, Shape viem signable approvals deposit allowances := by
  rw [classifyRelayBridgeSteps, bind_eq_ok] at classified
  obtain ⟨entries, each, classified⟩ := classified
  rw [bind_eq_ok] at classified
  obtain ⟨⟨⟩, bound, classified⟩ := classified
  rw [bind_eq_ok] at classified
  obtain ⟨_, one, result⟩ := classified
  rw [refuseIf_eq_ok, not_not] at one
  obtain rfl := Except.ok.inj result
  obtain ⟨same, isClassified⟩ := classifySteps_ok each
  refine ⟨⟨same, isClassified⟩, ?_⟩
  have roles : ∀ entry ∈ entries, entry.role = .allowance ∨ entry.role = .bridgeDeposit := by
    intro entry member
    refine (isClassified entry member).plain_role (plain entry.step ?_)
    rw [← same]
    exact List.mem_map_of_mem member
  obtain ⟨before, deposit, after, rfl, isDeposit, early, late⟩ := split_at_deposit roles one
  obtain ⟨read, readAll, ordered⟩ := bind_ok bound
  rw [depositTargetOf_of_split isDeposit early] at readAll
  rw [depositIndex_of_split isDeposit early] at ordered
  obtain ⟨first, rest, readBefore, readRest, rfl⟩ := approvalEntries_append readAll
  rw [approvalEntries, if_neg (by simp [isDeposit])] at readRest
  obtain ⟨beforeOrdered, -, beforeRead⟩ := approvalEntries_spec early readBefore
  obtain ⟨-, restLater, restRead⟩ := approvalEntries_spec late readRest
  have nothingAfter : after = [] := by
    rcases ordered with passed | noApproval
    · cases after with
      | nil => rfl
      | cons entry others =>
        -- an approval behind the deposit has a later place
        exfalso
        cases rest with
        | nil => cases restRead
        | cons later _ =>
          have placed := restLater later List.mem_cons_self
          have before_ := sequence_early passed later (List.mem_append_right _ List.mem_cons_self)
          omega
    · exact List.eq_nil_iff_forall_not_mem.2 fun entry member =>
        noApproval entry (List.mem_append_right _ (List.mem_cons_of_mem _ member)) (late entry member)
  subst nothingAfter
  obtain rfl := Except.ok.inj readRest
  rw [List.append_nil] at ordered
  refine ⟨before, deposit, first.map (·.allowance), rfl, early, isDeposit, ?_, beforeRead⟩
  rcases ordered with passed | noApproval
  · exact sequence_shape beforeOrdered passed
  · cases before with
    | nil =>
      obtain rfl := Except.ok.inj readBefore
      exact .inl rfl
    | cons entry others =>
      exact absurd (early entry List.mem_cons_self) (noApproval entry List.mem_cons_self)

/-! ## Planned transactions -/

/-- The transaction of a step, taken apart. -/
structure Planned (viem : Viem) (originChainId : Int) (entry : RelaySignableStep)
    (transaction : PlannedRelayStepTx) (data : RelayStepItemData) : Prop where
  only : entry.step.transactions = [data]
  chain : data.chainId = originChainId
  target : viem.getAddress data.to_ = some transaction.to_
  value : bigInt data.value = some transaction.value
  calldata : transaction.data = data.data

variable {viem : Viem} {keccak256 : JsString → JsString} {originChainId : Int} {wallet : Nat}
  {context : BridgeContext} {entry : RelaySignableStep} {transaction : PlannedRelayStepTx}

theorem planRelayStepTx_ok
    (planned : planRelayStepTx viem keccak256 originChainId wallet context entry = .ok transaction) :
    ∃ data principal, Planned viem originChainId entry transaction data
      ∧ relayStepNativePrincipal entry.role context = .ok principal
      ∧ (transaction.value = 0 ∨ ∃ proven, principal = some proven
        ∧ transaction.value = proven.amountWei)
      ∧ assertBound viem entry.role data transaction.value (context.binding wallet) = .ok () := by
  rw [planRelayStepTx, bind_eq_ok] at planned
  obtain ⟨data, taken, planned⟩ := planned
  rw [bind_eq_ok] at planned
  obtain ⟨_, -, planned⟩ := planned
  unfold plannedData at taken
  split_ifs at taken with kind
  split at taken
  · rename_i only
    split_ifs at taken with chain
    obtain rfl := Except.ok.inj taken
    split at planned
    · cases planned
    · rename_i target found
      split at planned
      · cases planned
      · rename_i value read
        simp only [bind_eq_ok, mapError_eq_ok] at planned
        obtain ⟨principal, derived, ⟨⟩, authorized, ⟨⟩, bound, result⟩ := planned
        obtain rfl := Except.ok.inj result
        exact ⟨_, principal, ⟨only, not_not.1 chain, found, read, rfl⟩, derived,
          authorized_value keccak256 authorized, bound⟩
  · cases taken

theorem relayStepNativePrincipal_ok {role : RelayStepRole} {proven : ProvenComponent}
    (derived : relayStepNativePrincipal role context = .ok (some proven)) :
    role = .bridgeDeposit ∧ context.isNative = true
      ∧ relayDerivedPrincipal context = some proven.amountWei := by
  unfold relayStepNativePrincipal at derived
  split_ifs at derived with other
  · cases derived
  · push Not at other
    split at derived
    · cases derived
    · rename_i amount read
      obtain rfl := Option.some.inj (Except.ok.inj derived)
      refine ⟨other.1, by simpa using other.2.1, ?_⟩
      rw [relayDerivedPrincipal, if_neg (not_not.2 other.2.2), read]

theorem isApprove_unique {data : JsString} {one two : Approve}
    (isOne : IsApprove data one) (isTwo : IsApprove data two) : one = two := by
  cases one
  cases two
  simp only [Approve.mk.injEq]
  exact ⟨isOne.spender.symm.trans isTwo.spender, isOne.allowance.symm.trans isTwo.allowance⟩

/-! ## The plan -/

/-- An approval of a plan: without value, on the origin token, of an allowance to a target. -/
structure ApprovalStep (viem : Viem) (originChainId : Int) (context : BridgeContext) (target : Nat)
    (planned : RelaySignableStep × PlannedRelayStepTx) (allowance : Nat) : Prop where
  role : planned.1.role = .allowance
  transaction : ∃ data, Planned viem originChainId planned.1 planned.2 data
  value : planned.2.value = 0
  token : ∃ token, context.originToken = some token ∧ viem.getAddress token = some planned.2.to_
  call : IsApprove planned.2.data ⟨target, allowance⟩

/-- The deposit of a plan: its value is nothing or the principal, and its calldata, where that is
whole bytes, is bound. -/
structure DepositStep (viem : Viem) (originChainId : Int) (wallet : Nat) (context : BridgeContext)
    (planned : RelaySignableStep × PlannedRelayStepTx) : Prop where
  role : planned.1.role = .bridgeDeposit
  transaction : ∃ data, Planned viem originChainId planned.1 planned.2 data
  value : planned.2.value = 0
    ∨ context.isNative = true ∧ relayDerivedPrincipal context = some planned.2.value
  bound : planned.2.data.length % 2 = 0 →
    DepositBound viem planned.2.data planned.2.value (context.binding wallet)

theorem depositStep_of_planned (role : entry.role = .bridgeDeposit)
    (planned : planRelayStepTx viem keccak256 originChainId wallet context entry = .ok transaction) :
    DepositStep viem originChainId wallet context (entry, transaction) := by
  obtain ⟨data, principal, isPlanned, derived, value, bound⟩ := planRelayStepTx_ok planned
  refine ⟨role, ⟨data, isPlanned⟩, ?_, fun whole => ?_⟩
  · rcases value with zero | ⟨proven, rfl, amount⟩
    · exact .inl zero
    · obtain ⟨-, native, principal⟩ := relayStepNativePrincipal_ok derived
      exact .inr ⟨native, by rw [amount, principal]⟩
  · rw [role] at bound
    unfold assertBound at bound
    dsimp only at bound
    split at bound
    · rename_i verdict passed
      rw [← isPlanned.calldata] at passed
      exact depositCalldata_bound whole passed
    · cases bound

variable {target : Option JsString} {targetNumber : Nat}

theorem approvalStep_of_checks {approve : Approve} (role : entry.role = .allowance)
    (read : readApproval viem target entry = .ok approve)
    (named : ∀ text ∈ target, viem.getAddress text = some targetNumber)
    (planned : planRelayStepTx viem keccak256 originChainId wallet context entry = .ok transaction) :
    ApprovalStep viem originChainId context targetNumber (entry, transaction) approve.allowance
      ∧ (approve.allowance = 0
        ∨ relayDerivedPrincipal context = some (approve.allowance : Int)) := by
  obtain ⟨data, -, isPlanned, -, -, bound⟩ := planRelayStepTx_ok planned
  unfold readApproval stepTransaction at read
  rw [isPlanned.only, List.head?_cons] at read
  dsimp only at read
  rw [isPlanned.value] at read
  dsimp only at read
  rw [mapError_eq_ok] at read
  obtain ⟨readFirst, text, rfl, spender⟩ := authorizesDeposit_ok read
  obtain ⟨zero, calldata, same, isApprove⟩ := readApprove_ok readFirst
  obtain rfl := Option.some.inj same
  rw [role] at bound
  unfold assertBound at bound
  dsimp only at bound
  split at bound
  · rename_i again passed
    obtain ⟨readSecond, ⟨token, origin, onToken⟩, -, principal⟩ := bindsPlan_ok passed
    obtain ⟨-, calldataAgain, sameAgain, isAgain⟩ := readApprove_ok readSecond
    obtain rfl := Option.some.inj sameAgain
    obtain rfl := isApprove_unique isApprove isAgain
    refine ⟨⟨role, ⟨data, isPlanned⟩, zero, ⟨token, origin, ?_⟩, ?_⟩, principal⟩
    · simp only [sameAddress, decide_eq_true_eq] at onToken
      rw [← onToken.2, isPlanned.target]
    · rw [isPlanned.calldata]
      have number := (named text rfl).symm.trans spender
      rw [Option.some.inj number]
      exact isApprove
  · cases bound

/-- `planRelayStepTx` of a step, kept with it. -/
def planned (viem : Viem) (keccak256 : JsString → JsString) (originChainId : Int) (wallet : Nat)
    (context : BridgeContext) (entry : RelaySignableStep) :
    Except PlanError (RelaySignableStep × PlannedRelayStepTx) :=
  (planRelayStepTx viem keccak256 originChainId wallet context entry).map (entry, ·)

/-- The plan of a quote whose steps are classified and can all be planned. -/
def acceptedPlan (viem : Viem) (keccak256 : JsString → JsString) (originChainId : Int) (wallet : Nat)
    (context : BridgeContext) (steps : List RelayStep) :
    Option (List (RelaySignableStep × PlannedRelayStepTx)) :=
  match classifyRelayBridgeSteps viem steps originChainId with
  | .error _ => none
  | .ok signable =>
    (signable.mapM (planned viem keccak256 originChainId wallet context)).toOption

structure QuotedPlan (viem : Viem) (originChainId : Int) (wallet : Nat) (context : BridgeContext)
    (plan approvals : List (RelaySignableStep × PlannedRelayStepTx))
    (deposit : RelaySignableStep × PlannedRelayStepTx) (allowances : List Nat) : Prop where
  order : plan = approvals ++ [deposit]
  deposits : DepositStep viem originChainId wallet context deposit
  approves : List.Forall₂ (ApprovalStep viem originChainId context deposit.2.to_) approvals allowances
  grants : allowances = [] ∨ ∃ principal : Nat, principal ≠ 0
    ∧ relayDerivedPrincipal context = some (principal : Int)
    ∧ (allowances = [principal] ∨ allowances = [0, principal])
  native : context.isNative = true → approvals = []

variable {plan : List (RelaySignableStep × PlannedRelayStepTx)}

theorem mapM_planned_ok
    (made : signable.mapM (planned viem keccak256 originChainId wallet context) = .ok plan) :
    plan.map (·.1) = signable ∧ ∀ pair ∈ plan,
      planRelayStepTx viem keccak256 originChainId wallet context pair.1 = .ok pair.2 := by
  induction signable generalizing plan with
  | nil =>
    obtain rfl := Except.ok.inj made
    exact ⟨rfl, fun _ member => (List.not_mem_nil member).elim⟩
  | cons entry rest ih =>
    rw [List.mapM_cons, bind_eq_ok] at made
    obtain ⟨pair, first, made⟩ := made
    rw [bind_eq_ok] at made
    obtain ⟨others, readOthers, result⟩ := made
    obtain rfl := Except.ok.inj result
    obtain ⟨transaction, isPlanned, rfl⟩ := map_eq_ok.1 first
    obtain ⟨same, each⟩ := ih readOthers
    refine ⟨by rw [List.map_cons, same], ?_⟩
    rintro other (_ | ⟨_, member⟩)
    · exact isPlanned
    · exact each other member

theorem signedTransactions_prefix (each : ∀ pair ∈ plan,
      planRelayStepTx viem keccak256 originChainId wallet context pair.1 = .ok pair.2)
    (outcomes : List Bool) :
    signedTransactions (planRelayStepTx viem keccak256 originChainId wallet context)
      (plan.map (·.1)) outcomes <+: plan := by
  induction plan generalizing outcomes with
  | nil => exact List.nil_prefix
  | cons pair rest ih =>
    unfold signedTransactions
    rw [List.map_cons]
    dsimp only
    rw [each pair List.mem_cons_self]
    refine List.cons_prefix_cons.2 ⟨rfl, ?_⟩
    split
    · exact ih (fun other member => each other (List.mem_cons_of_mem _ member)) _
    · exact List.nil_prefix

theorem approvalSteps {approvals : List (RelaySignableStep × PlannedRelayStepTx)}
    {allowances : List Nat} (named : ∀ text ∈ target, viem.getAddress text = some targetNumber)
    (roles : ∀ entry ∈ approvals.map (·.1), entry.role = .allowance) (each : ∀ pair ∈ approvals,
      planRelayStepTx viem keccak256 originChainId wallet context pair.1 = .ok pair.2)
    (read : List.Forall₂ (fun approval allowance => ∃ approve,
      readApproval viem target approval = .ok approve ∧ approve.allowance = allowance)
      (approvals.map (·.1)) allowances) :
    List.Forall₂ (ApprovalStep viem originChainId context targetNumber) approvals allowances
      ∧ ∀ allowance ∈ allowances, allowance = 0
        ∨ relayDerivedPrincipal context = some (allowance : Int) := by
  induction approvals generalizing allowances with
  | nil =>
    cases read
    exact ⟨.nil, fun _ member => (List.not_mem_nil member).elim⟩
  | cons pair rest ih =>
    rw [List.map_cons] at read roles
    obtain _ | ⟨⟨approve, readFirst, rfl⟩, readRest⟩ := read
    obtain ⟨first, bound⟩ := approvalStep_of_checks (roles _ List.mem_cons_self) readFirst named
      (each pair List.mem_cons_self)
    obtain ⟨others, othersBound⟩ := ih (fun entry member => roles entry (List.mem_cons_of_mem _ member))
      (fun other member => each other (List.mem_cons_of_mem _ member)) readRest
    refine ⟨.cons first others, ?_⟩
    rintro allowance (_ | ⟨_, member⟩)
    · exact bound
    · exact othersBound allowance member

/-- Every accepted plan is the bridge that was quoted, in the order of the quote, and what is signed
of it is a beginning of it. -/
theorem accepted_plan_is_quoted (viem : Viem) (keccak256 : JsString → JsString) (originChainId : Int)
    (wallet : Nat) (context : BridgeContext) (steps : List RelayStep)
    (plan : List (RelaySignableStep × PlannedRelayStepTx)) (plain : PlainNames steps)
    (accepted : acceptedPlan viem keccak256 originChainId wallet context steps = some plan) :
    plan.map (·.1.step) = steps ∧ (∃ approvals deposit allowances,
        QuotedPlan viem originChainId wallet context plan approvals deposit allowances)
      ∧ ∀ outcomes, signedTransactions (planRelayStepTx viem keccak256 originChainId wallet context)
          (plan.map (·.1)) outcomes <+: plan := by
  unfold acceptedPlan at accepted
  split at accepted
  · cases accepted
  · rename_i signable classified
    rw [toOption_eq_some] at accepted
    obtain ⟨entries, each⟩ := mapM_planned_ok accepted
    obtain ⟨⟨same, -⟩, approvals, deposit, allowances, shape⟩ := classified_shape plain classified
    refine ⟨by rw [← same, ← entries, List.map_map]; rfl, ?_, signedTransactions_prefix each⟩
    rw [shape.order] at entries
    obtain ⟨before, last, rfl, beforeEntries, lastEntry⟩ := List.map_eq_append_iff.1 entries
    obtain ⟨final, none_, rfl, rfl, nil⟩ := List.map_eq_cons_iff.1 lastEntry
    obtain rfl := List.map_eq_nil_iff.1 nil
    have deposits := depositStep_of_planned shape.role (each final (by simp))
    obtain ⟨data, isPlanned⟩ := deposits.transaction
    have target : stepTransaction final.1 = some data := by
      rw [stepTransaction, isPlanned.only, List.head?_cons]
    have named : ∀ text ∈ (stepTransaction final.1).map (·.to_),
        viem.getAddress text = some final.2.to_ := by
      rw [target]
      rintro text ⟨⟩
      exact isPlanned.target
    have read := shape.read
    rw [← beforeEntries] at read
    obtain ⟨approves, bound⟩ := approvalSteps named (by rw [beforeEntries]; exact shape.roles)
      (fun pair member => each pair (List.mem_append_left _ member)) read
    refine ⟨before, final, allowances, rfl, deposits, approves, ?_, fun native => ?_⟩
    · rcases shape.shape with none_ | ⟨grant, some_, granted⟩
      · exact .inl none_
      · have member : grant ∈ allowances := by rcases granted with rfl | rfl <;> simp
        exact .inr ⟨grant, some_, (bound grant member).resolve_left some_, granted⟩
    · cases before with
      | nil => rfl
      | cons pair rest =>
        obtain _ | ⟨first, -⟩ := approves
        obtain ⟨token, origin, -⟩ := first.token
        rw [BridgeContext.originToken, if_pos native] at origin
        cases origin

/-! ## Plans that are accepted all the same -/

/-- A client that reads addresses of forty digits, and words as they stand. -/
def client : Viem where
  getAddress text :=
    if isHexData text ∧ text.length = 42 then some (digitsValue 16 (text.drop 2)) else none
  decoder := AbiDecoder.lenient

def repeated (times : Nat) (digits : JsString) : JsString := (List.replicate times digits).flatten

def addressOf (byte : JsString) : JsString := ("0x" : JsString) ++ repeated 20 byte

def wordOf (byte : JsString) : JsString := repeated 12 "00" ++ repeated 20 byte

def principalWord : JsString := repeated 29 "00" ++ ("4c4b40" : JsString)

/-- The bridge of five million of the token `11…` by the wallet `33…`. -/
def fiveMillion : BridgeContext := ⟨addressOf "11", .exactInput, "5000000"⟩

def walletNumber : Nat := digitsValue 16 (repeated 20 "33")

def oneTransaction (id target data : JsString) (hexData : isHexData data = true) : RelayStep :=
  ⟨id, "transaction", [some ⟨none, target, "0", data, 8453, hexData⟩]⟩

/-- `transfer` of everything to a stranger. -/
def transferToStranger : JsString :=
  ("0xa9059cbb" : JsString) ++ wordOf "44" ++ repeated 32 "ff"

/-- `approve` of the principal to `22…`, with other bytes before the address. -/
def dirtyApprove : JsString :=
  ("0x095ea7b3" : JsString) ++ repeated 12 "ff" ++ repeated 20 "22" ++ principalWord

def cleanApprove (amount : JsString) : JsString :=
  ("0x095ea7b3" : JsString) ++ wordOf "22" ++ amount

/-- `depositErc20` of the principal for the wallet. -/
def depositPrincipal : JsString :=
  ("0xe8017952" : JsString) ++ wordOf "33" ++ wordOf "11" ++ principalWord ++ repeated 32 "00"

def depositStep : RelayStep :=
  oneTransaction "deposit" (addressOf "22") depositPrincipal (by decide +kernel)

def planOf (steps : List RelayStep) : Option (List (RelayStepRole × PlannedRelayStepTx)) :=
  (acceptedPlan client (fun text => text) 8453 walletNumber fiveMillion steps).map fun plan =>
    plan.map fun pair => (pair.1.role, pair.2)

/-- Three plans that are accepted and are not the bridge that was quoted: a deposit that transfers
everything to a stranger, the same in a step before the deposit that is named `toString`, and an
approval whose bytes are not those of a canonical one. -/
theorem accepted_plans_not_quoted :
    planOf [oneTransaction "deposit" (addressOf "11") transferToStranger (by decide)]
        = some [(.bridgeDeposit, ⟨digitsValue 16 (repeated 20 "11"), transferToStranger, 0⟩)]
      ∧ planOf [oneTransaction "toString" (addressOf "11") transferToStranger (by decide),
          depositStep]
        = some [(.inherited (nativeCode "toString"),
            ⟨digitsValue 16 (repeated 20 "11"), transferToStranger, 0⟩),
          (.bridgeDeposit, ⟨digitsValue 16 (repeated 20 "22"), depositPrincipal, 0⟩)]
      ∧ planOf [oneTransaction "approve" (addressOf "11") dirtyApprove (by decide), depositStep]
        = some [(.allowance, ⟨digitsValue 16 (repeated 20 "11"), dirtyApprove, 0⟩),
          (.bridgeDeposit, ⟨digitsValue 16 (repeated 20 "22"), depositPrincipal, 0⟩)]
      ∧ 2 ^ 160 ≤ abiWord (dirtyApprove.drop 10) 0 := by
  refine ⟨by decide +kernel, by decide +kernel, by decide +kernel, by decide +kernel⟩

def resetGrantDeposit : List RelayStep :=
  [oneTransaction "approve" (addressOf "11") (cleanApprove (repeated 32 "00")) (by decide),
    oneTransaction "approve" (addressOf "11") (cleanApprove principalWord) (by decide),
    depositStep]

/-- These are the bridge that was quoted. -/
theorem accepted_plan_is_quoted_resetGrantDeposit : ∃ plan,
    acceptedPlan client (fun text => text) 8453 walletNumber fiveMillion resetGrantDeposit = some plan
      ∧ plan.map (·.1.step) = resetGrantDeposit
      ∧ ∃ approvals deposit allowances,
        QuotedPlan client 8453 walletNumber fiveMillion plan approvals deposit allowances := by
  have some_ : (acceptedPlan client (fun text => text) 8453 walletNumber fiveMillion
      resetGrantDeposit).isSome = true := by decide +kernel
  obtain ⟨plan, accepted⟩ := Option.isSome_iff_exists.1 some_
  have plain : PlainNames resetGrantDeposit := by
    unfold PlainNames
    decide
  obtain ⟨same, quoted, -⟩ := accepted_plan_is_quoted client (fun text => text) 8453 walletNumber
    fiveMillion resetGrantDeposit plan plain accepted
  exact ⟨plan, accepted, same, quoted⟩

end Vex.Relay
