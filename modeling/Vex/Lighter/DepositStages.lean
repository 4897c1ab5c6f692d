import Vex.Lighter.DepositMonitor

/-!
# What a stage says of an executor

`Seen` names the moves of the monitor one by one. What they preserve is read off the stage
of a run (`Told`): the deposit it staged and broadcast, that it broadcast at most once, and
what answered the runners of its legs.
-/

namespace Vex.Lighter.OnboardingIntents.DepositExecution

open Vex.Library Vex.Evm.StagedBroadcast

/-! ## The moves of the monitor -/

def stagedDeposit (intentId : JsString) (transaction : StagedTransaction) (row : Row) :
    ExecutionEvent :=
  ⟨.statement intentId (.depositSubmitted transaction), .ok (some row)⟩

def isDepositBroadcast : ExecutionEvent → Bool
  | ⟨.broadcastDeposit _, _⟩ => true
  | _ => false

/-- The event neither stages nor broadcasts a deposit. -/
def Plain (event : ExecutionEvent) : Prop :=
  isDepositBroadcast event = false ∧
    ∀ intentId transaction row, event ≠ stagedDeposit intentId transaction row

inductive Seen (env : Surroundings) (intent : Row) : Stage → ExecutionEvent → Stage → Prop
  | stays (stage : Stage) (event : ExecutionEvent) (plain : Plain event) :
      Seen env intent stage event stage
  | closes (stage : Stage) (event : ExecutionEvent) (plain : Plain event) :
      Seen env intent stage event (.closed stage.staged)
  | allowed (walletAddress spender : JsString) (amountUnits : Nat) (ceiling : FeeCeiling) :
      Seen env intent .opening
        ⟨.signApproveLeg walletAddress spender amountUnits ceiling, .ok none⟩ .allowed
  | approving (transaction : StagedTransaction) (row : Row) :
      Seen env intent .opening
        ⟨.statement intent.intentId (.approveSubmitted transaction), .ok (some row)⟩
        (.approving transaction)
  | approveAnswered (transaction : StagedTransaction) (result : LegResult) :
      Seen env intent (.approving transaction) ⟨.broadcastApprove transaction, .ok result⟩
        (.approveAnswered transaction result)
  | approveAccepted (transaction : StagedTransaction) (result : LegResult) (accepted : Replacement)
      (row : Row) (proven : proves env intent .approve transaction result accepted = true) :
      Seen env intent (.approveAnswered transaction result)
        ⟨.statement intent.intentId (.approveReplacement accepted), .ok (some row)⟩
        (.approveAccepted transaction result accepted)
  | ready (stage : Stage) (event : ExecutionEvent) (plain : Plain event)
      (unstaged : stage.staged = none) : Seen env intent stage event .ready
  | depositing (stage : Stage) (transaction : StagedTransaction) (row : Row)
      (unstaged : stage.staged = none) :
      Seen env intent stage (stagedDeposit intent.intentId transaction row)
        (.depositing transaction)
  | depositAnswered (transaction : StagedTransaction) (result : LegResult) :
      Seen env intent (.depositing transaction) ⟨.broadcastDeposit transaction, .ok result⟩
        (.depositAnswered transaction result)
  | depositLost (transaction : StagedTransaction) (thrown : Thrown) :
      Seen env intent (.depositing transaction) ⟨.broadcastDeposit transaction, .error thrown⟩
        (.closed (some transaction))
  | depositAccepted (transaction : StagedTransaction) (result : LegResult) (accepted : Replacement)
      (row : Row) (proven : proves env intent .deposit transaction result accepted = true) :
      Seen env intent (.depositAnswered transaction result)
        ⟨.statement intent.intentId (.depositReplacement accepted), .ok (some row)⟩
        (.depositAccepted transaction result accepted)

section

variable {env : Surroundings} {intent : Row} {stage stage' : Stage}

theorem plain_of_call {call : Call} (answer : Except Thrown call.Answer)
    (unsent : ∀ transaction, call ≠ .broadcastDeposit transaction)
    (unstaged : ∀ intentId transaction, call ≠ .statement intentId (.depositSubmitted transaction)) :
    Plain ⟨call, answer⟩ := by
  refine ⟨?_, fun intentId transaction row same => ?_⟩
  · cases call with
    | broadcastDeposit transaction => exact absurd rfl (unsent transaction)
    | _ => rfl
  · exact unstaged intentId transaction (congrArg Sigma.fst same)

variable {transition : Transition} {answer : Except Thrown (Option Row)}

theorem seen_after {next : Stage}
    (unstaged : ∀ transaction, transition ≠ .depositSubmitted transaction)
    (wrote : ∀ row, Seen env intent stage
      ⟨.statement intent.intentId transition, .ok (some row)⟩ next)
    (after : stage.after next answer = stage') :
    Seen env intent stage ⟨.statement intent.intentId transition, answer⟩ stage' := by
  have plain (answer : Except Thrown (Option Row)) :
      Plain ⟨.statement intent.intentId transition, answer⟩ := by
    refine @plain_of_call (.statement intent.intentId transition) answer ?_ ?_
    · exact fun _ same => nomatch same
    · exact fun _ transaction same => unstaged transaction (Call.statement.inj same).2
  match answer with
  | .ok (some row) => exact after ▸ wrote row
  | .ok none => exact after ▸ .closes _ _ (plain _)
  | .error thrown => exact after ▸ .closes _ _ (plain _)

theorem seen_closes (unstaged : ∀ transaction, transition ≠ .depositSubmitted transaction)
    (closed : Stage.closed stage.staged = stage') :
    Seen env intent stage ⟨.statement intent.intentId transition, answer⟩ stage' := by
  subst closed
  refine .closes _ _ (@plain_of_call (.statement intent.intentId transition) answer ?_ ?_)
  · exact fun _ same => nomatch same
  · exact fun _ transaction same => unstaged transaction (Call.statement.inj same).2

theorem unstaged_of_mayDeposit (may : stage.mayDeposit intent = true) : stage.staged = none := by
  simp only [Stage.mayDeposit, Bool.or_eq_true, Bool.and_eq_true, decide_eq_true_eq] at may
  obtain rfl | ⟨rfl, _⟩ := may
  · rfl
  · rfl

theorem seen_of_observeStatement
    (seen : observeStatement env intent stage transition answer = some stage') :
    Seen env intent stage ⟨.statement intent.intentId transition, answer⟩ stage' := by
  cases transition with
  | approveSubmitted transaction =>
    obtain ⟨⟨rfl, -⟩, after⟩ := Option.ite_none_right_eq_some.1 seen
    exact seen_after nofun (.approving transaction) (Option.some.inj after)
  | allowanceVerified =>
    obtain ⟨rfl, after⟩ := Option.ite_none_right_eq_some.1 seen
    refine seen_after nofun (fun row => .ready _ _ ?_ rfl) (Option.some.inj after)
    exact plain_of_call _ nofun nofun
  | approveReplacement accepted =>
    cases stage with
    | approveAnswered transaction result =>
      obtain ⟨proven, after⟩ := Option.ite_none_right_eq_some.1 seen
      exact seen_after nofun (fun row => .approveAccepted _ _ _ row proven) (Option.some.inj after)
    | _ => cases seen
  | approveConfirmed txHash =>
    cases stage with
    | approveAnswered transaction result | approveAccepted transaction result accepted =>
      obtain ⟨-, after⟩ := Option.ite_none_right_eq_some.1 seen
      refine seen_after nofun (fun row => .ready _ _ ?_ rfl) (Option.some.inj after)
      exact plain_of_call _ nofun nofun
    | _ => cases seen
  | depositSubmitted transaction =>
    obtain ⟨may, after⟩ := Option.ite_none_right_eq_some.1 seen
    obtain rfl := Option.some.inj after
    have unstaged := unstaged_of_mayDeposit may
    match answer with
    | .ok (some row) => exact .depositing _ transaction row unstaged
    | .ok none =>
      exact .closes _ _ ⟨rfl, fun _ _ _ same => by cases same⟩
    | .error thrown => exact .closes _ _ ⟨rfl, fun _ _ _ same => by cases same⟩
  | depositReplacement accepted =>
    cases stage with
    | depositAnswered transaction result =>
      obtain ⟨proven, after⟩ := Option.ite_none_right_eq_some.1 seen
      exact seen_after nofun (fun row => .depositAccepted _ _ _ row proven) (Option.some.inj after)
    | _ => cases seen
  | depositConfirmed evidence =>
    cases stage with
    | depositAnswered transaction result => exact seen_closes nofun (Option.some.inj seen)
    | depositAccepted transaction result accepted =>
      exact seen_closes nofun (Option.some.inj seen)
    | _ => cases seen
  | ambiguous reason => exact seen_closes nofun (Option.some.inj seen)
  | failed reason =>
    obtain ⟨-, after⟩ := Option.ite_none_right_eq_some.1 seen
    exact seen_closes nofun (Option.some.inj after)
  | _ => cases seen

theorem seen_of_observe {event : ExecutionEvent} (seen : observe env intent stage event = some stage') :
    Seen env intent stage event stage' := by
  obtain ⟨call, answer⟩ := event
  cases call with
  | depositFeePreflightComplete | assertExecutionLease | assertFreshPreSignPreflight leg =>
    obtain rfl := Option.some.inj seen
    exact .stays _ _ (plain_of_call _ nofun nofun)
  | signApproveLeg walletAddress spender amountUnits ceiling =>
    obtain ⟨⟨rfl, -⟩, after⟩ := Option.ite_none_right_eq_some.1 seen
    match answer with
    | .ok none =>
      obtain rfl := Option.some.inj after
      exact .allowed _ _ _ _
    | .ok (some start) =>
      obtain rfl := Option.some.inj after
      exact .stays _ _ (plain_of_call _ nofun nofun)
    | .error thrown =>
      obtain rfl := Option.some.inj after
      exact .stays _ _ (plain_of_call _ nofun nofun)
  | signDepositLeg walletAddress calldata block ceiling =>
    obtain ⟨-, after⟩ := Option.ite_none_right_eq_some.1 seen
    obtain rfl := Option.some.inj after
    exact .stays _ _ (plain_of_call _ nofun nofun)
  | broadcastApprove transaction =>
    obtain ⟨rfl, after⟩ := Option.ite_none_right_eq_some.1 seen
    match answer with
    | .ok result =>
      obtain rfl := Option.some.inj after
      exact .approveAnswered transaction result
    | .error thrown =>
      obtain rfl := Option.some.inj after
      exact .closes (.approving transaction) _ (plain_of_call _ nofun nofun)
  | broadcastDeposit transaction =>
    obtain ⟨rfl, after⟩ := Option.ite_none_right_eq_some.1 seen
    match answer with
    | .ok result =>
      obtain rfl := Option.some.inj after
      exact .depositAnswered transaction result
    | .error thrown =>
      obtain rfl := Option.some.inj after
      exact .depositLost transaction thrown
  | statement intentId transition =>
    obtain ⟨rfl, seen⟩ := Option.ite_none_right_eq_some.1 seen
    exact seen_of_observeStatement seen

theorem Seen.staged {event : ExecutionEvent} (seen : Seen env intent stage event stage') :
    stage'.staged = stage.staged ∨ stage.staged = none ∧ ∃ transaction row,
      event = stagedDeposit intent.intentId transaction row ∧ stage' = .depositing transaction := by
  cases seen with
  | depositing stage transaction row unstaged => exact .inr ⟨unstaged, transaction, row, rfl, rfl⟩
  | ready stage event plain unstaged => exact .inl unstaged.symm
  | _ => exact .inl rfl

variable {transaction : StagedTransaction}

theorem Seen.accepted {event : ExecutionEvent} (seen : Seen env intent stage event stage')
    {result : LegResult} {accepted : Replacement}
    (at_ : stage' = .depositAccepted transaction result accepted) : stage = stage' ∨
      ∃ row, event = ⟨.statement intent.intentId (.depositReplacement accepted), .ok (some row)⟩ := by
  cases seen with
  | stays => exact .inl rfl
  | depositAccepted transaction result accepted row proven =>
    cases at_
    exact .inr ⟨row, rfl⟩
  | _ => cases at_

/-! ## What the stage says of the run -/

def Stage.awaitsBroadcast : Stage → Option StagedTransaction
  | .depositing transaction => some transaction
  | _ => none

def Stage.approveResult : Stage → Option (StagedTransaction × LegResult)
  | .approveAnswered transaction result => some (transaction, result)
  | .approveAccepted transaction result _ => some (transaction, result)
  | _ => none

def Stage.depositResult : Stage → Option (StagedTransaction × LegResult)
  | .depositAnswered transaction result => some (transaction, result)
  | .depositAccepted transaction result _ => some (transaction, result)
  | _ => none

def Stage.replaced : Stage → Option (LegStage × StagedTransaction × LegResult × Replacement)
  | .approveAccepted transaction result accepted => some (.approve, transaction, result, accepted)
  | .depositAccepted transaction result accepted => some (.deposit, transaction, result, accepted)
  | _ => none

/-- What the stage says of the events of a run. -/
structure Told (env : Surroundings) (intent : Row) (stage : Stage) (past : List ExecutionEvent) :
    Prop where
  staged : ∀ intentId transaction row, stagedDeposit intentId transaction row ∈ past →
    stage.staged = some transaction
  stagedBy : ∀ transaction, stage.staged = some transaction →
    ∃ row, stagedDeposit intent.intentId transaction row ∈ past
  broadcast : ∀ transaction answer, (⟨.broadcastDeposit transaction, answer⟩ : ExecutionEvent) ∈ past →
    stage.staged = some transaction ∧ stage.awaitsBroadcast = none
  once : past.countP isDepositBroadcast ≤ 1
  allowed : stage = .allowed → ∃ walletAddress spender amountUnits ceiling,
    (⟨.signApproveLeg walletAddress spender amountUnits ceiling, .ok none⟩ : ExecutionEvent) ∈ past
  approveResult : ∀ transaction result, stage.approveResult = some (transaction, result) →
    (⟨.broadcastApprove transaction, .ok result⟩ : ExecutionEvent) ∈ past
  depositResult : ∀ transaction result, stage.depositResult = some (transaction, result) →
    (⟨.broadcastDeposit transaction, .ok result⟩ : ExecutionEvent) ∈ past
  proven : ∀ leg transaction result accepted,
    stage.replaced = some (leg, transaction, result, accepted) →
      proves env intent leg transaction result accepted = true

theorem told_nil : Told env intent .opening [] where
  staged _ _ _ among := nomatch among
  stagedBy _ staged := nomatch staged
  broadcast _ _ among := nomatch among
  once := Nat.zero_le 1
  allowed at_ := nomatch at_
  approveResult _ _ at_ := nomatch at_
  depositResult _ _ at_ := nomatch at_
  proven _ _ _ _ at_ := nomatch at_

variable {past : List ExecutionEvent} {event : ExecutionEvent}

theorem Told.plain (told : Told env intent stage past) (plain : Plain event)
    (staged : stage'.staged = stage.staged)
    (awaits : stage'.awaitsBroadcast = none ∨ stage'.awaitsBroadcast = stage.awaitsBroadcast)
    (allowed : stage' = .allowed → ∃ walletAddress spender amountUnits ceiling,
      (⟨.signApproveLeg walletAddress spender amountUnits ceiling, .ok none⟩ : ExecutionEvent) ∈
        past ++ [event])
    (approveResult : ∀ transaction result, stage'.approveResult = some (transaction, result) →
      (⟨.broadcastApprove transaction, .ok result⟩ : ExecutionEvent) ∈ past ++ [event])
    (depositResult : ∀ transaction result, stage'.depositResult = some (transaction, result) →
      stage.depositResult = some (transaction, result))
    (proven : ∀ leg transaction result accepted,
      stage'.replaced = some (leg, transaction, result, accepted) →
        proves env intent leg transaction result accepted = true) :
    Told env intent stage' (past ++ [event]) where
  staged intentId transaction row among := by
    obtain before | now := List.mem_append.1 among
    · exact staged.trans (told.staged intentId transaction row before)
    · exact absurd (List.mem_singleton.1 now).symm (plain.2 _ _ _)
  stagedBy transaction at_ := by
    obtain ⟨row, among⟩ := told.stagedBy transaction (staged.symm.trans at_)
    exact ⟨row, List.mem_append_left _ among⟩
  broadcast transaction answer among := by
    obtain before | now := List.mem_append.1 among
    · obtain ⟨at_, still⟩ := told.broadcast transaction answer before
      exact ⟨staged.trans at_, awaits.elim id fun same => same.trans still⟩
    · obtain rfl := List.mem_singleton.1 now
      exact nomatch plain.1
  once := by
    rw [List.countP_append, List.countP_singleton, plain.1]
    exact told.once
  allowed := allowed
  approveResult := approveResult
  depositResult transaction result at_ :=
    List.mem_append_left _ (told.depositResult _ _ (depositResult transaction result at_))
  proven := proven

/-- A stage that says nothing but which deposit was staged. -/
structure Stage.Silent (stage : Stage) : Prop where
  awaits : stage.awaitsBroadcast = none
  allowed : stage ≠ .allowed
  approveResult : stage.approveResult = none
  depositResult : stage.depositResult = none
  replaced : stage.replaced = none

theorem Told.silent (told : Told env intent stage past) (plain : Plain event)
    (staged : stage'.staged = stage.staged) (silent : stage'.Silent) :
    Told env intent stage' (past ++ [event]) := by
  refine told.plain plain staged (.inl silent.awaits) (fun at_ => absurd at_ silent.allowed)
    (fun _ _ at_ => ?_) (fun _ _ at_ => ?_) fun _ _ _ _ at_ => ?_
  · exact nomatch silent.approveResult.symm.trans at_
  · exact nomatch silent.depositResult.symm.trans at_
  · exact nomatch silent.replaced.symm.trans at_

theorem Told.depositing (told : Told env intent stage past) (transaction : StagedTransaction)
    (row : Row) (unstaged : stage.staged = none) :
    Told env intent (.depositing transaction)
      (past ++ [stagedDeposit intent.intentId transaction row]) where
  staged intentId other row' among := by
    obtain before | now := List.mem_append.1 among
    · exact nomatch unstaged.symm.trans (told.staged _ _ _ before)
    · cases List.mem_singleton.1 now
      rfl
  stagedBy other at_ := by
    cases at_
    exact ⟨row, by simp⟩
  broadcast other answer among := by
    obtain before | now := List.mem_append.1 among
    · exact nomatch unstaged.symm.trans (told.broadcast _ _ before).1
    · exact nomatch List.mem_singleton.1 now
  once := by
    rw [List.countP_append]
    exact told.once
  allowed at_ := nomatch at_
  approveResult _ _ at_ := nomatch at_
  depositResult _ _ at_ := nomatch at_
  proven _ _ _ _ at_ := nomatch at_

theorem Told.unsent (told : Told env intent (.depositing transaction) past) :
    past.countP isDepositBroadcast = 0 := by
  refine List.countP_eq_zero.2 fun event among sent => ?_
  obtain ⟨call, answer⟩ := event
  cases call with
  | broadcastDeposit other =>
    have none_ := (told.broadcast other answer among).2
    exact absurd none_ (Option.some_ne_none transaction)
  | _ => exact absurd sent Bool.false_ne_true

theorem Told.depositSent (told : Told env intent (.depositing transaction) past)
    (answer : Except Thrown LegResult) (staged : stage'.staged = some transaction)
    (awaits : stage'.awaitsBroadcast = none) (allowed : stage' ≠ .allowed)
    (approveResult : stage'.approveResult = none)
    (depositResult : ∀ other result, stage'.depositResult = some (other, result) →
      other = transaction ∧ answer = .ok result) (replaced : stage'.replaced = none) :
    Told env intent stage' (past ++ [⟨.broadcastDeposit transaction, answer⟩]) where
  staged intentId other row among := by
    obtain before | now := List.mem_append.1 among
    · exact staged.trans (told.staged _ _ _ before)
    · exact nomatch List.mem_singleton.1 now
  stagedBy other at_ := by
    obtain ⟨row, among⟩ := told.stagedBy other (staged.symm.trans at_)
    exact ⟨row, List.mem_append_left _ among⟩
  broadcast other answer' among := by
    obtain before | now := List.mem_append.1 among
    · exact nomatch (told.broadcast other answer' before).2
    · cases List.mem_singleton.1 now
      exact ⟨staged, awaits⟩
  once := by
    rw [List.countP_append, told.unsent]
    rfl
  allowed at_ := absurd at_ allowed
  approveResult _ _ at_ := nomatch approveResult.symm.trans at_
  depositResult other result at_ := by
    obtain ⟨rfl, rfl⟩ := depositResult other result at_
    simp
  proven _ _ _ _ at_ := nomatch replaced.symm.trans at_

theorem Told.seen (told : Told env intent stage past) (seen : Seen env intent stage event stage') :
    Told env intent stage' (past ++ [event]) := by
  cases seen with
  | stays stage event plain =>
    refine told.plain plain rfl (.inr rfl) (fun at_ => ?_) (fun transaction result at_ => ?_)
      (fun _ _ at_ => at_) told.proven
    · obtain ⟨walletAddress, spender, amountUnits, ceiling, among⟩ := told.allowed at_
      exact ⟨walletAddress, spender, amountUnits, ceiling, List.mem_append_left _ among⟩
    · exact List.mem_append_left _ (told.approveResult _ _ at_)
  | closes stage event plain =>
    exact told.silent plain rfl ⟨rfl, (nomatch ·), rfl, rfl, rfl⟩
  | allowed walletAddress spender amountUnits ceiling =>
    refine told.plain (plain_of_call _ nofun nofun) rfl (.inl rfl) (fun _ => ?_)
      (fun _ _ at_ => nomatch at_) (fun _ _ at_ => nomatch at_) (fun _ _ _ _ at_ => nomatch at_)
    exact ⟨walletAddress, spender, amountUnits, ceiling, by simp⟩
  | approving transaction row =>
    exact told.silent ⟨rfl, fun _ _ _ same => nomatch same⟩ rfl ⟨rfl, (nomatch ·), rfl, rfl, rfl⟩
  | approveAnswered transaction result =>
    refine told.plain (plain_of_call _ nofun nofun) rfl (.inl rfl) (nomatch ·)
      (fun other result' at_ => ?_) (fun _ _ at_ => nomatch at_) (fun _ _ _ _ at_ => nomatch at_)
    cases at_
    simp
  | approveAccepted transaction result accepted row proven =>
    refine told.plain ⟨rfl, fun _ _ _ same => nomatch same⟩ rfl (.inl rfl) (nomatch ·)
      (fun other result' at_ => ?_) (fun _ _ at_ => nomatch at_) fun leg other result' accepted' at_ => ?_
    · cases at_
      exact List.mem_append_left _ (told.approveResult _ _ rfl)
    · cases at_
      exact proven
  | ready stage event plain unstaged =>
    exact told.silent plain unstaged.symm ⟨rfl, (nomatch ·), rfl, rfl, rfl⟩
  | depositAccepted transaction result accepted row proven =>
    refine told.plain ⟨rfl, fun _ _ _ same => nomatch same⟩ rfl (.inl rfl) (nomatch ·)
      (fun _ _ at_ => nomatch at_) (fun _ _ at_ => at_) fun leg other result' accepted' at_ => ?_
    cases at_
    exact proven
  | depositing stage transaction row unstaged => exact told.depositing transaction row unstaged
  | depositAnswered transaction result =>
    refine told.depositSent (.ok result) rfl rfl (nomatch ·) rfl (fun other result' at_ => ?_)
      rfl
    cases at_
    exact ⟨rfl, rfl⟩
  | depositLost transaction thrown =>
    exact told.depositSent (.error thrown) rfl rfl (nomatch ·) rfl (fun _ _ at_ => nomatch at_) rfl

theorem told_of_accept (accepted : Program.accept (observe env intent) .opening past = some stage) :
    Told env intent stage past :=
  Program.accept_induction (observe env intent) (motive := Told env intent)
    (fun _ _ _ _ told seen => told.seen (seen_of_observe seen)) told_nil accepted

end

end Vex.Lighter.OnboardingIntents.DepositExecution
