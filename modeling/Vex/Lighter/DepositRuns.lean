import Vex.Library.Interleaving
import Vex.Lighter.DepositRows
import Vex.Lighter.DepositStages

/-!
# Executors on one row

Any number of executors run on the row of one deposit, each of the row it read at its
start. A statement of a run may be lost before or after it was committed, and all other
calls of a run may answer anything. Between the calls of the runs the other writers act:
the decision of the approval, renewals, supersession, expiry, the repair from receipts, and
a repair that records the replacement it proved of a row it read before.
-/

namespace Vex.Lighter.OnboardingIntents.DepositExecution

open Vex.Library Vex.Evm.StagedBroadcast

/-! ## The world -/

/-- The row of the deposit, and the rows that repairs have read. -/
structure Store where
  row : Row
  reads : Nat → Option Row

/-- Whether the answer of a statement arrives, and what it did where it does not. -/
inductive Ack where
  | returned
  | lostBefore
  | lostAfter
  deriving DecidableEq

/-- What the store does not decide of a call. -/
structure Oracle where
  time : StatementTime
  workflow : Bool
  ack : Ack
  thrown : Thrown
  answer : (call : Call) → Except Thrown call.Answer

/-- The approval is confirmed already, by the transaction that is observed. -/
def AlreadyConfirmed (lower : JsString → JsString) (row : Row) (intentId txHash : JsString) : Prop :=
  row.intentId = intentId ∧ row.capability = .deposit ∧ row.executionState = .approveConfirmed
    ∧ row.approve.Is lower txHash ∧ row.approve.txFrom ≠ none ∧ row.approve.txNonce ≠ none
    ∧ row.deposit.txHash = none ∧ row.deposit.replacementTxHash = none

instance (lower : JsString → JsString) (row : Row) (intentId txHash : JsString) :
    Decidable (AlreadyConfirmed lower row intentId txHash) := by
  unfold AlreadyConfirmed
  infer_instance

/-- The row a statement answers with: the one it wrote, or the one that is as it asks. -/
def answered (lower : JsString → JsString) (row : Row) (op : Op) : Option Row :=
  match applied lower row op, op.transition with
  | some written, _ => some written
  | none, .approveConfirmed txHash =>
    if AlreadyConfirmed lower row op.intentId txHash ∧ op.workflow = true then some row else none
  | none, _ => none

def recordReplacement : LegStage → Replacement → Transition
  | .approve, replacement => .approveReplacement replacement
  | .deposit, replacement => .depositReplacement replacement

/-- The statements that only an executor issues, or a repair that has proven a replacement. -/
def onlyExecutors : Transition → Bool
  | .approveSubmitted _ => true
  | .allowanceVerified => true
  | .depositSubmitted _ => true
  | .approveConfirmed _ => true
  | .approveReplacement _ => true
  | .depositReplacement _ => true
  | .failed _ => true
  | _ => false

inductive Beside where
  | statement (op : Op)
  | read (repair : Nat)
  | record (repair : Nat) (stage : LegStage) (replacement : ReceiptReplacementEvidence)
      (observedAt : Instant) (time : StatementTime)

section

variable (env : Surroundings)

def Store.write (store : Store) (op : Op) : Store :=
  { store with row := step env.lower store.row op }

def perform (store : Store) (oracle : Oracle) : (call : Call) → Store × Except Thrown call.Answer
  | .statement intentId transition =>
    let op : Op := ⟨oracle.time, intentId, oracle.workflow, transition⟩
    match oracle.ack with
    | .returned => (store.write env op, .ok (answered env.lower store.row op))
    | .lostBefore => (store, .error oracle.thrown)
    | .lostAfter => (store.write env op, .error oracle.thrown)
  | call => (store, oracle.answer call)

/-- The statement by which a repair records what it proved of the row it read. -/
def replacementOf (store : Store) (repair : Nat) (stage : LegStage)
    (replacement : ReceiptReplacementEvidence) (observedAt : Instant) (time : StatementTime) :
    Option Op := do
  let read ← store.reads repair
  let accepted ←
    (proveApprovedLighterDepositReplacement env read stage replacement observedAt).toOption
  pure ⟨time, read.intentId, true, recordReplacement stage accepted⟩

def beside (store : Store) : Beside → Store
  | .statement op => if onlyExecutors op.transition = true then store else store.write env op
  | .read repair => { store with reads := Function.update store.reads repair (some store.row) }
  | .record repair stage replacement observedAt time =>
    match replacementOf env store repair stage replacement observedAt time with
    | none => store
    | some op => store.write env op

def sem : Interleaving.Semantics Store Oracle Beside Row Call Call.Answer Progress Thrown Result where
  read := Store.row
  program := executeApprovedLighterDeposit env
  locals := .fresh
  perform := perform env
  other := beside env

end

abbrev World := Interleaving.State Store Row Call Call.Answer Progress Thrown Result

abbrev Act := Interleaving.Act Oracle Beside

def created (time : StatementTime) (input : CreateDepositIntentInput) : World :=
  ⟨⟨createDeposit time input, fun _ => none⟩, fun _ => none⟩

/-! ## What a call writes -/

variable {env : Surroundings} {store store' : Store}

def Wrote (lower : JsString → JsString) (row row' : Row) (statement : Op → Prop) : Prop :=
  row' = row ∨ ∃ op, statement op ∧ applied lower row op = some row'

theorem wrote_write {op : Op} {statement : Op → Prop} (issued : statement op) :
    Wrote env.lower store.row (store.write env op).row statement := by
  obtain same | took := orStay_cases (applied env.lower) store.row op
  · exact .inl same
  · exact .inr ⟨op, issued, took⟩

def Issues (oracle : Oracle) (call : Call) (op : Op) : Prop :=
  ∃ intentId transition, call = .statement intentId transition ∧
    op = ⟨oracle.time, intentId, oracle.workflow, transition⟩

theorem perform_wrote (oracle : Oracle) (call : Call) :
    (perform env store oracle call).1.reads = store.reads ∧
      Wrote env.lower store.row (perform env store oracle call).1.row (Issues oracle call) := by
  cases call with
  | statement intentId transition =>
    unfold perform
    cases oracle.ack with
    | returned | lostAfter => exact ⟨rfl, wrote_write ⟨intentId, transition, rfl, rfl⟩⟩
    | lostBefore => exact ⟨rfl, .inl rfl⟩
  | _ => exact ⟨rfl, .inl rfl⟩

variable {oracle : Oracle} {intentId : JsString} {row : Row}

theorem perform_took {transition : Transition}
    (unconfirmed : ∀ txHash, transition ≠ .approveConfirmed txHash)
    (came : (perform env store oracle (.statement intentId transition)).2 = .ok (some row)) :
    applied env.lower store.row ⟨oracle.time, intentId, oracle.workflow, transition⟩ =
      some (perform env store oracle (.statement intentId transition)).1.row := by
  unfold perform at came ⊢
  cases ack : oracle.ack with
  | lostBefore => simp [ack] at came
  | lostAfter => simp [ack] at came
  | returned =>
    simp only [ack, Except.ok.injEq] at came ⊢
    have took : applied env.lower store.row ⟨oracle.time, intentId, oracle.workflow, transition⟩ =
        some row := by
      unfold answered at came
      split at came
      · rename_i written took
        exact took.trans came
      · rename_i txHash missed confirms
        exact absurd confirms (unconfirmed txHash)
      · cases came
    simp [Store.write, step, orStay, took]

def IssuesBeside (env : Surroundings) (store : Store) (act : Beside) (op : Op) : Prop :=
  (act = .statement op ∧ onlyExecutors op.transition = false) ∨
    ∃ repair stage replacement observedAt time,
      act = .record repair stage replacement observedAt time ∧
        replacementOf env store repair stage replacement observedAt time = some op

theorem beside_wrote (act : Beside) :
    Wrote env.lower store.row (beside env store act).row (IssuesBeside env store act) := by
  cases act with
  | statement op =>
    simp only [beside]
    split
    · exact .inl rfl
    · rename_i outside
      exact wrote_write (.inl ⟨rfl, Bool.eq_false_iff.2 outside⟩)
  | read repair => exact .inl rfl
  | record repair stage replacement observedAt time =>
    simp only [beside]
    split
    · exact .inl rfl
    · rename_i op issued
      exact wrote_write (.inr ⟨repair, stage, replacement, observedAt, time, rfl, issued⟩)

section

variable {lower : JsString → JsString} {row row' : Row} {statement : Op → Prop}

section
variable (wrote : Wrote lower row row' statement)
include wrote

theorem Wrote.shape (shape : Shape row) : Shape row' := by
  obtain rfl | ⟨op, -, took⟩ := wrote
  · exact shape
  · exact shape_applied shape took

theorem Wrote.same : SameDeposit row row' := by
  obtain rfl | ⟨op, -, took⟩ := wrote
  · exact .refl _
  · exact sameDeposit_applied took

theorem Wrote.approve_kept (shape : Shape row) (staged : row.approve.txHash ≠ none) :
    row.approve.SameTransaction row'.approve := by
  obtain rfl | ⟨op, -, took⟩ := wrote
  · exact .of_eq rfl
  · exact (effect_applied shape took).approve_kept shape staged

theorem Wrote.deposit_kept (shape : Shape row) (staged : row.deposit.txHash ≠ none) :
    row.deposit.SameTransaction row'.deposit := by
  obtain rfl | ⟨op, -, took⟩ := wrote
  · exact .of_eq rfl
  · exact (effect_applied shape took).deposit_kept shape staged

theorem Wrote.replaced_kept (shape : Shape row) {txHash : JsString}
    (replaced : row.deposit.Replaced lower txHash) : row'.deposit.Replaced lower txHash := by
  obtain rfl | ⟨op, -, took⟩ := wrote
  · exact replaced
  · exact (effect_applied shape took).replaced_kept replaced

end

end

/-! ## What holds in every state -/

structure ReadOf (read row : Row) : Prop where
  same : SameDeposit read row
  deposit : read.deposit.txHash ≠ none → read.deposit.SameTransaction row.deposit

theorem ReadOf.refl (row : Row) : ReadOf row row := ⟨.refl row, fun _ => .of_eq rfl⟩

/-- The row, and of each executor the row it read and its stage. -/
abbrev Stages := Interleaving.View Store Row Stage

/-- What holds of them in every state. -/
structure Sound (lower : JsString → JsString) (v : Stages) : Prop where
  shape : Shape v.store.row
  reads : ∀ repair read, v.store.reads repair = some read → ReadOf read v.store.row
  same : ∀ id intent stage, v.stages id = some (intent, stage) → SameDeposit intent v.store.row
  staged : ∀ id intent stage transaction, v.stages id = some (intent, stage) →
    stage.staged = some transaction → v.store.row.deposit.Holds transaction
  accepted : ∀ id intent transaction result accepted,
    v.stages id = some (intent, .depositAccepted transaction result accepted) →
      v.store.row.deposit.Replaced lower accepted.replacementTxHash
  alone : ∀ id intent stage id' intent' stage', v.stages id = some (intent, stage) →
    v.stages id' = some (intent', stage') → stage.staged ≠ none → stage'.staged ≠ none → id = id'

theorem sound_created (lower : JsString → JsString) (time : StatementTime)
    (input : CreateDepositIntentInput) :
    Sound lower ⟨⟨createDeposit time input, fun _ => none⟩, fun _ => none⟩ where
  shape := shape_createDeposit time input
  reads _ _ read := nomatch read
  same _ _ _ runs := nomatch runs
  staged _ _ _ _ runs := nomatch runs
  accepted _ _ _ _ _ runs := nomatch runs
  alone _ _ _ _ _ _ runs := nomatch runs

section

variable {lower : JsString → JsString} {v : Stages}

theorem Sound.write (sound : Sound lower v) {statement : Op → Prop} {store : Store}
    (wrote : Wrote lower v.store.row store.row statement) (reads : store.reads = v.store.reads) :
    Sound lower ⟨store, v.stages⟩ where
  shape := wrote.shape sound.shape
  reads repair read at_ := by
    have before := sound.reads repair read (by rw [← reads]; exact at_)
    refine ⟨before.same.trans wrote.same, fun staged => ?_⟩
    have same := before.deposit staged
    exact same.trans (wrote.deposit_kept sound.shape (by rw [same.txHash]; exact staged))
  same id intent stage runs := (sound.same id intent stage runs).trans wrote.same
  staged id intent stage transaction runs staged := by
    have holds := sound.staged id intent stage transaction runs staged
    exact holds.kept (wrote.deposit_kept sound.shape holds.staged)
  accepted id intent transaction result accepted runs :=
    wrote.replaced_kept sound.shape (sound.accepted id intent transaction result accepted runs)
  alone := sound.alone

theorem Sound.stage (sound : Sound lower v) (id : Nat) {intent : Row} {stage : Stage}
    (same : SameDeposit intent v.store.row)
    (staged : ∀ transaction, stage.staged = some transaction →
      v.store.row.deposit.Holds transaction)
    (accepted : ∀ transaction result accepted,
      stage = .depositAccepted transaction result accepted →
        v.store.row.deposit.Replaced lower accepted.replacementTxHash)
    (alone : stage.staged ≠ none → ∀ other intent' stage', other ≠ id →
      v.stages other = some (intent', stage') → stage'.staged = none) :
    Sound lower { v with stages := Function.update v.stages id (some (intent, stage)) } := by
  have at_ : ∀ other intent' stage',
      Function.update v.stages id (some (intent, stage)) other = some (intent', stage') →
        other = id ∧ intent' = intent ∧ stage' = stage ∨
          other ≠ id ∧ v.stages other = some (intent', stage') := by
    intro other intent' stage' runs
    by_cases own : other = id
    · subst own
      rw [Function.update_self] at runs
      obtain ⟨rfl, rfl⟩ := Prod.mk.inj (Option.some.inj runs)
      exact .inl ⟨rfl, rfl, rfl⟩
    · rw [Function.update_of_ne own] at runs
      exact .inr ⟨own, runs⟩
  refine ⟨sound.shape, sound.reads, ?_, ?_, ?_, ?_⟩
  · intro other intent' stage' runs
    obtain ⟨-, rfl, rfl⟩ | ⟨-, runs⟩ := at_ _ _ _ runs
    · exact same
    · exact sound.same _ _ _ runs
  · intro other intent' stage' transaction runs
    obtain ⟨-, rfl, rfl⟩ | ⟨-, runs⟩ := at_ _ _ _ runs
    · exact staged transaction
    · exact sound.staged _ _ _ _ runs
  · intro other intent' transaction result accepted' runs
    obtain ⟨-, rfl, rfl⟩ | ⟨-, runs⟩ := at_ _ _ _ runs
    · exact accepted _ _ _ rfl
    · exact sound.accepted _ _ _ _ _ runs
  · intro first intent₁ stage₁ second intent₂ stage₂ runs₁ runs₂ staged₁ staged₂
    obtain ⟨rfl, rfl, rfl⟩ | ⟨other₁, before₁⟩ := at_ _ _ _ runs₁
    · obtain ⟨rfl, -, -⟩ | ⟨other₂, before₂⟩ := at_ _ _ _ runs₂
      · rfl
      · exact absurd (alone staged₁ _ _ _ other₂ before₂) staged₂
    · obtain ⟨rfl, rfl, rfl⟩ | ⟨other₂, before₂⟩ := at_ _ _ _ runs₂
      · exact absurd (alone staged₂ _ _ _ other₁ before₁) staged₁
      · exact sound.alone _ _ _ _ _ _ before₁ before₂ staged₁ staged₂

theorem Sound.nobody (sound : Sound lower v) (unstaged : v.store.row.deposit.txHash = none)
    {id : Nat} {intent : Row} {stage : Stage} (runs : v.stages id = some (intent, stage)) :
    stage.staged = none := by
  cases staged : stage.staged with
  | none => rfl
  | some transaction =>
    exact absurd unstaged (sound.staged id intent stage transaction runs staged).staged

end

theorem perform_staged {call : Call} {transaction : StagedTransaction} (shape : Shape store.row)
    (event : (⟨call, (perform env store oracle call).2⟩ : ExecutionEvent) =
      stagedDeposit intentId transaction row) :
    store.row.deposit.txHash = none ∧
      (perform env store oracle call).1.row.deposit.Holds transaction := by
  obtain ⟨rfl, came⟩ := Sigma.mk.inj event
  have took := perform_took (fun _ same => Transition.noConfusion same) (eq_of_heq came)
  obtain ⟨⟨⟨-, source⟩, -⟩, written⟩ := casRow_eq_some.1 took
  rw [← written]
  refine ⟨shape.undeposited ?_, rfl, rfl, rfl⟩
  exact (by decide : [ExecutionState.approveConfirmed, .allowanceVerified] ⊆ undepositedStates)
    source

theorem perform_replaced {call : Call} {accepted : Replacement}
    (event : (⟨call, (perform env store oracle call).2⟩ : ExecutionEvent) =
      ⟨.statement intentId (.depositReplacement accepted), .ok (some row)⟩) :
    (perform env store oracle call).1.row.deposit.Replaced env.lower
      accepted.replacementTxHash := by
  obtain ⟨rfl, came⟩ := Sigma.mk.inj event
  have took := perform_took (fun _ same => Transition.noConfusion same) (eq_of_heq came)
  obtain ⟨-, written⟩ := casRow_eq_some.1 took
  rw [← written]
  exact ⟨_, rfl, rfl⟩

variable {id : Nat}

theorem Sound.resume {v : Stages} (sound : Sound env.lower v) {intent : Row} {stage stage' : Stage}
    (runs : v.stages id = some (intent, stage)) (call : Call)
    (seen : observe env intent stage ⟨call, (perform env v.store oracle call).2⟩ = some stage') :
    Sound env.lower ⟨(perform env v.store oracle call).1,
      Function.update v.stages id (some (intent, stage'))⟩ := by
  obtain ⟨reads, wrote⟩ := @perform_wrote env v.store oracle call
  have moved := sound.write wrote reads
  have move := seen_of_observe seen
  have same := (sound.same id intent stage runs).trans wrote.same
  refine moved.stage id same ?_ ?_ ?_
  · intro transaction staged
    obtain kept | ⟨unstaged, other, row, event, rfl⟩ := move.staged
    · exact moved.staged id intent stage transaction runs (kept.symm.trans staged)
    · cases staged
      exact (perform_staged sound.shape event).2
  · intro transaction result accepted at_
    obtain rfl | ⟨row, event⟩ := move.accepted at_
    · exact moved.accepted id intent transaction result accepted (at_ ▸ runs)
    · exact perform_replaced event
  · intro staged other intent' stage₂ others runs₂
    obtain kept | ⟨unstaged, transaction, row, event, rfl⟩ := move.staged
    · by_contra staged₂
      exact others (sound.alone _ _ _ _ _ _ runs₂ runs staged₂ (kept ▸ staged))
    · exact sound.nobody (perform_staged sound.shape event).1 runs₂

theorem Sound.moves {v v' : Stages} {act : Act} (sound : Sound env.lower v)
    (moves : Interleaving.Moves (sem env) (observe env) .opening v act v') : Sound env.lower v' := by
  cases moves with
  | idle => exact sound
  | start id fresh =>
    exact sound.stage id (.refl v.store.row) (fun _ staged => nomatch staged)
      (fun _ _ _ at_ => nomatch at_) fun staged => absurd rfl staged
  | resume id oracle runs call seen => exact sound.resume runs call seen
  | other act =>
    have wrote := @beside_wrote env v.store act
    cases act with
    | statement op => exact sound.write wrote (by simp only [sem, beside]; split <;> rfl)
    | read repair =>
      refine ⟨sound.shape, fun other read at_ => ?_, sound.same, sound.staged, sound.accepted,
        sound.alone⟩
      change Function.update v.store.reads repair (some v.store.row) other = some read at at_
      by_cases own : other = repair
      · subst own
        rw [Function.update_self] at at_
        obtain rfl := Option.some.inj at_
        exact .refl _
      · rw [Function.update_of_ne own] at at_
        exact sound.reads other read at_
    | record repair stage replacement observedAt time =>
      exact sound.write wrote (by simp only [sem, beside]; split <;> rfl)

/-- The state after a run of the executors and of what happens beside them. -/
abbrev after (env : Surroundings) (s : World) (acts : List Act) : World :=
  run (Interleaving.step (sem env)) s acts

abbrev stages (env : Surroundings) (s : World) : Stages :=
  Interleaving.view (observe env) .opening s

/-- The state is sound, and its executors meet their monitors. -/
structure Reached (env : Surroundings) (s : World) : Prop where
  tracked : Interleaving.AllTracked (observe env) .opening s
  sound : Sound env.lower (stages env s)

theorem reached_created (env : Surroundings) (time : StatementTime)
    (input : CreateDepositIntentInput) : Reached env (created time input) where
  tracked _ _ runs := nomatch runs
  sound := sound_created env.lower time input

variable {s : World}

theorem Reached.step (reached : Reached env s) (act : Act) :
    Reached env (Interleaving.step (sem env) s act) := by
  have meets : ∀ intent, ((sem env).program intent).wp (observe env intent) (fun _ _ _ => True)
      (sem env).locals .opening := executeApprovedLighterDeposit_wp env
  obtain ⟨tracked, moves⟩ := Interleaving.step_moves meets reached.tracked act
  exact ⟨tracked, reached.sound.moves moves⟩

theorem reached_after (env : Surroundings) (time : StatementTime) (input : CreateDepositIntentInput)
    (acts : List Act) : Reached env (after env (created time input) acts) :=
  run_induction (fun _ act reached => reached.step act) (reached_created env time input) acts

theorem Reached.thread (reached : Reached env s)
    {thread : Interleaving.Thread Row Call Call.Answer Progress Thrown Result}
    (runs : s.threads id = some thread) : ∃ stage, Told env thread.context stage thread.events ∧
      (stages env s).stages id = some (thread.context, stage) ∧
      thread.program.wp (observe env thread.context) (fun _ _ _ => True) thread.locals stage := by
  obtain ⟨stage, at_, holds⟩ := reached.tracked id thread runs
  exact ⟨stage, told_of_accept at_, by simp [Interleaving.view, runs, at_], holds⟩

end Vex.Lighter.OnboardingIntents.DepositExecution
