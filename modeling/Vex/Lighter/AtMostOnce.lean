import Vex.Lighter.OrderCreateExecution
import Vex.Lighter.OrderLifecycleExecution

/-!
# An order is sent at most once

What the executors do after the reservation is watched by a monitor: it follows a
submission from the signature over the statements that record it to the send attempt,
and has no next stage where something is done out of turn. Each executor meets the
monitor whatever its calls answer, so every list of its events is accepted, and what
the claim says of a run is read off the accepted list.
-/

namespace Vex.Lighter

open Vex.Library

namespace Executions

variable {Transition : Type} [IntentStore Transition]

/-! ## The monitor -/

/-- How far a submission has got. `asked` is a marker whose answer was lost, so the send
attempt may be stamped or not. -/
inductive Stage where
  | reserved
  | signed (tx : SignedTx)
  | recorded (tx : SignedTx)
  | staged (tx : SignedTx)
  | asked (tx : SignedTx)
  | admitted (tx : SignedTx)
  | sent (tx : SignedTx)
  | withdrawn
  deriving DecidableEq

/-- The stages before the send attempt can be stamped. -/
def Stage.unsent : Stage → Bool
  | .reserved => true
  | .signed _ => true
  | .recorded _ => true
  | .staged _ => true
  | _ => false

/-- A statement that returns the row it wrote goes on; one that matched no row, or whose
answer was lost, leaves the submission where it was. -/
def Stage.onward {Row : Type} (stage next : Stage) : Except Failure (Option Row) → Stage
  | .ok (some _) => next
  | .ok none => stage
  | .error _ => stage

/-- The marker of the send attempt, whose answer may be lost after it was written. -/
def Stage.attempted {Row : Type} (tx : SignedTx) : Except Failure (Option Row) → Stage
  | .ok (some _) => .admitted tx
  | .ok none => .staged tx
  | .error _ => .asked tx

/-- A statement that records a step: it stands in its turn and for the hash that was signed. -/
def observeMark {Row : Type} (stage : Stage) (step : Mark)
    (answer : Except Failure (Option Row)) : Option Stage :=
  match stage, step with
  | .signed tx, .signed hash =>
    if hash = tx.txHash then some (Stage.onward (.signed tx) (.recorded tx) answer) else none
  | .recorded tx, .staged hash =>
    if hash = tx.txHash then some (Stage.onward (.recorded tx) (.staged tx) answer) else none
  | .staged tx, .sendAttemptStarted hash =>
    if hash = tx.txHash then some (Stage.attempted tx answer) else none
  | stage, .unsubmitted => if stage.unsent then some .withdrawn else none
  | _, _ => none

def observe : Stage → ExecutorEvent Transition → Option Stage
  | stage, ⟨.inl _, _⟩ => some stage
  | stage, ⟨.inr (.sign _), answer⟩ =>
    match stage, answer with
    | .reserved, .ok tx => some (.signed tx)
    | .reserved, .error _ => some .reserved
    | _, _ => none
  | stage, ⟨.inr (.record transition), answer⟩ =>
    match IntentStore.mark transition with
    | none => some stage
    | some mark => observeMark stage mark answer
  | stage, ⟨.inr (.sendTx txType txInfo), _⟩ =>
    match stage with
    | .admitted tx => if txType = tx.txType ∧ txInfo = tx.txInfo then some (.sent tx) else none
    | _ => none
  | stage, ⟨.inr .releaseUnsubmittedReservation, _⟩ =>
    if stage = .withdrawn then some .withdrawn else none
  | stage, ⟨.inr (.retireLighterOrderCapitalCommitment _), _⟩ =>
    if stage = .withdrawn then some .withdrawn else none

theorem observe_aside (stage : Stage) (call : Aside Transition)
    (answer : Except Failure (call.Answer)) :
    observe stage (⟨.inl call, answer⟩ : ExecutorEvent Transition) = some stage := rfl

variable {transition : Transition}

theorem observe_record {stage : Stage} {mark : Mark}
    (marks : IntentStore.mark transition = some mark)
    (answer : Except Failure (Option (IntentStore.Row Transition))) :
    observe stage (⟨.inr (.record transition), answer⟩ : ExecutorEvent Transition) =
      observeMark stage mark answer := by
  simp only [observe, marks]

/-! ## The parts of the executors -/

/-- What the `try` block of an executor leaves behind when it fails: as long as the flag
says that no send attempt was asked for, none can have been. -/
def BlockPost {α : Type} : Except Failure α → Progress → Stage → Prop
  | .ok _, _, _ => True
  | .error _, progress, stage => progress.sendAdmissionStarted = false → stage.unsent = true

variable {progress : Progress}

variable {step : Mark}

theorem mark_wp (marks : IntentStore.mark transition = some step)
    {post : Except Failure (Option (IntentStore.Row Transition)) → Progress → Stage → Prop}
    {stage : Stage} (holds : ∀ answer, ∃ stage', observeMark stage step answer = some stage' ∧
      post answer progress stage') : (mark transition).wp observe post progress stage := by
  intro answer
  obtain ⟨stage', seen, left⟩ := holds answer
  exact ⟨stage', (observe_record marks answer).trans seen, left⟩

theorem aside_bind {α β : Type} {program : Preparation Transition α}
    {next : α → Executor Transition β} {post : Except Failure β → Progress → Stage → Prop}
    {stage : Stage} (fails : ∀ failure, post (.error failure) progress stage)
    (onward : ∀ value, (next value).wp observe post progress stage) :
    (Program.aside program >>= next).wp observe post progress stage :=
  Program.wp_aside_bind (observe_aside stage) fails onward

theorem aside_unsent {α β : Type} {program : Preparation Transition α}
    {next : α → Executor Transition β} {stage : Stage} (unsent : stage.unsent = true)
    (onward : ∀ value, (next value).wp observe BlockPost progress stage) :
    (Program.aside program >>= next).wp observe BlockPost progress stage :=
  aside_bind (fun _ _ => unsent) onward

theorem aside_started {α β : Type} {program : Preparation Transition α}
    {next : α → Executor Transition β} {stage : Stage}
    (started : progress.sendAdmissionStarted = true)
    (onward : ∀ value, (next value).wp observe BlockPost progress stage) :
    (Program.aside program >>= next).wp observe BlockPost progress stage := by
  refine aside_bind (fun _ unset => ?_) onward
  rw [started] at unset
  cases unset

theorem aside_last {α : Type} {program : Preparation Transition α} {stage : Stage}
    (started : progress.sendAdmissionStarted = true) :
    (Program.aside program : Executor Transition α).wp observe BlockPost progress stage := by
  refine Program.wp_aside (observe_aside stage) fun result => ?_
  cases result with
  | ok value => trivial
  | error failure =>
    intro unset
    rw [started] at unset
    cases unset

variable {tx : SignedTx}

theorem persistLighterSigningEvidence_wp {α : Type}
    (marks : IntentStore.mark transition = some (.signed tx.txHash))
    {next : Option (IntentStore.Row Transition) → Executor Transition α}
    (recorded : ∀ row, (next (some row)).wp observe BlockPost progress (.recorded tx))
    (missed : (next none).wp observe BlockPost progress (.signed tx)) :
    (persistLighterSigningEvidence (mark transition) >>= next).wp observe BlockPost progress
      (.signed tx) := by
  have once (post : Except Failure (Option (IntentStore.Row Transition)) → Progress → Stage → Prop)
      (recorded : ∀ row, post (.ok (some row)) progress (.recorded tx))
      (missed : post (.ok none) progress (.signed tx))
      (failed : ∀ failure, post (.error failure) progress (.signed tx)) :
      (mark transition).wp observe post progress (.signed tx) := by
    refine mark_wp marks fun answer => ?_
    match answer with
    | .ok (some row) => exact ⟨_, by simp [observeMark, Stage.onward], recorded row⟩
    | .ok none => exact ⟨_, by simp [observeMark, Stage.onward], missed⟩
    | .error failure => exact ⟨_, by simp [observeMark, Stage.onward], failed failure⟩
  refine Program.wp_bind.2 (Program.wp_tryCatch (once _ recorded missed fun _ => ?_))
  exact once _ recorded missed fun _ _ => rfl

theorem stage_wp {α : Type} (marks : IntentStore.mark transition = some (.staged tx.txHash))
    {next : Option (IntentStore.Row Transition) → Executor Transition α}
    (staged : ∀ row, (next (some row)).wp observe BlockPost progress (.staged tx))
    (missed : (next none).wp observe BlockPost progress (.recorded tx)) :
    (mark transition >>= next).wp observe BlockPost progress (.recorded tx) := by
  refine Program.wp_bind.2 (mark_wp marks fun answer => ?_)
  match answer with
  | .ok (some row) => exact ⟨_, by simp [observeMark, Stage.onward], staged row⟩
  | .ok none => exact ⟨_, by simp [observeMark, Stage.onward], missed⟩
  | .error failure => exact ⟨.recorded tx, by simp [observeMark, Stage.onward], fun _ => rfl⟩

theorem admitSendAttempt_wp {α : Type} {expiresAt : Option Instant} {marker : Transition}
    (marks : IntentStore.mark marker = some (.sendAttemptStarted tx.txHash))
    {next : Unit → Executor Transition α}
    (admitted : ∀ later : Progress, later.sendAdmissionStarted = true →
      (next ()).wp observe BlockPost later (.admitted tx)) :
    (admitSendAttempt expiresAt marker >>= next).wp observe BlockPost progress (.staged tx) := by
  refine Program.wp_bind.2 (aside_bind (fun _ _ => rfl) fun _ => ?_)
  refine Program.wp_bind.2 (Program.wp_assign.2 (Program.wp_bind.2 ?_))
  refine mark_wp marks fun answer => ?_
  match answer with
  | .ok (some row) => exact ⟨_, by simp [observeMark, Stage.attempted], admitted _ rfl⟩
  | .ok none => exact ⟨.staged tx, by simp [observeMark, Stage.attempted], fun _ => rfl⟩
  | .error failure =>
    refine ⟨.asked tx, by simp [observeMark, Stage.attempted], fun unset => ?_⟩
    cases unset

theorem sendTx_wp {α : Type} {next : Except Failure SendTxResponse → Executor Transition α}
    (sent : ∀ response, (next response).wp observe BlockPost progress (.sent tx)) :
    (Program.attempt (sendTx tx) >>= next).wp observe BlockPost progress (.admitted tx) := by
  refine Program.wp_bind.2 (Program.wp_settle.2 fun answer => ?_)
  exact ⟨.sent tx, by simp [observe], sent answer⟩

/-! ## The `catch` block -/

/-- The statements of a withdrawal are the two that end an intent unsubmitted. -/
def Withdrawal.Unsubmits (withdrawal : Withdrawal Transition) : Prop :=
  ∀ signerTxHash error,
    IntentStore.mark (withdrawal.statement signerTxHash error) = some .unsubmitted

theorem observeMark_unsubmitted {Row : Type} {stage : Stage} (unsent : stage.unsent = true)
    (answer : Except Failure (Option Row)) :
    observeMark stage .unsubmitted answer = some .withdrawn := by
  cases stage <;> first | rfl | cases unsent

theorem withdrawable_unset {error : Failure} (withdrawable : progress.withdrawable error = true) :
    progress.sendAdmissionStarted = false := by
  simp only [Progress.withdrawable, Bool.and_eq_true, Bool.not_eq_true'] at withdrawable
  exact withdrawable.1

variable {withdrawal : Withdrawal Transition}

theorem giveBack_wp {reason : String} :
    (giveBack withdrawal reason).wp observe (fun _ _ _ => True) progress .withdrawn := by
  refine Program.wp_bind.2 fun released => ⟨.withdrawn, rfl, ?_⟩
  cases released with
  | error failure => trivial
  | ok _ =>
    show Program.wp _ _ _ _ _
    split
    · refine Program.wp_bind.2 (Program.wp_settle.2 fun retired => ⟨.withdrawn, rfl, ?_⟩)
      trivial
    · trivial

theorem withdraw_wp (unsubmits : withdrawal.Unsubmits) {error : Failure} {stage : Stage}
    (unset : progress.sendAdmissionStarted = false → stage.unsent = true) :
    (withdraw withdrawal error).wp observe (fun _ _ _ => True) progress stage := by
  refine Program.wp_bind.2 (Program.wp_assign.2 (Program.wp_bind.2 (Program.wp_current.2 ?_)))
  rw [Program.andThenPost_ok]
  by_cases withdrawable : Progress.withdrawable { progress with
        signerExited :=
          progress.signerExited || lighterSignerRunExited (.rejected error) } error = true
  · rw [if_pos withdrawable]
    have unstarted := withdrawable_unset withdrawable
    have unsent : stage.unsent = true := unset unstarted
    refine Program.wp_bind.2 (mark_wp (unsubmits _ _) fun refused => ?_)
    refine ⟨.withdrawn, observeMark_unsubmitted unsent refused, ?_⟩
    match refused with
    | .ok (some row) => exact giveBack_wp
    | .ok none => trivial
    | .error failure => trivial
  · rw [if_neg withdrawable]
    split
    · refine aside_bind (fun _ => trivial) fun _ => ?_
      trivial
    · trivial

theorem withdrawing_wp {α : Type} (unsubmits : withdrawal.Unsubmits)
    {block : Executor Transition (Preparation Transition α)} {stage : Stage}
    (holds : block.wp observe BlockPost progress stage) :
    (withdrawing withdrawal block).wp observe (fun _ _ _ => True) progress stage := by
  refine Program.wp_bind.2 (Program.wp_tryCatch (Program.wp_mono ?_ holds))
  intro result progress stage left
  cases result with
  | ok conclude => exact Program.wp_aside (observe_aside stage) fun _ => trivial
  | error failure =>
    refine Program.wp_bind.2 (Program.wp_mono ?_ (withdraw_wp unsubmits left))
    intro result progress stage _
    cases result <;> trivial

/-! ## What an accepted run shows -/

/-- The kinds of events the claim is about. A marker that answered that it wrote nothing is
plain; one whose answer was lost may have stamped the send attempt. -/
inductive Kind where
  | send
  | stamp
  | unsubmit
  | giveBack
  | plain
  deriving DecidableEq

def kind : ExecutorEvent Transition → Kind
  | ⟨.inr (.sendTx _ _), _⟩ => .send
  | ⟨.inr .releaseUnsubmittedReservation, _⟩ => .giveBack
  | ⟨.inr (.retireLighterOrderCapitalCommitment _), _⟩ => .giveBack
  | ⟨.inr (.record transition), answer⟩ =>
    match IntentStore.mark transition, answer with
    | some (.sendAttemptStarted _), .ok none => .plain
    | some (.sendAttemptStarted _), _ => .stamp
    | some .unsubmitted, _ => .unsubmit
    | _, _ => .plain
  | _ => .plain

def signs (tx : SignedTx) : ExecutorEvent Transition → Bool
  | ⟨.inr (.sign _), .ok (signed : SignedTx)⟩ => signed == tx
  | _ => false

/-- A statement that records this step returned the row it wrote. -/
def records (step : Mark) : ExecutorEvent Transition → Bool
  | ⟨.inr (.record transition), .ok (some _)⟩ => IntentStore.mark transition == some step
  | _ => false

def beforeSend (tx : SignedTx) : List (ExecutorEvent Transition → Bool) :=
  [signs tx, records (.signed tx.txHash), records (.staged tx.txHash),
    records (.sendAttemptStarted tx.txHash)]

/-- The front of `beforeSend` that a stage has behind it. -/
def Stage.done : Stage → List (ExecutorEvent Transition → Bool)
  | .reserved => []
  | .signed tx => (beforeSend tx).take 1
  | .recorded tx => (beforeSend tx).take 2
  | .staged tx => (beforeSend tx).take 3
  | .asked tx => (beforeSend tx).take 3
  | .admitted tx => beforeSend tx
  | .sent tx => beforeSend tx
  | .withdrawn => []

/-- The kinds of events that a stage may have behind it. -/
def Stage.allows : Stage → Kind → Bool
  | _, .plain => true
  | .sent _, .send => true
  | .asked _, .stamp => true
  | .admitted _, .stamp => true
  | .sent _, .stamp => true
  | .withdrawn, .unsubmit => true
  | .withdrawn, .giveBack => true
  | _, _ => false

structure Advances (stage : Stage) (event : ExecutorEvent Transition) (stage' : Stage) :
    Prop where
  keeps : ∀ other, stage.allows other = true → stage'.allows other = true
  allowed : stage'.allows (kind event) = true
  first : kind event = .send → stage.allows .send = false
  done : stage'.done = (stage.done : List (ExecutorEvent Transition → Bool)) ∨
    stage'.done = ([] : List (ExecutorEvent Transition → Bool)) ∨
    ∃ condition, condition event = true ∧ stage'.done = stage.done ++ [condition]

theorem allows_plain (stage : Stage) : stage.allows .plain = true := by
  cases stage <;> rfl

theorem keeps_of_unsent {stage : Stage} (unsent : stage.unsent = true) (stage' : Stage)
    (other : Kind) (allowed : stage.allows other = true) : stage'.allows other = true := by
  have plain : other = .plain := by
    cases other with
    | plain => rfl
    | _ => cases stage <;> simp_all [Stage.unsent, Stage.allows]
  rw [plain, allows_plain]

variable {event : ExecutorEvent Transition}

theorem Advances.idle {stage : Stage} (plain : kind event = .plain) :
    Advances stage event stage where
  keeps _ allowed := allowed
  allowed := by rw [plain, allows_plain]
  first send := by
    rw [plain] at send
    cases send
  done := .inl rfl

variable {stage' : Stage}

theorem Advances.forward {stage : Stage} (condition : ExecutorEvent Transition → Bool)
    (unsent : stage.unsent = true) (allowed : stage'.allows (kind event) = true)
    (unlike : kind event ≠ .send) (met : condition event = true)
    (done : stage'.done = stage.done ++ [condition]) : Advances stage event stage' :=
  ⟨keeps_of_unsent unsent stage', allowed, fun send => absurd send unlike,
    .inr (.inr ⟨condition, met, done⟩)⟩

theorem onward_advances {stage next : Stage} (marks : IntentStore.mark transition = some step)
    (answer : Except Failure (Option (IntentStore.Row Transition)))
    (plain : kind (⟨.inr (.record transition), answer⟩ : ExecutorEvent Transition) = .plain)
    (unsent : stage.unsent = true)
    (done : next.done = stage.done ++ [(records step : ExecutorEvent Transition → Bool)]) :
    Advances stage (⟨.inr (.record transition), answer⟩ : ExecutorEvent Transition)
      (stage.onward next answer) := by
  match answer with
  | .ok (some row) =>
    refine .forward (records step) unsent ?_ ?_ ?_ done
    · rw [plain, allows_plain]
    · rw [plain]
      decide
    · simp [records, marks]
  | .ok none => exact .idle plain
  | .error failure => exact .idle plain

theorem attempted_advances
    (marks : IntentStore.mark transition = some (.sendAttemptStarted tx.txHash))
    (answer : Except Failure (Option (IntentStore.Row Transition))) :
    Advances (.staged tx) (⟨.inr (.record transition), answer⟩ : ExecutorEvent Transition)
      (Stage.attempted tx answer) := by
  match answer with
  | .ok (some row) =>
    refine .forward (records (.sendAttemptStarted tx.txHash)) rfl ?_ ?_ ?_ rfl
    · simp [kind, marks, Stage.attempted, Stage.allows]
    · simp [kind, marks]
    · simp [records, marks]
  | .ok none => exact .idle (by simp [kind, marks])
  | .error failure =>
    refine ⟨keeps_of_unsent rfl _, ?_, ?_, .inl rfl⟩
    · simp [kind, marks, Stage.attempted, Stage.allows]
    · simp [kind, marks]

theorem unsubmitted_advances {stage : Stage}
    (marks : IntentStore.mark transition = some .unsubmitted)
    (answer : Except Failure (Option (IntentStore.Row Transition))) (unsent : stage.unsent = true) :
    Advances stage (⟨.inr (.record transition), answer⟩ : ExecutorEvent Transition)
      .withdrawn := by
  refine ⟨keeps_of_unsent unsent _, ?_, ?_, .inr (.inl rfl)⟩
  · simp [kind, marks, Stage.allows]
  · simp [kind, marks]

theorem observeMark_advances {stage : Stage} (marks : IntentStore.mark transition = some step)
    {answer : Except Failure (Option (IntentStore.Row Transition))}
    (seen : observeMark stage step answer = some stage') :
    Advances stage (⟨.inr (.record transition), answer⟩ : ExecutorEvent Transition) stage' := by
  cases step with
  | signed hash =>
    cases stage with
    | signed tx =>
      obtain ⟨rfl, same⟩ := Option.ite_none_right_eq_some.1 seen
      obtain rfl := Option.some.inj same
      exact onward_advances marks answer (by simp only [kind, marks]) rfl rfl
    | _ => cases seen
  | staged hash =>
    cases stage with
    | recorded tx =>
      obtain ⟨rfl, same⟩ := Option.ite_none_right_eq_some.1 seen
      obtain rfl := Option.some.inj same
      exact onward_advances marks answer (by simp only [kind, marks]) rfl rfl
    | _ => cases seen
  | sendAttemptStarted hash =>
    cases stage with
    | staged tx =>
      obtain ⟨rfl, same⟩ := Option.ite_none_right_eq_some.1 seen
      obtain rfl := Option.some.inj same
      exact attempted_advances marks answer
    | _ => cases seen
  | unsubmitted =>
    have guarded : (if stage.unsent = true then some Stage.withdrawn else none) = some stage' := by
      rw [← seen]
      cases stage <;> rfl
    obtain ⟨unsent, same⟩ := Option.ite_none_right_eq_some.1 guarded
    obtain rfl := Option.some.inj same
    exact unsubmitted_advances marks answer unsent

theorem giveBack_advances {stage : Stage} (giveBack : kind event = .giveBack)
    (seen : (if stage = .withdrawn then some Stage.withdrawn else none) = some stage') :
    Advances stage event stage' := by
  obtain ⟨rfl, same⟩ := Option.ite_none_right_eq_some.1 seen
  obtain rfl := Option.some.inj same
  refine ⟨fun _ => id, ?_, ?_, .inl rfl⟩
  · rw [giveBack]
    rfl
  · rw [giveBack]
    exact fun send => nomatch send

theorem observe_advances {stage : Stage} (seen : observe stage event = some stage') :
    Advances stage event stage' := by
  match event, seen with
  | ⟨.inl _, _⟩, seen =>
    obtain rfl := Option.some.inj seen
    exact .idle rfl
  | ⟨.inr (.sign _), answer⟩, seen =>
    match stage, answer, seen with
    | .reserved, .ok tx, seen =>
      obtain rfl := Option.some.inj seen
      exact .forward (signs tx) rfl rfl (fun send => nomatch send)
        (beq_self_eq_true (α := SignedTx) tx) rfl
    | .reserved, .error failure, seen =>
      obtain rfl := Option.some.inj seen
      exact .idle rfl
  | ⟨.inr (.record transition), answer⟩, seen =>
    cases marks : IntentStore.mark transition with
    | none =>
      have plain : kind (⟨.inr (.record transition), answer⟩ : ExecutorEvent Transition) =
          .plain := by
        simp only [kind, marks]
      simp only [observe, marks] at seen
      obtain rfl := Option.some.inj seen
      exact .idle plain
    | some step =>
      exact observeMark_advances marks ((observe_record marks answer).symm.trans seen)
  | ⟨.inr (.sendTx txType txInfo), _⟩, seen =>
    match stage, seen with
    | .admitted tx, seen =>
      obtain ⟨same, sent⟩ := Option.ite_none_right_eq_some.1 seen
      obtain rfl := Option.some.inj sent
      refine ⟨?_, rfl, fun _ => rfl, .inl rfl⟩
      intro other
      cases other <;> first | exact id | exact fun _ => rfl
  | ⟨.inr .releaseUnsubmittedReservation, _⟩, seen => exact giveBack_advances rfl seen
  | ⟨.inr (.retireLighterOrderCapitalCommitment _), _⟩, seen => exact giveBack_advances rfl seen

/-- What an accepted run shows at each of its stages. -/
structure Shows (stage : Stage) (past : List (ExecutorEvent Transition)) : Prop where
  allowed : ∀ event ∈ past, stage.allows (kind event) = true
  sends : past.countP (kind · == .send) ≤ if stage.allows .send then 1 else 0
  done : Program.InTurn stage.done past

theorem Shows.initial : Shows .reserved ([] : List (ExecutorEvent Transition)) where
  allowed _ member := nomatch member
  sends := Nat.zero_le _
  done := .nil _

theorem Shows.next {stage : Stage} {past : List (ExecutorEvent Transition)}
    (shows : Shows stage past) (seen : observe stage event = some stage') :
    Shows stage' (past ++ [event]) := by
  have advances := observe_advances seen
  refine ⟨fun other member => ?_, ?_, ?_⟩
  · rcases List.mem_append.1 member with earlier | last
    · exact advances.keeps _ (shows.allowed other earlier)
    · obtain rfl := List.mem_singleton.1 last
      exact advances.allowed
  · rw [List.countP_append, List.countP_singleton]
    by_cases send : kind event = .send
    · have earlier := shows.sends
      have now := advances.allowed
      rw [advances.first send] at earlier
      rw [send] at now
      simp only [send, now, beq_self_eq_true, if_true] at earlier ⊢
      exact Nat.add_le_add_right earlier 1
    · have unlike : (kind event == .send) = false := by simpa using send
      rw [unlike]
      refine le_trans shows.sends ?_
      split
      · rename_i sent
        rw [advances.keeps _ sent]
        exact le_rfl
      · exact Nat.zero_le _
  · rcases advances.done with same | none | ⟨condition, met, more⟩
    · rw [same]
      exact shows.done.later event
    · rw [none]
      exact .nil _
    · rw [more]
      exact shows.done.next met

variable {events : List (ExecutorEvent Transition)}

theorem Shows.run {stage : Stage} (accepted : Program.accept observe .reserved events = some stage)
    :
    Shows stage events :=
  Program.accept_induction observe (motive := Shows)
    (fun _ _ _ _ shows seen => shows.next seen) .initial accepted

/-- **What an executor promises of every run**: one send at most; the send after the
signature, the record of the signature, that of the staging and the send attempt for
exactly the transaction that is sent; nothing withdrawn or given back on a run that sends;
and no withdrawal after the send attempt may have been stamped. -/
structure SendsAtMostOnce (events : List (ExecutorEvent Transition)) : Prop where
  once : events.countP (kind · == .send) ≤ 1
  recorded : ∀ before event after, events = before ++ event :: after → kind event = .send →
    ∃ tx : SignedTx, event.1 = .inr (.sendTx tx.txType tx.txInfo) ∧
      Program.InTurn (beforeSend tx) before
  keeps : (∃ event ∈ events, kind event = .send) →
    ∀ event ∈ events, kind event ≠ .giveBack ∧ kind event ≠ .unsubmit
  stands : ∀ before event after, events = before ++ event :: after → kind event = .stamp →
    ∀ later ∈ after, kind later ≠ .unsubmit

theorem sendTx_of_kind (send : kind event = .send) :
    ∃ txType txInfo, event.1 = .inr (.sendTx txType txInfo) := by
  obtain ⟨call, answer⟩ := event
  cases call with
  | inl call => cases send
  | inr call =>
    cases call with
    | sendTx txType txInfo => exact ⟨txType, txInfo, rfl⟩
    | record transition =>
      exfalso
      revert send
      simp only [kind]
      split <;> simp
    | sign expiredAt => cases send
    | releaseUnsubmittedReservation => cases send
    | retireLighterOrderCapitalCommitment reason => cases send

theorem Shows.exclusive {stage : Stage} (shows : Shows stage events) {one other : Kind}
    (apart : ∀ stage : Stage, stage.allows one = true → stage.allows other = false)
    {first second : ExecutorEvent Transition} (memberOne : first ∈ events)
    (memberOther : second ∈ events) (kindOne : kind first = one) : kind second ≠ other := by
  intro kindOther
  have allowed := shows.allowed second memberOther
  rw [kindOther, apart stage (kindOne ▸ shows.allowed first memberOne)] at allowed
  cases allowed

theorem sendsAtMostOnce_of_accept {stage : Stage}
    (accepted : Program.accept observe .reserved events = some stage) : SendsAtMostOnce events := by
  have shows := Shows.run accepted
  refine ⟨?_, ?_, ?_, ?_⟩
  · refine le_trans shows.sends ?_
    split <;> decide
  · rintro before event after rfl send
    obtain ⟨between, first, second⟩ := (Program.accept_append observe).1 accepted
    obtain ⟨next, seen, -⟩ := Option.bind_eq_some_iff.1 second
    obtain ⟨txType, txInfo, same⟩ := sendTx_of_kind send
    obtain ⟨call, answer⟩ := event
    cases same
    match between, first, seen with
    | .admitted tx, first, seen =>
      obtain ⟨⟨rfl, rfl⟩, -⟩ := Option.ite_none_right_eq_some.1 seen
      exact ⟨tx, rfl, (Shows.run first).done⟩
  · rintro ⟨send, sent, kindSend⟩ event member
    constructor
    · refine shows.exclusive (fun stage allowed => ?_) sent member kindSend
      cases stage <;> first | rfl | cases allowed
    · refine shows.exclusive (fun stage allowed => ?_) sent member kindSend
      cases stage <;> first | rfl | cases allowed
  · rintro before event after rfl stamp later member
    refine shows.exclusive (fun stage allowed => ?_) (by simp) (by simp [member]) stamp
    cases stage <;> first | rfl | cases allowed

/-- An executor that keeps the promise on every front of every run. -/
def AtMostOnce {α : Type} (executor : Executor Transition α) : Prop :=
  ∀ events, Program.Emits executor .initial events → SendsAtMostOnce events

theorem atMostOnce_of_wp {α : Type} {executor : Executor Transition α}
    (holds : executor.wp observe (fun _ _ _ => True) .initial .reserved) :
    AtMostOnce executor := by
  intro events emits
  obtain ⟨stage, accepted⟩ := Program.accepted_of_wp observe holds emits
  exact sendsAtMostOnce_of_accept accepted

end Executions

/-! ## The executors meet the monitor -/

namespace OrderCreateExecution

open Executions

variable (plan : Plan)

theorem withdrawal_unsubmits : (withdrawal plan).Unsubmits := by
  intro signerTxHash error
  cases signerTxHash <;> rfl

theorem signAndSend_wp (prepared : Prepared) :
    (signAndSend plan prepared).wp observe BlockPost .initial .reserved := by
  refine aside_unsent rfl fun _ => aside_unsent rfl fun _ => aside_unsent rfl fun _ => ?_
  refine Program.wp_bind.2 (Program.wp_assign.2 ?_)
  refine aside_unsent rfl fun _ => ?_
  refine Program.wp_bind.2 fun answer => ?_
  match answer with
  | .error failure => exact ⟨.reserved, rfl, fun _ => rfl⟩
  | .ok tx =>
    refine ⟨.signed tx, rfl, ?_⟩
    refine Program.wp_bind.2 (Program.wp_assign.2 ?_)
    refine persistLighterSigningEvidence_wp rfl (fun row => ?_) ?_
    · refine aside_unsent rfl fun _ => aside_unsent rfl fun _ => ?_
      refine stage_wp rfl (fun row => ?_) ?_
      · refine admitSendAttempt_wp rfl fun progress started => ?_
        refine aside_started started fun _ => aside_started started fun _ => ?_
        refine sendTx_wp fun response => ?_
        cases response with
        | error failure => exact aside_last started
        | ok response => exact aside_last started
      · exact aside_unsent rfl fun _ _ => rfl
    · exact aside_unsent rfl fun _ _ => rfl

theorem execute_wp (supplied : Bool) :
    (executeApprovedLighterCreateOrder plan supplied).wp observe (fun _ _ _ => True) .initial
      .reserved :=
  aside_bind (fun _ => trivial) fun prepared =>
    withdrawing_wp (withdrawal_unsubmits plan) (signAndSend_wp plan prepared)

end OrderCreateExecution

namespace OrderLifecycleExecution

open Executions

variable (intent : Intent)

theorem withdrawal_unsubmits (retires : Bool) : (withdrawal intent retires).Unsubmits := by
  intro signerTxHash error
  cases signerTxHash <;> rfl

theorem signAndSend_wp (expires : Bool) (conclude : Step Result) :
    (signAndSend intent expires conclude).wp observe BlockPost .initial .reserved := by
  refine aside_unsent rfl fun _ => aside_unsent rfl fun _ => ?_
  refine Program.wp_bind.2 (Program.wp_assign.2 ?_)
  refine aside_unsent rfl fun expiry => aside_unsent rfl fun _ => ?_
  refine Program.wp_bind.2 fun answer => ?_
  match answer with
  | .error failure => exact ⟨.reserved, rfl, fun _ => rfl⟩
  | .ok tx =>
    refine ⟨.signed tx, rfl, ?_⟩
    refine Program.wp_bind.2 (Program.wp_assign.2 ?_)
    refine persistLighterSigningEvidence_wp rfl (fun row => ?_) ?_
    · refine aside_unsent rfl fun _ => ?_
      refine stage_wp rfl (fun row => ?_) ?_
      · refine admitSendAttempt_wp rfl fun progress started => ?_
        refine aside_started started fun _ => aside_started started fun _ => ?_
        refine sendTx_wp fun response => ?_
        cases response with
        | error failure => trivial
        | ok response => exact aside_last started
      · exact fun _ => rfl
    · trivial

theorem execute_wp {α : Type} (prepare : Step α) (expires retires : Bool) (conclude : Step Result) :
    (execute intent prepare expires retires conclude).wp observe (fun _ _ _ => True) .initial
      .reserved :=
  aside_bind (fun _ => trivial) fun _ =>
    withdrawing_wp (withdrawal_unsubmits intent retires) (signAndSend_wp intent expires conclude)

theorem execute_atMostOnce {α : Type} (prepare : Step α) (expires retires : Bool)
    (conclude : Step Result) : AtMostOnce (execute intent prepare expires retires conclude) :=
  atMostOnce_of_wp (execute_wp intent prepare expires retires conclude)

end OrderLifecycleExecution

/-! ## The five executors -/

open Executions OrderCreateExecution OrderLifecycleExecution

/-- **At-most-once submission**, whatever every call answers, for the executor of create
orders and the four of the order lifecycle. -/
theorem executors_send_at_most_once (plan : Plan) (supplied : Bool) (intent : Intent) :
    AtMostOnce (executeApprovedLighterCreateOrder plan supplied) ∧
    AtMostOnce (executeApprovedLighterCancelOne intent) ∧
    AtMostOnce (executeApprovedLighterModifyOrder intent) ∧
    AtMostOnce (executeApprovedLighterCancelAll intent) ∧
    AtMostOnce (executeApprovedLighterClosePosition intent) :=
  ⟨atMostOnce_of_wp (OrderCreateExecution.execute_wp plan supplied),
    execute_atMostOnce intent (prepareCancelOne intent) true false (reconcileCancelOne intent),
    execute_atMostOnce intent (prepareModify intent) true true (reconcileModify intent),
    execute_atMostOnce intent (prepareCancelAll intent) true false (reconcileCancelAll intent),
    execute_atMostOnce intent (prepareClosePosition intent) false false
      (reconcileClosePosition intent)⟩

end Vex.Lighter
