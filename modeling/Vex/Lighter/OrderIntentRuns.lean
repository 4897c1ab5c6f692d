import Vex.Library.Runs
import Vex.Lighter.OrderIntents

/-!
# Runs of an order execution intent

A row starts as the insert wrote it and is then moved by any list of the
repository's statements, with any arguments and clock readings. `update_moves`
says once what a statement that took effect can have done to the columns that
matter here; everything about runs is read off from it:

* `run_terminal` — `filled`, `canceled`, `rejected` and `expired_unsubmitted`
  are never left;
* `run_stamp` — the send attempt is stamped at most once;
* `Tracked.run` — a row that is unsubmitted carries no stamp;
* `intent_never_resurrected` — **the crown**: all of it for every run, together
  with what an order that has begun to fill can still become.
-/

namespace Vex.Lighter.OrderIntents

open Vex.Library

/-! ## Steps -/

abbrev Op := StatementTime × Transition

/-- A statement that throws or matches no row leaves the row as it is. -/
def applied (row : Row) (op : Op) : Option Row := (op.2.update op.1 row).toOption.join

def step : Row → Op → Row := orStay applied

def terminalStates : List ExecutionState := [.filled, .canceled, .rejected, .expiredUnsubmitted]

def preFillStates : List ExecutionState :=
  [.previewed, .approvalPending, .signed, .submitted, .apiAccepted, .sequencerPending, .open_]

/-- The states in which a fill is recorded, or was when the order ended. -/
def fillKeepingStates : List ExecutionState := [.partiallyFilled, .filled, .canceled, .rejected]

/-- A column that is written once: it keeps its value, or had none. -/
def WrittenOnce {α : Type} (before after : Option α) : Prop := after = before ∨ before = none

theorem WrittenOnce.keeps {α : Type} {before after : Option α} {value : α}
    (once : WrittenOnce before after) (written : before = some value) : after = some value := by
  rcases once with same | unwritten
  · rw [same, written]
  · rw [unwritten] at written
    cases written

/-- What a statement that took effect has done to a row. -/
structure Moves (row : Row) (op : Op) (row' : Row) : Prop where
  identity : row'.intentId = row.intentId ∧ row'.sessionId = row.sessionId ∧
    row'.environment = row.environment ∧ row'.accountIndex = row.accountIndex ∧
    row'.apiKeyIndex = row.apiKeyIndex ∧ row'.expiresAt = row.expiresAt
  reservation : WrittenOnce row.nonceReservationId row'.nonceReservationId
  nonce : WrittenOnce row.nonceValue row'.nonceValue
  clientOrder : WrittenOnce row.clientOrderIndex row'.clientOrderIndex
  hash : row'.signerTxHash = row.signerTxHash ∨
    row.signerTxHash = none ∧ row.executionState = .approvalPending
  terminal : row.executionState ∉ terminalStates ∨ row'.executionState = row.executionState
  stamp : row'.sendAttemptStartedAt = row.sendAttemptStartedAt ∨
    ∃ input, op.2 = .sendAttemptStarted input ∧ row.sendAttemptStartedAt = none ∧
      row.signerTxHash = some input.signerTxHash ∧ row.executionState = .submitted ∧
      row'.executionState = .submitted
  expired : row'.executionState = .expiredUnsubmitted →
    row.executionState = .expiredUnsubmitted ∨ row.sendAttemptStartedAt = none
  fill : row.executionState = .partiallyFilled → row'.executionState ∈ fillKeepingStates ∨
    ∃ input, op.2 = .evidenceConflict input ∧ row'.executionState = .ambiguous

variable {state : ExecutionState}

theorem progressesTo_keeps {outcome : ProviderOutcomeState}
    (progresses : state.progressesTo outcome) :
    state ∉ terminalStates ∧
      (state = .partiallyFilled → outcome.executionState ∈ fillKeepingStates) := by
  revert progresses
  cases state <;> cases outcome <;> decide

theorem watchable_not_terminal (watchable : state ∈ streamWatchableStates) :
    state ∉ terminalStates := by
  revert watchable
  cases state <;> decide

theorem inFlight_subset_watchable :
    [.signed, .submitted, .apiAccepted, .sequencerPending] ⊆ streamWatchableStates := by
  simp [streamWatchableStates, unresolvedStates]

theorem accepted_subset_unresolved :
    [.apiAccepted, .sequencerPending, .ambiguous] ⊆ unresolvedStates := by
  simp [unresolvedStates]

theorem outcome_ne_expired (outcome : ProviderOutcomeState) :
    outcome.executionState ≠ .expiredUnsubmitted := by
  cases outcome <;> decide

variable {row row' : Row} {op : Op}

theorem Moves.outcome (outcome : ProviderOutcomeState)
    (admitted : row.executionState ∈ unresolvedStates ∨ row.executionState.progressesTo outcome)
    (identity : row'.intentId = row.intentId ∧ row'.sessionId = row.sessionId ∧
      row'.environment = row.environment ∧ row'.accountIndex = row.accountIndex ∧
      row'.apiKeyIndex = row.apiKeyIndex ∧ row'.expiresAt = row.expiresAt)
    (columns : row'.nonceReservationId = row.nonceReservationId ∧
      row'.nonceValue = row.nonceValue ∧ row'.clientOrderIndex = row.clientOrderIndex ∧
      row'.signerTxHash = row.signerTxHash ∧
      row'.sendAttemptStartedAt = row.sendAttemptStartedAt)
    (state : row'.executionState = outcome.executionState) : Moves row op row' := by
  obtain ⟨reservation, nonce, clientOrder, hash, stamp⟩ := columns
  refine ⟨identity, .inl reservation, .inl nonce, .inl clientOrder, .inl hash, ?_, .inl stamp,
    ?_, ?_⟩
  · rcases admitted with unresolved | progresses
    · exact .inl (watchable_not_terminal (List.mem_append_left _ unresolved))
    · exact .inl (progressesTo_keeps progresses).1
  · intro expired
    exact absurd (state.symm.trans expired) (outcome_ne_expired outcome)
  · intro partly
    rcases admitted with unresolved | progresses
    · rw [partly] at unresolved
      exact absurd unresolved (by decide)
    · rw [state]
      exact .inl ((progressesTo_keeps progresses).2 partly)

theorem update_moves (took : op.2.update op.1 row = .ok (some row')) : Moves row op row' := by
  obtain ⟨time, transition⟩ := op
  cases transition with
  | approvalDecision input =>
    obtain ⟨-, rfl⟩ := updateWhere_eq_some.mp took
    exact ⟨by simp, .inl rfl, .inl rfl, .inl rfl, .inl rfl, .inr rfl, .inl rfl, .inl,
      fun partly => .inl (by simp [partly, fillKeepingStates])⟩
  | preSubmitRevalidated input =>
    obtain ⟨_, -, took⟩ := bind_eq_ok.mp took
    obtain ⟨-, rfl⟩ := updateWhere_eq_some.mp took
    exact ⟨by simp, .inl rfl, .inl rfl, .inl rfl, .inl rfl, .inr rfl, .inl rfl, .inl,
      fun partly => .inl (by simp [partly, fillKeepingStates])⟩
  | attachNonceReservation input =>
    simp only [Transition.update, OrderIntents.attachNonceReservation] at took
    split at took
    · cases took
    obtain ⟨_, -, took⟩ := bind_eq_ok.mp took
    obtain ⟨⟨-, -, -, -, -, -, -, reservation, nonce⟩, rfl⟩ := updateWhere_eq_some.mp took
    exact ⟨by simp, .inr reservation, .inr nonce, .inl rfl, .inl rfl, .inr rfl, .inl rfl,
      .inl, fun partly => .inl (by simp [partly, fillKeepingStates])⟩
  | signed input =>
    simp only [Transition.update, markSigned, bind_eq_ok, updateWhere_eq_some] at took
    obtain ⟨_, -, _, -, _, -, _, -, ⟨-, -, -, -, pending, -, -, order, hash⟩, rfl⟩ := took
    refine ⟨by simp, .inl rfl, .inl rfl, .inr order, .inr ⟨hash, pending⟩, ?_, .inl rfl, ?_, ?_⟩
    · simp [pending, terminalStates]
    · simp
    · simp [pending]
  | submitted input =>
    simp only [Transition.update, markSubmitted, bind_eq_ok, updateWhere_eq_some] at took
    obtain ⟨_, -, ⟨-, -, -, -, signed, -⟩, rfl⟩ := took
    refine ⟨by simp, .inl rfl, .inl rfl, .inl rfl, .inl rfl, ?_, .inl rfl, ?_, ?_⟩
    · simp [signed, terminalStates]
    · simp
    · simp [signed]
  | apiAccepted input =>
    simp only [Transition.update, markApiAccepted, bind_eq_ok, updateWhere_eq_some] at took
    obtain ⟨_, -, _, -, _, -, _, -, _, -, ⟨-, -, -, -, submitted, -⟩, rfl⟩ := took
    refine ⟨by simp, .inl rfl, .inl rfl, .inl rfl, .inl rfl, ?_, .inl rfl, ?_, ?_⟩
    · simp [submitted, terminalStates]
    · simp
    · simp [submitted]
  | sequencerPending input =>
    simp only [Transition.update, markSequencerPending, bind_eq_ok, updateWhere_eq_some] at took
    obtain ⟨_, -, _, -, ⟨-, -, -, -, accepted, -⟩, rfl⟩ := took
    refine ⟨by simp, .inl rfl, .inl rfl, .inl rfl, .inl rfl, ?_, .inl rfl, ?_, ?_⟩
    · simp [accepted, terminalStates]
    · simp
    · simp [accepted]
  | providerOutcome input =>
    simp only [Transition.update, markProviderOutcome, bind_eq_ok, updateWhere_eq_some] at took
    obtain ⟨_, -, _, -, _, -, ⟨-, -, -, -, admitted, -⟩, rfl⟩ := took
    refine Moves.outcome input.state ?_ (by simp) (by simp) rfl
    exact admitted.imp_left fun accepted => accepted_subset_unresolved accepted
  | streamOutcome input =>
    simp only [Transition.update, markStreamOutcome, bind_eq_ok, updateWhere_eq_some] at took
    obtain ⟨_, -, _, -, _, -, ⟨-, -, -, -, admitted⟩, rfl⟩ := took
    exact Moves.outcome input.state admitted (by simp) (by simp) rfl
  | evidenceConflict input =>
    simp only [Transition.update, markEvidenceConflict, bind_eq_ok, updateWhere_eq_some] at took
    obtain ⟨_, -, ⟨-, -, -, -, watchable⟩, rfl⟩ := took
    refine ⟨by simp, .inl rfl, .inl rfl, .inl rfl, .inl rfl, ?_, .inl rfl, ?_, ?_⟩
    · exact .inl (watchable_not_terminal watchable)
    · simp
    · exact fun _ => .inr ⟨input, rfl, rfl⟩
  | ambiguous input =>
    simp only [Transition.update, markAmbiguous, bind_eq_ok, updateWhere_eq_some] at took
    obtain ⟨_, -, ⟨-, -, -, -, unresolved, -⟩, rfl⟩ := took
    refine ⟨by simp, .inl rfl, .inl rfl, .inl rfl, .inl rfl, ?_, .inl rfl, ?_, ?_⟩
    · rcases unresolved with unresolved | ⟨pending, -⟩
      · exact .inl (watchable_not_terminal (inFlight_subset_watchable unresolved))
      · simp [pending, terminalStates]
    · simp
    · intro partly
      simp [partly] at unresolved
  | repairResolved input =>
    obtain ⟨⟨-, -, -, admitted⟩, rfl⟩ := updateWhere_eq_some.mp took
    exact Moves.outcome input.state admitted (by simp) (by simp) rfl
  | sendAttemptStarted input =>
    obtain ⟨⟨-, -, -, submitted, hash, unstamped, -⟩, rfl⟩ := updateWhere_eq_some.mp took
    refine ⟨by simp, .inl rfl, .inl rfl, .inl rfl, .inl rfl, .inr rfl, ?_, .inl, ?_⟩
    · exact .inr ⟨input, rfl, unstamped, hash, submitted, submitted⟩
    · simp [submitted]
  | expiredUnsubmitted input =>
    obtain ⟨⟨-, -, -, -, -, signed, unstamped⟩, rfl⟩ := updateWhere_eq_some.mp took
    refine ⟨by simp, .inl rfl, .inl rfl, .inl rfl, .inl rfl, ?_, .inl rfl,
      fun _ => .inr unstamped, ?_⟩
    · rcases signed with signed | signed <;> simp [signed, terminalStates]
    · rcases signed with signed | signed <;> simp [signed]
  | unsubmittedRefused input =>
    obtain ⟨⟨-, -, -, -, -, pending, -⟩, rfl⟩ := updateWhere_eq_some.mp took
    refine ⟨by simp, .inl rfl, .inl rfl, .inl rfl, .inl rfl, ?_, .inl rfl, ?_, ?_⟩
    · simp [pending, terminalStates]
    · simp
    · simp [pending]

theorem step_took (row : Row) (op : Op) :
    step row op = row ∨ op.2.update op.1 row = .ok (some (step row op)) := by
  rcases orStay_cases applied row op with same | took
  · exact .inl same
  · exact .inr (join_toOption_eq_some.1 took)

theorem step_cases (row : Row) (op : Op) : step row op = row ∨ Moves row op (step row op) :=
  (step_took row op).imp_right update_moves

/-! ## Runs -/

theorem run_terminal (terminal : row.executionState ∈ terminalStates) (ops : List Op) :
    (run step row ops).executionState = row.executionState := by
  refine run_induction (motive := fun later : Row => later.executionState = row.executionState)
    ?_ rfl ops
  intro later op same
  rcases step_cases later op with unmoved | moves
  · rw [unmoved, same]
  · rcases moves.terminal with running | kept
    · exact absurd terminal (same ▸ running)
    · rw [kept, same]

theorem run_writtenOnce {α : Type} (column : Row → Option α)
    (once : ∀ row op row', Moves row op row' → WrittenOnce (column row) (column row')) {value : α}
    (written : column row = some value) (ops : List Op) :
    column (run step row ops) = some value := by
  refine run_induction (motive := fun later : Row => column later = some value) ?_ written ops
  intro later op kept
  rcases step_cases later op with unmoved | moves
  · rw [unmoved, kept]
  · exact (once later op _ moves).keeps kept

theorem Moves.hashOnce (moves : Moves row op row') :
    WrittenOnce row.signerTxHash row'.signerTxHash :=
  moves.hash.imp_right And.left

theorem Moves.stampOnce (moves : Moves row op row') :
    WrittenOnce row.sendAttemptStartedAt row'.sendAttemptStartedAt := by
  rcases moves.stamp with same | ⟨_, -, unstamped, -⟩
  · exact .inl same
  · exact .inr unstamped

theorem run_stamp {at_ : Instant} (stamped : row.sendAttemptStartedAt = some at_) (ops : List Op) :
    (run step row ops).sendAttemptStartedAt = some at_ :=
  run_writtenOnce Row.sendAttemptStartedAt (fun _ _ _ => Moves.stampOnce) stamped ops

theorem step_stamps (changed : (step row op).sendAttemptStartedAt ≠ row.sendAttemptStartedAt) :
    ∃ input, op.2 = .sendAttemptStarted input ∧ row.sendAttemptStartedAt = none ∧
      row.signerTxHash = some input.signerTxHash := by
  rcases step_cases row op with unmoved | moves
  · exact absurd (congrArg Row.sendAttemptStartedAt unmoved) changed
  · rcases moves.stamp with same | ⟨input, attempt, unstamped, hash, -⟩
    · exact absurd same changed
    · exact ⟨input, attempt, unstamped, hash⟩

/-! ## Unsubmitted rows -/

/-- A row that was rejected before anything was signed for it. -/
def UnsubmittedRefused (row : Row) : Prop :=
  row.executionState = .rejected ∧ row.signerTxHash = none

/-- What every row of a run satisfies: a stamp has a signed transaction, and an
expiry before submission has no stamp. -/
structure Tracked (row : Row) : Prop where
  stampSigned : row.sendAttemptStartedAt ≠ none → row.signerTxHash ≠ none
  expiredUnstamped : row.executionState = .expiredUnsubmitted → row.sendAttemptStartedAt = none

variable {time : StatementTime}

theorem Tracked.created {input : CreateInput}
    (inserted : createApprovalPending time input = .ok row) : Tracked row := by
  simp only [createApprovalPending, bind_eq_ok] at inserted
  obtain ⟨_, -, equal⟩ := inserted
  cases equal
  exact ⟨fun stamped => absurd rfl stamped, fun _ => rfl⟩

theorem step_tracked (op : Op) (tracked : Tracked row) : Tracked (step row op) := by
  rcases step_cases row op with unmoved | moves
  · rwa [unmoved]
  · refine ⟨fun stamped unsigned => ?_, fun expired => ?_⟩
    · rcases moves.stamp with same | ⟨_, -, -, hash, -⟩
      · obtain ⟨hash, signed⟩ := Option.ne_none_iff_exists'.mp
          (tracked.stampSigned (same ▸ stamped))
        rw [moves.hashOnce.keeps signed] at unsigned
        cases unsigned
      · rw [moves.hashOnce.keeps hash] at unsigned
        cases unsigned
    · rcases moves.stamp with same | ⟨_, -, -, -, -, submitted⟩
      · rw [same]
        exact (moves.expired expired).elim tracked.expiredUnstamped id
      · rw [submitted] at expired
        cases expired

theorem run_tracked (tracked : Tracked row) (ops : List Op) : Tracked (run step row ops) :=
  run_induction (fun _ op => step_tracked op) tracked ops

theorem Tracked.refusedUnstamped (tracked : Tracked row) (refused : UnsubmittedRefused row) :
    row.sendAttemptStartedAt = none := by
  by_contra stamped
  exact tracked.stampSigned stamped refused.2

theorem run_refused (refused : UnsubmittedRefused row) (ops : List Op) :
    UnsubmittedRefused (run step row ops) := by
  refine run_induction (motive := UnsubmittedRefused) ?_ refused ops
  intro later op held
  rcases step_cases later op with unmoved | moves
  · rwa [unmoved]
  · refine ⟨?_, ?_⟩
    · rcases moves.terminal with running | kept
      · simp [held.1, terminalStates] at running
      · rw [kept, held.1]
    · rcases moves.hash with same | ⟨-, pending⟩
      · rw [same, held.2]
      · rw [held.1] at pending
        cases pending

theorem markUnsubmittedRefused_refused {input : UnsubmittedRefusedInput}
    (took : markUnsubmittedRefused time input row = .ok (some row')) : UnsubmittedRefused row' := by
  obtain ⟨⟨-, -, -, -, unsigned, -⟩, rfl⟩ := updateWhere_eq_some.mp took
  exact ⟨rfl, unsigned⟩

/-! ## Orders that have begun to fill -/

/-- An evidence conflict takes effect on a partially filled row. -/
def ConflictsWhileFilling (row : Row) (op : Op) : Prop :=
  row.executionState = .partiallyFilled ∧ ∃ input row', op.2 = .evidenceConflict input ∧
    markEvidenceConflict op.1 input row = .ok (some row')

def FillRecorded (row : Row) : Prop :=
  row.executionState = .partiallyFilled ∨ row.executionState = .filled

theorem FillRecorded.keeping (filled : FillRecorded row) :
    row.executionState ∈ fillKeepingStates := by
  rcases filled with partly | filled
  · simp [partly, fillKeepingStates]
  · simp [filled, fillKeepingStates]

theorem step_keepsFill (calm : ¬ ConflictsWhileFilling row op)
    (filling : row.executionState ∈ fillKeepingStates) :
    (step row op).executionState ∈ fillKeepingStates := by
  rcases step_took row op with unmoved | took
  · rwa [unmoved]
  have moves := update_moves took
  by_cases partly : row.executionState = .partiallyFilled
  · rcases moves.fill partly with kept | ⟨input, conflict, -⟩
    · exact kept
    · rw [conflict] at took
      exact absurd ⟨partly, input, _, conflict, took⟩ calm
  · rcases moves.terminal with running | kept
    · exfalso
      revert filling running partly
      cases row.executionState <;> decide
    · rwa [kept]

theorem run_keepsFill {ops : List Op}
    (calm : Along step (fun row op => ¬ ConflictsWhileFilling row op) row ops)
    (filling : row.executionState ∈ fillKeepingStates) :
    (run step row ops).executionState ∈ fillKeepingStates :=
  calm.induction (motive := fun later : Row => later.executionState ∈ fillKeepingStates)
    (fun _ _ => step_keepsFill) filling

/-! ## The state machine as a whole -/

/-- **An intent is never resurrected or misfiled.** In every run of a row from
its insert: terminal states are absorbing; a row that expired or was refused
before submission has no stamp and never gets one; the stamp is written at most
once, for the recorded transaction hash; the signed hash, the nonce and the
client order never change once set; and an order with a recorded fill goes back
to a state before a fill only through an evidence conflict that took effect on
it while it was partially filled. -/
theorem intent_never_resurrected {time : StatementTime} {input : CreateInput} {created : Row}
    (inserted : createApprovalPending time input = .ok created) (before after : List Op) :
    let row := run step created before
    let later := run step row after
    (row.executionState ∈ terminalStates → later.executionState = row.executionState) ∧
    (row.executionState = .expiredUnsubmitted ∨ UnsubmittedRefused row →
      row.sendAttemptStartedAt = none ∧ later.sendAttemptStartedAt = none) ∧
    (∀ time input refused, markUnsubmittedRefused time input row = .ok (some refused) →
      UnsubmittedRefused refused) ∧
    (∀ at_, row.sendAttemptStartedAt = some at_ → later.sendAttemptStartedAt = some at_) ∧
    (∀ op, (step row op).sendAttemptStartedAt ≠ row.sendAttemptStartedAt →
      ∃ input, op.2 = .sendAttemptStarted input ∧ row.sendAttemptStartedAt = none ∧
        row.signerTxHash = some input.signerTxHash) ∧
    (∀ hash, row.signerTxHash = some hash → later.signerTxHash = some hash) ∧
    (∀ nonce, row.nonceValue = some nonce → later.nonceValue = some nonce) ∧
    (∀ order, row.clientOrderIndex = some order → later.clientOrderIndex = some order) ∧
    (FillRecorded row →
      Along step (fun row op => ¬ ConflictsWhileFilling row op) row after →
      later.executionState ∉ preFillStates) := by
  intro row later
  have tracked : Tracked row := run_tracked (Tracked.created inserted) before
  refine ⟨fun terminal => run_terminal terminal after, ?_,
    fun _ _ _ took => markUnsubmittedRefused_refused took, fun _ stamped => run_stamp stamped after, fun _ changed => step_stamps changed,
    fun _ => (run_writtenOnce Row.signerTxHash (fun _ _ _ => Moves.hashOnce) · after),
    fun _ => (run_writtenOnce Row.nonceValue (fun _ _ _ => Moves.nonce) · after),
    fun _ => (run_writtenOnce Row.clientOrderIndex
      (fun _ _ _ => Moves.clientOrder) · after), ?_⟩
  · rintro (expired | refused)
    · have later_expired : later.executionState = .expiredUnsubmitted :=
        (run_terminal (by simp [expired, terminalStates]) after).trans expired
      exact ⟨tracked.expiredUnstamped expired,
        (run_tracked tracked after).expiredUnstamped later_expired⟩
    · exact ⟨tracked.refusedUnstamped refused,
        (run_tracked tracked after).refusedUnstamped (run_refused refused after)⟩
  · intro filling calm
    have kept := run_keepsFill calm filling.keeping
    intro unfilled
    revert kept unfilled
    cases (run step row after).executionState <;> decide

/-! ## A fill that is taken back

The exception is real. A partial fill arrives over the stream, an order with the
same client index but different terms puts the row in conflict, and the next
outcome that is read records the order as open. -/

def beginsToFill : List Op :=
  List.map (Prod.mk ⟨0, 0⟩) [ .approvalDecision ⟨"i", .approved, none, none⟩,
    .attachNonceReservation ⟨"i", "s", .core, 7, 4, "r", "12"⟩,
    .signed ⟨"i", "s", .core, "r", "12", "99", "h"⟩,
    .submitted ⟨"i", "s", .core, "h"⟩,
    .sendAttemptStarted ⟨"i", "s", "h"⟩,
    .apiAccepted ⟨"i", "s", .core, "h", "h", 200, none, 0, none⟩,
    .streamOutcome ⟨"i", .core, .partiallyFilled, .activeOrder, "5", "open", "\x7b\x7d"⟩]

def readAsOpen : Op :=
  (⟨0, 0⟩, .providerOutcome ⟨"i", "s", .core, .open_, .activeOrder, none, none, "\x7b\x7d"⟩)

/-- A conflict, after which the order is read as open. -/
def takesBack : List Op := [(⟨0, 0⟩, .evidenceConflict ⟨"i", .core, "conflict"⟩), readAsOpen]

instance (row : Row) : Decidable (FillRecorded row) :=
  inferInstanceAs (Decidable (_ ∨ _))

/-- A recorded fill does not rule out a later state before any fill. -/
theorem fill_can_be_taken_back :
    ¬ ∀ (time : StatementTime) (input : CreateInput) (created : Row) (before after : List Op),
      createApprovalPending time input = .ok created →
      FillRecorded (run step created before) →
      (run step (run step created before) after).executionState ∉ preFillStates := by
  intro kept
  have unfilled := kept ⟨0, 0⟩ intentInput intentRow beginsToFill takesBack rfl (by decide)
  revert unfilled
  decide

/-- Read as open without a conflict, the same order keeps its stamp and its fill. -/
theorem intent_reads_open :
    (run step (run step intentRow beginsToFill) [readAsOpen]).sendAttemptStartedAt = some 0 ∧
    (run step (run step intentRow beginsToFill) [readAsOpen]).executionState ∉
      preFillStates := by
  have inserted : createApprovalPending ⟨0, 0⟩ intentInput = .ok intentRow := rfl
  obtain ⟨-, -, -, stamp, -, -, -, -, fill⟩ :=
    intent_never_resurrected inserted beginsToFill [readAsOpen]
  refine ⟨stamp 0 (by decide), fill (by decide) ⟨?_, trivial⟩⟩
  rintro ⟨-, input, row', conflict, -⟩
  cases conflict

end Vex.Lighter.OrderIntents
