import Vex.Library.Runs
import Vex.Lighter.LifecycleIntents

/-!
# Runs of an order lifecycle intent

The statements of the lifecycle store on one row, in any order and with any
arguments and clock readings. As for a create intent, `update_moves` says once what
a statement that took effect can have done, and the facts about runs are read off
from it: `completed`, `rejected`, `expired` and `expired_unsubmitted` are never left
(`run_terminal`).
-/

namespace Vex.Lighter.LifecycleIntents

open Vex.Library

/-! ## Steps -/

inductive Transition where
  | expireStalePreSubmit (input : ExpireStaleInput)
  | closePositionChanged (intentId sessionId : JsString)
  | approvalDecision (input : ApprovalDecisionInput)
  | preSubmitRevalidated (input : PreSubmitRevalidatedInput)
  | attachNonceReservation (input : AttachNonceReservationInput)
  | signed (input : SignedInput)
  | submissionStaged (input : SubmissionInput)
  | apiAccepted (input : ApiAcceptedInput)
  | providerOutcome (input : ProviderOutcomeInput)
  | ambiguous (input : AmbiguousInput)
  | streamEvidence (input : StreamEvidenceInput)
  | sendAttemptStarted (input : SubmissionInput)
  | expiredUnsubmitted (input : ExpiredUnsubmittedInput)
  | unsubmittedRefused (input : UnsubmittedRefusedInput)

def Transition.update (time : StatementTime) (row : Row) : Transition → Except String (Option Row)
  | .expireStalePreSubmit input => expireStalePreSubmitWith time input row
  | .closePositionChanged intentId sessionId =>
    markClosePositionChangedBeforeSubmissionWith time intentId sessionId row
  | .approvalDecision input => markApprovalDecision time input row
  | .preSubmitRevalidated input => markPreSubmitRevalidated time input row
  | .attachNonceReservation input => LifecycleIntents.attachNonceReservation time input row
  | .signed input => markSigned time input row
  | .submissionStaged input => markSubmissionStaged time input row
  | .apiAccepted input => markApiAccepted time input row
  | .providerOutcome input => markProviderOutcome time input row
  | .ambiguous input => markAmbiguous time input row
  | .streamEvidence input => markStreamEvidence time input row
  | .sendAttemptStarted input => markSendAttemptStarted time input row
  | .expiredUnsubmitted input => markExpiredUnsubmitted time input row
  | .unsubmittedRefused input => markUnsubmittedRefused time input row

abbrev Op := StatementTime × Transition

/-- A statement that throws or matches no row leaves the row as it is. -/
def applied (row : Row) (op : Op) : Option Row := (op.2.update op.1 row).toOption.join

def step : Row → Op → Row := orStay applied

def terminalStates : List ExecutionState :=
  [.completed, .rejected, .expired, .expiredUnsubmitted]

/-- What a statement that took effect has done to a row. -/
structure Moves (row : Row) (op : Op) (row' : Row) : Prop where
  identity : row'.intentId = row.intentId ∧ row'.sessionId = row.sessionId ∧
    row'.environment = row.environment ∧ row'.accountIndex = row.accountIndex ∧
    row'.apiKeyIndex = row.apiKeyIndex ∧ row'.expiresAt = row.expiresAt
  hash : row'.signerTxHash = row.signerTxHash ∨
    row.signerTxHash = none ∧ row.executionState = .nonceReserved
  terminal : row.executionState ∉ terminalStates
  stamp : row'.sendAttemptStartedAt = row.sendAttemptStartedAt ∨
    ∃ input, op.2 = .sendAttemptStarted input ∧ row.sendAttemptStartedAt = none ∧
      row.signerTxHash = some input.signerTxHash ∧ row.executionState = .submissionStaged ∧
      row'.executionState = .submissionStaged
  expired : row'.executionState = .expiredUnsubmitted → row.sendAttemptStartedAt = none

theorem Moves.plain {row row' : Row} {op : Op}
    (identity : row'.intentId = row.intentId ∧ row'.sessionId = row.sessionId ∧
      row'.environment = row.environment ∧ row'.accountIndex = row.accountIndex ∧
      row'.apiKeyIndex = row.apiKeyIndex ∧ row'.expiresAt = row.expiresAt)
    (columns : row'.signerTxHash = row.signerTxHash ∧
      row'.sendAttemptStartedAt = row.sendAttemptStartedAt)
    (terminal : row.executionState ∉ terminalStates)
    (state : row'.executionState ≠ .expiredUnsubmitted) : Moves row op row' :=
  ⟨identity, .inl columns.1, terminal, .inl columns.2, fun expired => absurd expired state⟩

theorem not_terminal_of_mem {state : ExecutionState} {states : List ExecutionState}
    (member : state ∈ states) (running : ∀ other ∈ states, other ∉ terminalStates) :
    state ∉ terminalStates :=
  running state member

theorem decisionState_ne_expired (decision : Decision) :
    decisionState decision ≠ .expiredUnsubmitted := by
  cases decision <;> decide

theorem outcome_ne_expired (outcome : OutcomeState) :
    outcome.executionState ≠ .expiredUnsubmitted := by
  cases outcome <;> decide

theorem update_moves {row row' : Row} {op : Op}
    (took : op.2.update op.1 row = .ok (some row')) : Moves row op row' := by
  obtain ⟨time, transition⟩ := op
  cases transition with
  | expireStalePreSubmit input =>
    obtain ⟨⟨-, -, -, -, -, -, -, -, -, stale, -⟩, rfl⟩ := updateWhere_eq_some.mp took
    refine Moves.plain (by simp) (by simp) ?_ (by simp)
    rcases stale with ⟨-, pending, -⟩ | ⟨-, -, -, ⟨approved, -⟩ | ⟨revalidated, -⟩⟩
    · rw [pending]
      decide
    · rw [approved]
      decide
    · rw [revalidated]
      decide
  | closePositionChanged intentId sessionId =>
    obtain ⟨⟨-, -, -, -, approved, -⟩, rfl⟩ := updateWhere_eq_some.mp took
    exact Moves.plain (by simp) (by simp) (by rw [approved]; decide) (by simp)
  | approvalDecision input =>
    obtain ⟨⟨-, -, pending⟩, rfl⟩ := updateWhere_eq_some.mp took
    exact Moves.plain (by simp) (by simp) (by rw [pending]; decide)
      (decisionState_ne_expired input.decision)
  | preSubmitRevalidated input =>
    obtain ⟨⟨-, -, -, approved, -⟩, rfl⟩ := updateWhere_eq_some.mp took
    exact Moves.plain (by simp) (by simp) (by rw [approved]; decide) (by simp)
  | attachNonceReservation input =>
    obtain ⟨_, -, took⟩ := bind_eq_ok.mp took
    obtain ⟨⟨-, -, -, revalidated, -⟩, rfl⟩ := updateWhere_eq_some.mp took
    exact Moves.plain (by simp) (by simp) (by rw [revalidated]; decide) (by simp)
  | signed input =>
    obtain ⟨⟨-, -, reserved, -, unsigned⟩, rfl⟩ := updateWhere_eq_some.mp took
    exact ⟨by simp, .inr ⟨unsigned, reserved⟩, by rw [reserved]; decide, .inl rfl, by simp⟩
  | submissionStaged input =>
    obtain ⟨⟨-, -, signed, -⟩, rfl⟩ := updateWhere_eq_some.mp took
    exact Moves.plain (by simp) (by simp) (by rw [signed]; decide) (by simp)
  | apiAccepted input =>
    obtain ⟨⟨-, -, staged, -⟩, rfl⟩ := updateWhere_eq_some.mp took
    exact Moves.plain (by simp) (by simp) (by rw [staged]; decide) (by simp)
  | providerOutcome input =>
    obtain ⟨⟨-, accepted⟩, rfl⟩ := updateWhere_eq_some.mp took
    exact Moves.plain (by simp) (by simp) (not_terminal_of_mem accepted (by decide))
      (outcome_ne_expired input.state)
  | ambiguous input =>
    obtain ⟨⟨-, running⟩, rfl⟩ := updateWhere_eq_some.mp took
    exact Moves.plain (by simp) (by simp) (not_terminal_of_mem running (by decide)) (by simp)
  | streamEvidence input =>
    simp only [Transition.update, markStreamEvidence] at took
    split at took
    · cases took
    obtain ⟨⟨-, -, -, -, signed⟩, rfl⟩ := updateWhere_eq_some.mp took
    exact Moves.plain (by simp) (by simp) (not_terminal_of_mem signed (by decide))
      (outcome_ne_expired input.state)
  | sendAttemptStarted input =>
    obtain ⟨⟨-, -, -, staged, hash, unstamped, -⟩, rfl⟩ := updateWhere_eq_some.mp took
    refine ⟨by simp, .inl rfl, by rw [staged]; decide, ?_, ?_⟩
    · exact .inr ⟨input, rfl, unstamped, hash, staged, staged⟩
    · simp [staged]
  | expiredUnsubmitted input =>
    obtain ⟨⟨-, -, -, -, -, signed, unstamped⟩, rfl⟩ := updateWhere_eq_some.mp took
    refine ⟨by simp, .inl rfl, ?_, .inl rfl, fun _ => unstamped⟩
    rcases signed with signed | signed <;> rw [signed] <;> decide
  | unsubmittedRefused input =>
    obtain ⟨⟨-, -, -, -, -, reserved, -⟩, rfl⟩ := updateWhere_eq_some.mp took
    exact Moves.plain (by simp) (by simp) (by rw [reserved]; decide) (by simp)

theorem step_cases (row : Row) (op : Op) : step row op = row ∨ Moves row op (step row op) := by
  rcases orStay_cases applied row op with same | took
  · exact .inl same
  · exact .inr (update_moves (join_toOption_eq_some.1 took))

/-! ## Runs -/

theorem run_terminal {row : Row} (terminal : row.executionState ∈ terminalStates)
    (ops : List Op) : run step row ops = row := by
  refine run_induction (motive := fun later : Row => later = row) ?_ rfl ops
  rintro later op rfl
  rcases step_cases later op with unmoved | moves
  · exact unmoved
  · exact absurd terminal moves.terminal

end Vex.Lighter.LifecycleIntents
