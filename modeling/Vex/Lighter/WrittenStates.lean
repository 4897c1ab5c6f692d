import Vex.Library.Population
import Vex.Lighter.OrderIntentRuns
import Vex.Lighter.LifecycleIntentRuns

/-!
# The states the statements write

A statement of the order store or of the lifecycle store writes a state that its
arguments tell (`Transition.target`), or leaves the state of the row.
-/

namespace Vex.Lighter

open Vex.Library

namespace OrderIntents

/-- The state a statement writes, none where it leaves the state. -/
def Transition.target : Transition → Option ExecutionState
  | .approvalDecision _ => none
  | .preSubmitRevalidated _ => none
  | .attachNonceReservation _ => none
  | .signed _ => some .signed
  | .submitted _ => some .submitted
  | .apiAccepted _ => some .apiAccepted
  | .sequencerPending _ => some .sequencerPending
  | .providerOutcome input => some input.state.executionState
  | .streamOutcome input => some input.state.executionState
  | .evidenceConflict _ => some .ambiguous
  | .ambiguous _ => some .ambiguous
  | .repairResolved input => some input.state.executionState
  | .sendAttemptStarted _ => none
  | .expiredUnsubmitted _ => some .expiredUnsubmitted
  | .unsubmittedRefused _ => some .rejected

theorem update_target {row row' : Row} {op : Op} (took : op.2.update op.1 row = .ok (some row')) :
    row'.executionState = op.2.target.getD row.executionState := by
  obtain ⟨time, transition⟩ := op
  cases transition with
  | approvalDecision | repairResolved | sendAttemptStarted | expiredUnsubmitted
  | unsubmittedRefused =>
    obtain ⟨-, rfl⟩ := updateWhere_eq_some.mp took
    rfl
  | preSubmitRevalidated input =>
    obtain ⟨_, -, took⟩ := bind_eq_ok.mp took
    obtain ⟨-, rfl⟩ := updateWhere_eq_some.mp took
    rfl
  | attachNonceReservation input =>
    simp only [Transition.update, OrderIntents.attachNonceReservation] at took
    split at took
    · cases took
    obtain ⟨_, -, took⟩ := bind_eq_ok.mp took
    obtain ⟨-, rfl⟩ := updateWhere_eq_some.mp took
    rfl
  | signed input =>
    simp only [Transition.update, markSigned, bind_eq_ok, updateWhere_eq_some] at took
    obtain ⟨_, -, _, -, _, -, _, -, -, rfl⟩ := took
    rfl
  | submitted input =>
    simp only [Transition.update, markSubmitted, bind_eq_ok, updateWhere_eq_some] at took
    obtain ⟨_, -, -, rfl⟩ := took
    rfl
  | apiAccepted input =>
    simp only [Transition.update, markApiAccepted, bind_eq_ok, updateWhere_eq_some] at took
    obtain ⟨_, -, _, -, _, -, _, -, _, -, -, rfl⟩ := took
    rfl
  | sequencerPending input =>
    simp only [Transition.update, markSequencerPending, bind_eq_ok, updateWhere_eq_some] at took
    obtain ⟨_, -, _, -, -, rfl⟩ := took
    rfl
  | providerOutcome input =>
    simp only [Transition.update, markProviderOutcome, bind_eq_ok, updateWhere_eq_some] at took
    obtain ⟨_, -, _, -, _, -, -, rfl⟩ := took
    rfl
  | streamOutcome input =>
    simp only [Transition.update, markStreamOutcome, bind_eq_ok, updateWhere_eq_some] at took
    obtain ⟨_, -, _, -, _, -, -, rfl⟩ := took
    rfl
  | evidenceConflict input =>
    simp only [Transition.update, markEvidenceConflict, bind_eq_ok, updateWhere_eq_some] at took
    obtain ⟨_, -, -, rfl⟩ := took
    rfl
  | ambiguous input =>
    simp only [Transition.update, markAmbiguous, bind_eq_ok, updateWhere_eq_some] at took
    obtain ⟨_, -, -, rfl⟩ := took
    rfl

theorem writesState : WritesState applied Row.executionState (·.2.target) :=
  fun _ _ _ took => update_target (join_toOption_eq_some.1 took)

theorem step_sessionId (row : Row) (op : Op) : (step row op).sessionId = row.sessionId := by
  rcases step_cases row op with same | moves
  · exact congrArg Row.sessionId same
  · exact moves.identity.2.1

end OrderIntents

namespace LifecycleIntents

/-- The state a statement writes, none where it leaves the state. -/
def Transition.target : Transition → Option ExecutionState
  | .expireStalePreSubmit _ => some .expired
  | .closePositionChanged _ _ => some .rejected
  | .approvalDecision input => some (decisionState input.decision)
  | .preSubmitRevalidated _ => some .preSubmitRevalidated
  | .attachNonceReservation _ => some .nonceReserved
  | .signed _ => some .signed
  | .submissionStaged _ => some .submissionStaged
  | .apiAccepted _ => some .apiAccepted
  | .providerOutcome input => some input.state.executionState
  | .ambiguous _ => some .ambiguous
  | .streamEvidence input => some input.state.executionState
  | .sendAttemptStarted _ => none
  | .expiredUnsubmitted _ => some .expiredUnsubmitted
  | .unsubmittedRefused _ => some .rejected

theorem update_target {row row' : Row} {op : Op} (took : op.2.update op.1 row = .ok (some row')) :
    row'.executionState = op.2.target.getD row.executionState := by
  obtain ⟨time, transition⟩ := op
  cases transition with
  | attachNonceReservation input =>
    obtain ⟨_, -, took⟩ := bind_eq_ok.mp took
    obtain ⟨-, rfl⟩ := updateWhere_eq_some.mp took
    rfl
  | streamEvidence input =>
    simp only [Transition.update, markStreamEvidence] at took
    split at took
    · cases took
    obtain ⟨-, rfl⟩ := updateWhere_eq_some.mp took
    rfl
  | _ =>
    obtain ⟨-, rfl⟩ := updateWhere_eq_some.mp took
    rfl

theorem writesState : WritesState applied Row.executionState (·.2.target) :=
  fun _ _ _ took => update_target (join_toOption_eq_some.1 took)

theorem step_sessionId (row : Row) (op : Op) : (step row op).sessionId = row.sessionId := by
  rcases step_cases row op with same | moves
  · exact congrArg Row.sessionId same
  · exact moves.identity.2.1

end LifecycleIntents

end Vex.Lighter
