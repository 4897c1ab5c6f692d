import Vex.Lighter.LifecycleIntentRuns

/-!
# The expiry of a lifecycle intent

A stale preparation is looked at twice: in memory, before a transaction is opened for
it, and by the statement that expires it. The two are written apart, one over the mapped
row and one over the columns, and `isSafelyExpirablePreSubmit_iff` says that they choose
the same rows at every time.

What is expired so was never sent and never will be: an attempt is stamped only where a
hash is on record, and the statement takes no row with one (`Signed.step`); afterwards
the row is terminal.
-/

namespace Vex.Lighter.LifecycleIntents

open Vex.Library

/-! ## The predicate in memory -/

/-- No nonce, signature, submission or outcome, as the mapped row shows it. -/
def Row.showsNoSubmission (intent : Row) : Bool :=
  intent.nonceReservationId.isNone && intent.nonceValue.isNone &&
    intent.signerExpiryMs.isNone && intent.signerTxHash.isNone &&
    intent.submittedTxHash.isNone && intent.submitCode.isNone &&
    intent.submitMessage.isNone && intent.predictedExecutionTimeMs.isNone &&
    intent.volumeQuotaRemaining.isNone && intent.providerOutcomeJson.isNone &&
    intent.providerOutcomeCheckedAt.isNone && intent.ambiguousReason.isNone

/-- `isSafelyExpirablePreSubmit`. The expiry of a mapped row is the text of a date, so it
always parses. -/
def isSafelyExpirablePreSubmit (intent : Row) (nowMs : Instant) : Bool :=
  let pending := intent.approvalStatus == .approvalPending &&
    intent.executionState == .approvalPending && intent.approvalId.isNone &&
    intent.decidedAt.isNone && intent.preSubmitRevalidationJson.isNone &&
    intent.preSubmitRevalidatedAt.isNone
  let approved := intent.approvalStatus == .approved && intent.approvalId.isSome &&
    intent.decidedAt.isSome &&
    ((intent.executionState == .approved && intent.preSubmitRevalidationJson.isNone &&
        intent.preSubmitRevalidatedAt.isNone) ||
      (intent.executionState == .preSubmitRevalidated &&
        intent.preSubmitRevalidationJson.isSome && intent.preSubmitRevalidatedAt.isSome))
  (pending || approved) && intent.showsNoSubmission && decide (intent.expiresAt ≤ nowMs)

/-- `lifecycleIdentity`: what both callers hand to the statement. -/
def lifecycleIdentity (intent : Row) : ExpireStaleInput where
  intentId := intent.intentId
  sessionId := intent.sessionId
  matchHash := intent.matchHash
  environment := intent.environment
  accountIndex := intent.accountIndex
  actionType := intent.actionType
  marketIndex := intent.marketIndex
  providerOrderId := intent.providerOrderId

theorem showsNoSubmission_iff (intent : Row) :
    intent.showsNoSubmission = true ↔ intent.withoutSubmissionEvidence := by
  simp only [Row.showsNoSubmission, Row.withoutSubmissionEvidence, Bool.and_eq_true,
    Option.isNone_iff_eq_none, and_assoc]

theorem isSafelyExpirablePreSubmit_iff (intent : Row) (time : StatementTime) :
    isSafelyExpirablePreSubmit intent time.now = true ↔
      ∃ row', expireStalePreSubmitWith time (lifecycleIdentity intent) intent =
        .ok (some row') ∧ row'.executionState = .expired := by
  have selected : isSafelyExpirablePreSubmit intent time.now = true ↔
      ∃ row', expireStalePreSubmitWith time (lifecycleIdentity intent) intent =
        .ok (some row') := by
    simp only [expireStalePreSubmitWith, updateWhere_eq_some, exists_and_left, exists_eq',
      and_true, isSafelyExpirablePreSubmit, lifecycleIdentity, Bool.and_eq_true, Bool.or_eq_true,
      showsNoSubmission_iff, beq_iff_eq, Option.isNone_iff_eq_none, Option.isSome_iff_ne_none,
      decide_eq_true_eq, true_and, and_assoc]
    tauto
  rw [selected]
  constructor
  · rintro ⟨row', expires⟩
    obtain ⟨-, rfl⟩ := updateWhere_eq_some.mp expires
    exact ⟨_, expires, rfl⟩
  · rintro ⟨row', expires, -⟩
    exact ⟨row', expires⟩

/-! ## What is expired was never sent -/

structure CreateInput where
  intentId : JsString
  sessionId : JsString
  matchHash : JsString
  environment : Environment
  accountIndex : Nat
  apiKeyIndex : Nat
  actionType : Action
  marketIndex : Option Nat
  providerOrderId : Option JsString
  expiresAt : Instant

/-- What `createApprovalPendingWith` inserts for an input it has validated, with the
defaults of the table. -/
def createApprovalPendingWith (time : StatementTime) (input : CreateInput) : Row :=
  { intentId := input.intentId, sessionId := input.sessionId, matchHash := input.matchHash
    environment := input.environment, accountIndex := input.accountIndex
    apiKeyIndex := input.apiKeyIndex, actionType := input.actionType
    marketIndex := input.marketIndex, providerOrderId := input.providerOrderId
    approvalId := none, approvalStatus := .approvalPending, executionState := .approvalPending
    decisionReason := none, decidedAt := none, preSubmitRevalidationJson := none
    preSubmitRevalidatedAt := none, nonceReservationId := none, nonceValue := none
    signerExpiryMs := none, signerTxHash := none, submittedTxHash := none, submitCode := none
    submitMessage := none, predictedExecutionTimeMs := none, volumeQuotaRemaining := none
    providerOutcomeJson := none, providerOutcomeCheckedAt := none, ambiguousReason := none
    sendAttemptStartedAt := none, updatedAt := time.now, expiresAt := input.expiresAt }

/-- A send attempt is on record only with the hash of what was signed. -/
def Signed (row : Row) : Prop := row.signerTxHash = none → row.sendAttemptStartedAt = none

theorem Signed.step {row : Row} (signed : Signed row) (op : Op) : Signed (step row op) := by
  intro unsigned
  rcases step_cases row op with unmoved | moves
  · rw [unmoved] at unsigned ⊢
    exact signed unsigned
  · have before : row.signerTxHash = none := by
      rcases moves.hash with same | ⟨none_, -⟩
      · rw [← same, unsigned]
      · exact none_
    rcases moves.stamp with same | ⟨input, -, -, hash, -⟩
    · rw [same, signed before]
    · rw [before] at hash
      cases hash

theorem Signed.run {row : Row} (signed : Signed row) (ops : List Op) :
    Signed (run LifecycleIntents.step row ops) :=
  run_induction (fun _ op earlier => earlier.step op) signed ops

theorem expireStale_unsigned {time : StatementTime} {input : ExpireStaleInput} {row row' : Row}
    (expires : expireStalePreSubmitWith time input row = .ok (some row')) :
    row.signerTxHash = none ∧ row'.sendAttemptStartedAt = row.sendAttemptStartedAt ∧
      row'.executionState ∈ terminalStates := by
  obtain ⟨⟨-, -, -, -, -, -, -, -, -, -, unsubmitted⟩, rfl⟩ := updateWhere_eq_some.mp expires
  obtain ⟨-, -, -, unsigned, -⟩ := unsubmitted
  refine ⟨unsigned, rfl, ?_⟩
  show ExecutionState.expired ∈ terminalStates
  decide

/-- **Both expiry predicates choose the same rows**, and what is expired so, in any run of
the statements, has no send attempt and never gets one. -/
theorem expiry_predicates_coincide : (∀ (intent : Row) (time : StatementTime),
      isSafelyExpirablePreSubmit intent time.now = true ↔
        ∃ row', expireStalePreSubmitWith time (lifecycleIdentity intent) intent =
          .ok (some row') ∧ row'.executionState = .expired) ∧
    ∀ (created time : StatementTime) (fields : CreateInput) (before after : List Op)
      (input : ExpireStaleInput) (row' : Row),
      expireStalePreSubmitWith time input
          (run step (createApprovalPendingWith created fields) before) = .ok (some row') →
        (run step (createApprovalPendingWith created fields) before).sendAttemptStartedAt = none ∧
        (run step row' after).sendAttemptStartedAt = none := by
  refine ⟨isSafelyExpirablePreSubmit_iff, ?_⟩
  intro created time fields before after input row' expires
  have signed : Signed (createApprovalPendingWith created fields) := fun _ => rfl
  obtain ⟨unsigned, kept, terminal⟩ := expireStale_unsigned expires
  have unsent := signed.run before unsigned
  refine ⟨unsent, ?_⟩
  rw [run_terminal terminal after, kept, unsent]

/-! ### An approval that is not used in time -/

/-- An order is to be canceled, and the approval comes in time. -/
def sampleFields : CreateInput :=
  ⟨"lighter-lifecycle-0123456789abcdef", "s", "m", .core, 7, 4, .cancelOne, some 1, some "5", 1000⟩

def sampleDecision : List Op :=
  [(⟨10, 10⟩, .approvalDecision ⟨sampleFields.intentId, .approved, some "a", "yes"⟩)]

/-- The send attempt of an executor that comes too late. -/
def sampleAttempt : List Op :=
  [(⟨1001, 1001⟩, .sendAttemptStarted ⟨sampleFields.intentId, "s", "h"⟩)]

/-- Nothing else happens until the consent is over: the row is expired, and the late send
attempt is refused. -/
theorem unused_approval_never_sent :
    ∃ row', expireStalePreSubmitWith ⟨1000, 1000⟩
        (lifecycleIdentity (createApprovalPendingWith ⟨0, 0⟩ sampleFields))
        (run step (createApprovalPendingWith ⟨0, 0⟩ sampleFields) sampleDecision) =
          .ok (some row') ∧
      (run step row' sampleAttempt).sendAttemptStartedAt = none := by
  refine ⟨_, rfl, ?_⟩
  exact (expiry_predicates_coincide.2 ⟨0, 0⟩ ⟨1000, 1000⟩ sampleFields sampleDecision
    sampleAttempt (lifecycleIdentity (createApprovalPendingWith ⟨0, 0⟩ sampleFields)) _ rfl).2

end Vex.Lighter.LifecycleIntents
