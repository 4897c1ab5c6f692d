import Vex.Approvals.Rows

/-!
# The lifecycle of an approval

What becomes of the companion row of an approval beside its decision: the slot of
the dispatch is claimed, an outcome is committed, the transcript row that carries
it is attached, the agent is resumed for it. Each is one guarded `UPDATE`, and
those of the Studio and of the desk also name the origin.

A settlement is the text that is stored; its size is left out.
-/

namespace Vex.Approvals

open Vex.Library
open Vex.Runtime (Instant)

/-- The execution states that say what became of a call. -/
inductive SettledStatus where
  | succeeded
  | failed
  | indeterminate
  deriving DecidableEq

def SettledStatus.executionStatus : SettledStatus → ApprovalExecutionStatus
  | .succeeded => .succeeded
  | .failed => .failed
  | .indeterminate => .indeterminate

/-- What a guarded update gives: the row it wrote, none where it missed. -/
abbrev IntentCas := Option ApprovalIntent

/-- One `UPDATE … WHERE … RETURNING`. -/
def casIntent (guard : Prop) [Decidable guard] (written : ApprovalIntent) : IntentCas :=
  if guard then some written else none

theorem casIntent_eq_some {guard : Prop} [Decidable guard] {written intent : ApprovalIntent} :
    casIntent guard written = some intent ↔ guard ∧ written = intent := by
  unfold casIntent
  split_ifs with matched
  · simp [matched]
  · simp [matched]

section Statements

variable (now : Instant) (intent : ApprovalIntent)

/-! ## The agent's lifecycle -/

def casMarkDispatchingWith : IntentCas :=
  casIntent (intent.executionStatus = .notStarted)
    { intent with executionStatus := .dispatching, dispatchStartedAt := some now }

def commitExecutionResultWith (status : SettledStatus) (resultHash : Option JsString)
    (resultMessageId : Nat) : IntentCas :=
  casIntent (intent.executionStatus = .dispatching) { intent with
      executionStatus := status.executionStatus
      executionResultHash := resultHash <|> intent.executionResultHash
      resultMessageId := some resultMessageId }

/-- `attachResultMessageWith`: it names the row alone. -/
def attachResultMessageWith (resultMessageId : Nat) : ApprovalIntent :=
  { intent with resultMessageId := some resultMessageId }

def casMarkResumeConsumed : IntentCas :=
  casIntent (intent.resumeConsumedAt = none) { intent with resumeConsumedAt := some now }

def hasResumeCompleted : Bool := intent.resumeConsumedAt.isSome

def attachResumeCueMessageWith (cueMessageId : Nat) : ApprovalIntent :=
  { intent with resumeCueMessageId := some cueMessageId }

def casMarkIndeterminateWith : IntentCas :=
  casIntent (intent.executionStatus = .dispatching)
    { intent with executionStatus := .indeterminate }

/-! ## Studio -/

/-- `casClaimStudioDispatchSlotWith`, with the generation the statement reads. -/
def casClaimStudioDispatchSlotWith (dispatchGeneration : Int) : IntentCas :=
  casIntent (intent.executionStatus = .notStarted ∧ intent.origin = .studioMcp
      ∧ intent.decision = some .approved
      ∧ intent.dispatchGenerationAtEnqueue = some dispatchGeneration)
    { intent with executionStatus := .dispatching, dispatchStartedAt := some now }

def casRefuseStudioBeforeDispatchWith (refusalReason : ApprovalRefusalReason)
    (settlement resultHash : Option JsString) : IntentCas :=
  casIntent (intent.origin = .studioMcp ∧ intent.decision = some .approved
      ∧ intent.executionStatus = .notStarted)
    { intent with
      executionStatus := .failed
      refusalReason := some refusalReason
      settlement := settlement
      executionResultHash := resultHash <|> intent.executionResultHash }

def casMarkIndeterminateWithSettlementWith (settlement resultHash : Option JsString) : IntentCas :=
  casIntent (intent.origin = .studioMcp ∧ intent.executionStatus = .dispatching) { intent with
      executionStatus := .indeterminate
      settlement := settlement <|> intent.settlement
      executionResultHash := resultHash <|> intent.executionResultHash }

def commitStudioSettlementWith (status : SettledStatus) (resultHash settlement : Option JsString)
    (refusalReason : Option ApprovalRefusalReason) : IntentCas :=
  casIntent (intent.origin = .studioMcp ∧ intent.executionStatus = .dispatching) { intent with
      executionStatus := status.executionStatus
      executionResultHash := resultHash <|> intent.executionResultHash
      settlement := settlement
      refusalReason := refusalReason <|> intent.refusalReason }

/-! ## The desk -/

def commitDeskSettlementWith (status : SettledStatus) (resultHash : Option JsString) : IntentCas :=
  casIntent (intent.origin = .desk ∧ intent.executionStatus = .dispatching) { intent with
      executionStatus := status.executionStatus
      executionResultHash := resultHash <|> intent.executionResultHash }

/-- `markAbandonedDeskDispatchesIndeterminate`, on one row. -/
def markAbandonedDeskDispatchIndeterminate (startedBefore : Instant) : IntentCas :=
  casIntent (intent.origin = .desk ∧ intent.decision = some .approved
      ∧ intent.executionStatus = .dispatching
      ∧ ∀ startedAt ∈ intent.dispatchStartedAt, startedAt < startedBefore)
    { intent with executionStatus := .indeterminate }

/-! ## The shapes of what is still owed -/

/-- `RESUMABLE_SHAPES_PREDICATE`. -/
def ResumableShapes : Prop :=
  intent.origin = .agent
    ∧ ((intent.decision = some .approved ∧ intent.executionStatus = .notStarted)
      ∨ (intent.resultMessageId ≠ none ∧ intent.resumeConsumedAt = none))

/-- `INCOMPLETE_APPROVAL_LIFECYCLE_PREDICATE`. -/
def IncompleteLifecycle : Prop :=
  intent.origin = .agent ∧ intent.decision ≠ none
    ∧ ((intent.decision = some .approved ∧ intent.executionStatus = .dispatching)
      ∨ ResumableShapes intent)

instance : Decidable (ResumableShapes intent) := inferInstanceAs (Decidable (_ ∧ _))

instance : Decidable (IncompleteLifecycle intent) := inferInstanceAs (Decidable (_ ∧ _))

end Statements

/-! ## An abandoned dispatch -/

def staleDispatchThresholdMs : Int := 10 * 60000

/-- The transaction of `resolveAbandonedDispatch`, on the row it locked: none where it writes
nothing. `leaseExpiresAt` is that of the session's lease. -/
def resolveAbandonedDispatch (now : Instant) (leaseExpiresAt : Option Instant)
    (resultMessageId : Nat) (intent : ApprovalIntent) : IntentCas :=
  if intent.executionStatus ≠ .dispatching then none
  else if leaseExpiresAt.any (now ≤ ·) then none
  else if intent.dispatchStartedAt.any (now - · < staleDispatchThresholdMs) then none
  else (casMarkIndeterminateWith intent).map fun written =>
    attachResultMessageWith written resultMessageId

theorem resolveAbandonedDispatch_eq_some {now : Instant} {leaseExpiresAt : Option Instant}
    {resultMessageId : Nat} {intent written : ApprovalIntent}
    (resolved : resolveAbandonedDispatch now leaseExpiresAt resultMessageId intent = some written) :
    intent.executionStatus = .dispatching ∧ { intent with
      executionStatus := .indeterminate, resultMessageId := some resultMessageId } = written := by
  unfold resolveAbandonedDispatch at resolved
  split_ifs at resolved with moved live young
  obtain ⟨marked, cas, rfl⟩ := Option.map_eq_some_iff.1 resolved
  obtain ⟨dispatching, rfl⟩ := casIntent_eq_some.1 cas
  exact ⟨dispatching, rfl⟩

end Vex.Approvals
