import Vex.Approvals.Lifecycle

/-!
# The gate before a Studio dispatch

The one transaction before an approved Studio action starts: the operator's stop,
the claim of the slot, which is fenced on the dispatch generation, and the check
of the project against the scope the action was approved under. A refusal in it
leaves the row settled; a slot that was lost is refused in a transaction of its
own.

How a result is encoded as JSON and hashed is a parameter.
-/

namespace Vex.Approvals

open Vex.Library
open Vex.Runtime (Instant)

/-- `encodeStudioSettlement` of a result with its success and output, and `shortSha256`. -/
structure SettlementCodec where
  encodeStudioSettlement : Bool → JsString → JsString
  shortSha256 : JsString → JsString

def studioRefusalText (cause : String) : JsString :=
  JsString.ofString ("Approved action refused: " ++ cause ++ ". Nothing was executed and no funds " ++
    "moved. Request the action again if you still want it.")

structure StudioRefusalSettlement where
  output : JsString
  settlementJson : JsString
  resultHash : JsString
  deriving DecidableEq

def buildStudioRefusalSettlement (codec : SettlementCodec) (cause : String) :
    StudioRefusalSettlement :=
  let output := studioRefusalText cause
  let settlementJson := codec.encodeStudioSettlement false output
  { output := output
    settlementJson := settlementJson
    resultHash := codec.shortSha256 settlementJson }

/-- The keys of `STUDIO_REFUSAL_CAUSES`. -/
inductive StudioRefusalCause where
  | stopped
  | slotLost
  | fenceUnproven
  | scopeChanged
  | projectDeleted
  | scopeUnreadable
  | scopeVersionMissing
  deriving DecidableEq

/-- `STUDIO_REFUSAL_CAUSES`. -/
def StudioRefusalCause.text : StudioRefusalCause → String
  | .stopped => "Vex was stopped before this action could start"
  | .slotLost => "Vex was locked or the action was already taken over by another dispatcher " ++
      "before it could start"
  | .fenceUnproven => "Vex cannot currently prove that its lock fence is in place, so it did not " ++
      "start this approved action"
  | .scopeChanged => "the project's permission or wallet selection changed before this action " ++
      "could start"
  | .projectDeleted => "the Vex project that authorized this action was deleted before it could " ++
      "start"
  | .scopeUnreadable => "the Vex project that authorized this action could not be read"
  | .scopeVersionMissing => "Vex has no record of the project settings this action was approved under"

/-- `StudioGateOutcome`, and the slot that was lost. -/
inductive StudioGateOutcome where
  | claimed
  | refused (reason : ApprovalRefusalReason) (output : JsString) (refusalCommitted : Bool)
  | slotLost

section Gate

variable (codec : SettlementCodec)

/-- The refusal of an action that has not started: what is answered and the row it leaves. -/
def refuseUnstarted (reason : ApprovalRefusalReason) (cause : StudioRefusalCause)
    (intent : ApprovalIntent) : StudioGateOutcome × ApprovalIntent :=
  let body := buildStudioRefusalSettlement codec cause.text
  match casRefuseStudioBeforeDispatchWith intent reason (some body.settlementJson)
    (some body.resultHash) with
  | some refused => (.refused reason body.output true, refused)
  | none => (.refused reason body.output false, intent)

/-- The refusal of an action whose slot this transaction claimed: the claim is settled. -/
def refuseClaimed (reason : ApprovalRefusalReason) (cause : StudioRefusalCause)
    (intent : ApprovalIntent) : StudioGateOutcome × ApprovalIntent :=
  let body := buildStudioRefusalSettlement codec cause.text
  match commitStudioSettlementWith intent .failed (some body.resultHash) (some body.settlementJson)
    (some reason) with
  | some settled => (.refused reason body.output true, settled)
  | none => (.refused reason body.output false, intent)

/-- The re-check of the project, behind the claim. -/
def recheckProject (project : Option Project) (expectedScopeVersion : Int)
    (claimed : ApprovalIntent) : StudioGateOutcome × ApprovalIntent :=
  match claimed.projectId with
  | none => (.claimed, claimed)
  | some _ =>
    match project.filter (·.deletedAt = none) with
    | none => refuseClaimed codec .projectDeleted .projectDeleted claimed
    | some project =>
      if project.scopeVersion ≠ expectedScopeVersion then
        refuseClaimed codec .scopeChanged .scopeChanged claimed
      else (.claimed, claimed)

/-- The transaction of `runStudioDispatchGate`: what it decides, and the row it leaves. -/
def runStudioDispatchGate (now : Instant) (stopped : Bool) (dispatchGeneration : Int)
    (project : Option Project) (expectedScopeVersion : Int) (intent : ApprovalIntent) :
    StudioGateOutcome × ApprovalIntent :=
  if stopped then refuseUnstarted codec .stopped .stopped intent
  else
    match casClaimStudioDispatchSlotWith now intent dispatchGeneration with
    | none => (.slotLost, intent)
    | some claimed => recheckProject codec project expectedScopeVersion claimed

/-- The reasons `refuseStudioBeforeDispatch` is given, with their causes. -/
inductive StudioUnstartedRefusal where
  | slotLost
  | fenceUnproven
  | scopeVersionMissing
  | projectDeleted
  | scopeUnreadable
  deriving DecidableEq

def StudioUnstartedRefusal.reason : StudioUnstartedRefusal → ApprovalRefusalReason
  | .slotLost => .generationSuperseded
  | .fenceUnproven => .generationSuperseded
  | .scopeVersionMissing => .scopeUnavailable
  | .projectDeleted => .projectDeleted
  | .scopeUnreadable => .scopeUnavailable

def StudioUnstartedRefusal.cause : StudioUnstartedRefusal → StudioRefusalCause
  | .slotLost => .slotLost
  | .fenceUnproven => .fenceUnproven
  | .scopeVersionMissing => .scopeVersionMissing
  | .projectDeleted => .projectDeleted
  | .scopeUnreadable => .scopeUnreadable

/-- The transaction of `refuseStudioBeforeDispatch`. -/
def refuseStudioBeforeDispatch (refusal : StudioUnstartedRefusal) (intent : ApprovalIntent) :
    StudioGateOutcome × ApprovalIntent :=
  refuseUnstarted codec refusal.reason refusal.cause intent

variable {codec}

/-! ## What the gate leaves -/

structure RefusedUnstarted (intent refused : ApprovalIntent) (reason : ApprovalRefusalReason) :
    Prop where
  origin : intent.origin = .studioMcp
  decision : intent.decision = some .approved
  unstarted : intent.executionStatus = .notStarted
  failed : refused.executionStatus = .failed
  refusalReason : refused.refusalReason = some reason
  sameOrigin : refused.origin = intent.origin
  sameDecision : refused.decision = intent.decision
  sameMessage : refused.resultMessageId = intent.resultMessageId
  sameEnqueue : refused.dispatchGenerationAtEnqueue = intent.dispatchGenerationAtEnqueue

theorem refuseUnstarted_cases (codec : SettlementCodec) (reason : ApprovalRefusalReason)
    (cause : StudioRefusalCause) (intent : ApprovalIntent) :
    (∃ output refused, refuseUnstarted codec reason cause intent = (.refused reason output true, refused)
        ∧ RefusedUnstarted intent refused reason)
      ∨ ∃ output, refuseUnstarted codec reason cause intent = (.refused reason output false, intent)
        ∧ ¬ (intent.origin = .studioMcp ∧ intent.decision = some .approved
          ∧ intent.executionStatus = .notStarted) := by
  unfold refuseUnstarted casRefuseStudioBeforeDispatchWith casIntent
  split_ifs with matched
  · exact Or.inl ⟨_, _, rfl, matched.1, matched.2.1, matched.2.2, rfl, rfl, rfl, rfl, rfl, rfl⟩
  · exact Or.inr ⟨_, rfl, matched⟩

theorem refuseClaimed_eq {claimed : ApprovalIntent} (origin : claimed.origin = .studioMcp)
    (dispatching : claimed.executionStatus = .dispatching) (codec : SettlementCodec)
    (reason : ApprovalRefusalReason) (cause : StudioRefusalCause) :
    ∃ output settled, refuseClaimed codec reason cause claimed = (.refused reason output true, settled)
      ∧ settled.executionStatus = .failed ∧ settled.refusalReason = some reason
      ∧ settled.origin = claimed.origin ∧ settled.decision = claimed.decision
      ∧ settled.resultMessageId = claimed.resultMessageId
      ∧ settled.dispatchGenerationAtEnqueue = claimed.dispatchGenerationAtEnqueue := by
  unfold refuseClaimed
  dsimp only
  split
  · rename_i settled wrote
    obtain ⟨-, rfl⟩ := casIntent_eq_some.1 wrote
    exact ⟨_, _, rfl, rfl, rfl, rfl, rfl, rfl, rfl⟩
  · rename_i missed
    simp [commitStudioSettlementWith, casIntent, origin, dispatching] at missed

/-- The project of an action is there, is not deleted and has the scope it was approved under. -/
def ProjectStands (project : Option Project) (expectedScopeVersion : Int) : Prop :=
  ∃ found, project = some found ∧ found.deletedAt = none ∧ found.scopeVersion = expectedScopeVersion

/-- The slot was claimed under the current generation. -/
structure SlotClaimed (now : Instant) (dispatchGeneration : Int) (intent claimed : ApprovalIntent) :
    Prop where
  origin : intent.origin = .studioMcp
  decision : intent.decision = some .approved
  unstarted : intent.executionStatus = .notStarted
  current : intent.dispatchGenerationAtEnqueue = some dispatchGeneration
  written : claimed = { intent with
    executionStatus := .dispatching, dispatchStartedAt := some now }

/-- A claim that commits found the row approved, unstarted and of the current generation, and the
project, where there is one, standing. -/
theorem recheckProject_cases (codec : SettlementCodec) (project : Option Project)
    (expectedScopeVersion : Int) {claimed : ApprovalIntent} (origin : claimed.origin = .studioMcp)
    (dispatching : claimed.executionStatus = .dispatching) :
    (recheckProject codec project expectedScopeVersion claimed = (.claimed, claimed)
        ∧ (claimed.projectId ≠ none → ProjectStands project expectedScopeVersion))
      ∨ ∃ reason output settled,
        recheckProject codec project expectedScopeVersion claimed = (.refused reason output true, settled)
          ∧ settled.executionStatus = .failed ∧ settled.refusalReason = some reason
          ∧ settled.origin = claimed.origin ∧ settled.decision = claimed.decision
          ∧ settled.resultMessageId = claimed.resultMessageId
          ∧ settled.dispatchGenerationAtEnqueue = claimed.dispatchGenerationAtEnqueue := by
  unfold recheckProject
  cases of : claimed.projectId with
  | none => exact Or.inl ⟨rfl, fun some => absurd rfl some⟩
  | some projectId =>
    cases found : project.filter (·.deletedAt = none) with
    | none =>
      obtain ⟨output, settled, refused, rest⟩ :=
        refuseClaimed_eq origin dispatching codec .projectDeleted .projectDeleted
      exact Or.inr ⟨.projectDeleted, output, settled, refused, rest⟩
    | some standing =>
      obtain ⟨there, live⟩ := Option.filter_eq_some_iff.1 found
      by_cases moved : standing.scopeVersion ≠ expectedScopeVersion
      · obtain ⟨output, settled, refused, rest⟩ :=
          refuseClaimed_eq origin dispatching codec .scopeChanged .scopeChanged
        exact Or.inr ⟨.scopeChanged, output, settled, by simpa [moved] using refused, rest⟩
      · refine Or.inl ⟨by simp [moved], fun _ => ⟨standing, there, ?_, not_not.1 moved⟩⟩
        exact of_decide_eq_true live

end Gate

end Vex.Approvals
