import Vex.Library.Checks
import Vex.Approvals.Dispatch

/-!
# What an event does to an approval

The decisions leave a row undecided or decided once (`Decided`), the lifecycle
statements leave its decision (`Rewritten`), and every event is one of few moves
of the world (`Moves`, `moves_step`). What holds over runs is proved from these.
-/

namespace Vex.Approvals.Dispatch

open Vex.Library
open Vex.Runtime (Instant)

/-- The columns an outcome is committed to: the result hash, the message and the settlement. -/
def outcome (intent : ApprovalIntent) : Option JsString × Option Nat × Option JsString :=
  (intent.executionResultHash, intent.resultMessageId, intent.settlement)

/-! ## What the decisions leave -/

/-- The rows got a decision, and their lifecycle is as it was. -/
structure Decided (row row' : Approval) (decision : ApprovalDecision) : Prop where
  undecided : row.intent.decision = none
  decision : row'.intent.decision = some decision
  executionStatus : row'.intent.executionStatus = row.intent.executionStatus
  origin : row'.intent.origin = row.intent.origin
  enqueued : row'.intent.dispatchGenerationAtEnqueue = row.intent.dispatchGenerationAtEnqueue
  outcome : outcome row'.intent = outcome row.intent

variable {now : Instant}

theorem decideBoth_decided {row decided : Approval} {path state : String}
    {item : Option ApprovalItem} {input : MarkDecisionInput}
    (wrote : decideBoth row path state item (markDecisionWith now input row.intent) = .ok decided) :
    Decided row decided input.kind := by
  unfold decideBoth markDecisionWith at wrote
  cases item with
  | none => cases wrote
  | some item =>
    by_cases undecided : row.intent.decision = none
    · simp only [if_pos undecided, Except.ok.injEq] at wrote
      subst wrote
      exact ⟨undecided, rfl, rfl, rfl, rfl, rfl⟩
    · simp only [if_neg undecided] at wrote
      cases wrote

variable {reason : JsString}

theorem rejectBoth_decided {row decided : Approval} {path : String}
    {refusalReason : Option ApprovalRefusalReason}
    (wrote : rejectBoth now row path reason refusalReason = .ok decided) :
    Decided row decided .rejected :=
  decideBoth_decided wrote

theorem buildApproveSnapshot_spec {readings : Readings} {row row' : Approval}
    {snapshot : ApproveSnapshot}
    (built : buildApproveSnapshot readings now row = .ok (snapshot, row')) : match snapshot with
    | .approvedInTx .. => Decided row row' .approved
    | .expiredInTx .. => Decided row row' .rejected
    | .policyDriftBlocked .. => Decided row row' .rejected
    | _ => row' = row := by
  unfold buildApproveSnapshot at built
  split at built
  · split_ifs at built
    · obtain ⟨rfl, rfl⟩ := Prod.mk.inj (Except.ok.inj built)
      rfl
    · obtain ⟨rfl, rfl⟩ := Prod.mk.inj (Except.ok.inj built)
      rfl
  · split_ifs at built
    split at built
    · obtain ⟨decided, wrote, same⟩ := bind_eq_ok.1 built
      obtain ⟨rfl, rfl⟩ := Prod.mk.inj (Except.ok.inj same)
      exact rejectBoth_decided wrote
    · split at built
      · obtain ⟨rfl, rfl⟩ := Prod.mk.inj (Except.ok.inj built)
        rfl
      · split at built
        · obtain ⟨decided, wrote, same⟩ := bind_eq_ok.1 built
          obtain ⟨rfl, rfl⟩ := Prod.mk.inj (Except.ok.inj same)
          exact rejectBoth_decided wrote
        · obtain ⟨decided, wrote, same⟩ := bind_eq_ok.1 built
          obtain ⟨rfl, rfl⟩ := Prod.mk.inj (Except.ok.inj same)
          exact decideBoth_decided wrote

theorem buildRejectSnapshot_spec {row row' : Approval} {snapshot : RejectSnapshot}
    (built : buildRejectSnapshot now reason row = .ok (snapshot, row')) : match snapshot with
    | .rejectedInTx .. => Decided row row' .rejected
    | _ => row' = row := by
  unfold buildRejectSnapshot at built
  split at built
  · split_ifs at built
    · obtain ⟨rfl, rfl⟩ := Prod.mk.inj (Except.ok.inj built)
      rfl
    · obtain ⟨rfl, rfl⟩ := Prod.mk.inj (Except.ok.inj built)
      rfl
  · split_ifs at built
    · obtain ⟨decided, wrote, same⟩ := bind_eq_ok.1 built
      obtain ⟨rfl, rfl⟩ := Prod.mk.inj (Except.ok.inj same)
      exact rejectBoth_decided wrote
    · obtain ⟨decided, wrote, same⟩ := bind_eq_ok.1 built
      obtain ⟨rfl, rfl⟩ := Prod.mk.inj (Except.ok.inj same)
      exact rejectBoth_decided wrote

theorem refusePending_cases (now : Instant) (target : StudioRefusalTarget)
    (reason : StudioPendingRefusalReason) (row : Approval) :
    (refusePendingStudioIntent now target reason row).intent = row.intent
      ∨ Decided row (refusePendingStudioIntent now target reason row) .rejected := by
  unfold refusePendingStudioIntent
  split_ifs with covered
  · split
    · exact Or.inl rfl
    · split
      · exact Or.inl rfl
      · rename_i intent wrote
        unfold markDecisionWith at wrote
        split_ifs at wrote with undecided
        obtain rfl := Option.some.inj wrote
        exact Or.inr ⟨undecided, rfl, rfl, rfl, rfl, rfl⟩
  · exact Or.inl rfl

theorem rejectPending_intent (now : Instant) (sessionId : JsString) (row : Approval) :
    (rejectPendingApproval now sessionId row).intent = row.intent := by
  unfold rejectPendingApproval
  split_ifs with pending
  · split
    · rfl
    · rfl
  · rfl

/-! ## What a step can do -/

/-- A lifecycle statement wrote the status; what the row was enqueued and decided as stays. -/
structure Rewritten (intent written : ApprovalIntent) (status : ApprovalExecutionStatus) : Prop where
  executionStatus : written.executionStatus = status
  decision : written.decision = intent.decision
  origin : written.origin = intent.origin
  enqueued : written.dispatchGenerationAtEnqueue = intent.dispatchGenerationAtEnqueue

/-- A Studio row was claimed under the generation that its enqueue recorded. -/
def Fenced (intent : ApprovalIntent) (generation : Option Int) : Prop :=
  intent.origin = .studioMcp →
    ∃ current, generation = some current ∧ intent.dispatchGenerationAtEnqueue = some current

/-- A claim found the row not started, and a Studio claim found the generation of its enqueue. -/
structure Claimed (intent claimed : ApprovalIntent) (generation : Option Int) : Prop
    extends Rewritten intent claimed .dispatching where
  unstarted : intent.executionStatus = .notStarted
  fenced : Fenced intent generation
  outcome : outcome claimed = outcome intent

/-- Everything one event does to an approval and to the calls about it. -/
inductive Moves (w : World) : World → Prop
  | aside (row : Approval) (dispatchGeneration : Int) (same : row.intent = w.row.intent) :
      Moves w { w with row := row, dispatchGeneration := dispatchGeneration }
  | refusePending (row : Approval) (decided : Decided w.row row .rejected) :
      Moves w { w with row := row }
  | approve (flight : Nat) (row : Approval) (decided : Decided w.row row .approved) :
      Moves w ({ w with row := row }.fly flight .approved)
  | reject (flight : Nat) (row : Approval) (decided : Decided w.row row .rejected) :
      Moves w ({ w with row := row }.fly flight (World.owed row))
  | resume (flight : Nat) (decision : w.row.intent.decision = some .approved) :
      Moves w (w.fly flight .approved)
  | leave (flight : Nat) : Moves w (w.fly flight .idle)
  | restart : Moves w { w with flights := fun _ => .idle }
  | claim (flight : Nat) (generation : Option Int) (claimed : ApprovalIntent)
      (trying : w.flights flight = .approved) (claims : Claimed w.row.intent claimed generation) :
      Moves w ((w.write claimed).fly flight (.claimed generation))
  | stop (flight : Nat) (claimed : ApprovalIntent) (trying : w.flights flight = .approved)
      (unstarted : w.row.intent.executionStatus = .notStarted)
      (rewritten : Rewritten w.row.intent claimed .dispatching)
      (same : outcome claimed = outcome w.row.intent) :
      Moves w { (w.write claimed).fly flight .stopped with refusals := w.refusals + 1 }
  | refuseAtGate (flight : Nat) (refused : ApprovalIntent)
      (unstarted : w.row.intent.executionStatus = .notStarted)
      (decision : w.row.intent.decision = some .approved)
      (rewritten : Rewritten w.row.intent refused .failed) :
      Moves w { (w.record .failed refused).fly flight .idle with refusals := w.refusals + 1 }
  | refuseUnstarted (refused : ApprovalIntent)
      (unstarted : w.row.intent.executionStatus = .notStarted)
      (decision : w.row.intent.decision = some .approved)
      (rewritten : Rewritten w.row.intent refused .failed) :
      Moves w { w.record .failed refused with refusals := w.refusals + 1 }
  | refuseCall (flight : Nat) (generation : Option Int)
      (ready : w.flights flight = .claimed generation) :
      Moves w { w.fly flight (.returned .failed) with refusals := w.refusals + 1 }
  | invoke (flight : Nat) (generation : Option Int)
      (ready : w.flights flight = .claimed generation) :
      Moves w { w.fly flight .running with
        invocations := w.invocations ++ [⟨w.row.intent.decision, generation⟩] }
  | returns (flight : Nat) (status : SettledStatus) (running : w.flights flight = .running) :
      Moves w (w.fly flight (.returned status))
  | settle (flight : Nat) (status : SettledStatus) (settled : ApprovalIntent)
      (dispatching : w.row.intent.executionStatus = .dispatching)
      (rewritten : Rewritten w.row.intent settled status.executionStatus) :
      Moves w ((w.record status settled).fly flight .idle)
  | abandon (written : ApprovalIntent)
      (dispatching : w.row.intent.executionStatus = .dispatching)
      (rewritten : Rewritten w.row.intent written .indeterminate) :
      Moves w (w.record .indeterminate written)
  | recordRejection (flight : Nat) (resultMessageId : Nat)
      (rejecting : w.flights flight = .rejecting) :
      Moves w { (w.write (attachResultMessageWith w.row.intent resultMessageId)).fly flight .idle with
        notices := w.notices + 1 }

section Inversion

variable {codec : SettlementCodec} (w : World)

theorem moves_stay : Moves w w := .aside w.row w.dispatchGeneration rfl

variable (flight : Nat)

theorem moves_approve (now : Instant) (readings : Readings) :
    Moves w (w.approve flight now readings) := by
  unfold World.approve
  split_ifs with busy
  · exact moves_stay w
  · cases built : buildApproveSnapshot readings now w.row with
    | error _ => exact moves_stay w
    | ok found =>
      obtain ⟨snapshot, row⟩ := found
      have spec := buildApproveSnapshot_spec built
      cases snapshot with
      | approvedInTx => exact .approve flight row spec
      | expiredInTx | policyDriftBlocked => exact .reject flight row spec
      | notFound | cachedApproved | alreadyRejected | runTerminated =>
        exact .aside row w.dispatchGeneration (congrArg Approval.intent spec)

theorem moves_reject (now : Instant) (reason : JsString) :
    Moves w (w.reject flight now reason) := by
  unfold World.reject
  split_ifs with busy
  · exact moves_stay w
  · cases built : buildRejectSnapshot now reason w.row with
    | error _ => exact moves_stay w
    | ok found =>
      obtain ⟨snapshot, row⟩ := found
      have spec := buildRejectSnapshot_spec built
      cases snapshot with
      | rejectedInTx => exact .reject flight row spec
      | notFound | cachedRejected | alreadyApproved =>
        exact .aside row w.dispatchGeneration (congrArg Approval.intent spec)

theorem moves_resume : Moves w (w.resume flight) := by
  unfold World.resume
  split_ifs with found
  · exact .resume flight found.2.2.1
  · exact moves_stay w

theorem moves_claimSlot (now : Instant) (stopped : Bool) :
    Moves w (w.claimSlot flight now stopped) := by
  unfold World.claimSlot
  by_cases trying : w.flights flight = .approved ∧ w.row.intent.origin ≠ .studioMcp
  · rw [if_pos trying]
    cases cas : casMarkDispatchingWith now w.row.intent with
    | none => exact .leave flight
    | some claimed =>
      obtain ⟨unstarted, rfl⟩ := casIntent_eq_some.1 cas
      dsimp only
      split_ifs with halted
      · exact .stop flight _ trying.1 unstarted ⟨rfl, rfl, rfl, rfl⟩ rfl
      · exact .claim flight none _ trying.1
          ⟨⟨rfl, rfl, rfl, rfl⟩, unstarted, fun studio => absurd studio trying.2, rfl⟩
  · rw [if_neg trying]
    exact moves_stay w

/-- The gate of a Studio dispatch claims the slot under the current generation, refuses a row that
has not started, or changes nothing. -/
theorem runStudioDispatchGate_cases (codec : SettlementCodec) (now : Instant) (stopped : Bool)
    (dispatchGeneration : Int) (project : Option Project) (expectedScopeVersion : Int)
    (intent : ApprovalIntent) :
    (∃ claimed, runStudioDispatchGate codec now stopped dispatchGeneration project
          expectedScopeVersion intent = (.claimed, claimed)
        ∧ Claimed intent claimed (some dispatchGeneration))
      ∨ (∃ reason output refused, runStudioDispatchGate codec now stopped dispatchGeneration project
          expectedScopeVersion intent = (.refused reason output true, refused)
        ∧ intent.executionStatus = .notStarted ∧ intent.decision = some .approved
        ∧ Rewritten intent refused .failed)
      ∨ (∃ reason output, runStudioDispatchGate codec now stopped dispatchGeneration project
          expectedScopeVersion intent = (.refused reason output false, intent))
      ∨ runStudioDispatchGate codec now stopped dispatchGeneration project
          expectedScopeVersion intent = (.slotLost, intent) := by
  unfold runStudioDispatchGate
  split_ifs with halted
  · rcases refuseUnstarted_cases codec .stopped .stopped intent with
      ⟨output, refused, is, refusal⟩ | ⟨output, is, -⟩
    · exact Or.inr (Or.inl ⟨.stopped, output, refused, is, refusal.unstarted, refusal.decision,
        refusal.failed, refusal.sameDecision, refusal.sameOrigin, refusal.sameEnqueue⟩)
    · exact Or.inr (Or.inr (Or.inl ⟨.stopped, output, is⟩))
  · cases cas : casClaimStudioDispatchSlotWith now intent dispatchGeneration with
    | none => exact Or.inr (Or.inr (Or.inr rfl))
    | some claimed =>
      obtain ⟨⟨unstarted, studio, decision, current⟩, written⟩ := casIntent_eq_some.1 cas
      have claims : Claimed intent claimed (some dispatchGeneration) := by
        subst written
        exact ⟨⟨rfl, rfl, rfl, rfl⟩, unstarted, fun _ => ⟨_, rfl, current⟩, rfl⟩
      rcases recheckProject_cases codec project expectedScopeVersion (claims.origin.trans studio)
          claims.executionStatus with
        ⟨is, -⟩ | ⟨reason, output, settled, is, failed, -, origin, decided, -, enqueued⟩
      · exact Or.inl ⟨claimed, is, claims⟩
      · exact Or.inr (Or.inl ⟨reason, output, settled, is, unstarted, decision, failed,
          decided.trans claims.decision, origin.trans claims.origin,
          enqueued.trans claims.enqueued⟩)

theorem moves_studioGate (now : Instant) (stopped : Bool) (project : Option Project)
    (expectedScopeVersion : Int) :
    Moves w (w.studioGate codec flight now stopped project expectedScopeVersion) := by
  unfold World.studioGate
  split_ifs with trying
  · rcases runStudioDispatchGate_cases codec now stopped w.dispatchGeneration project
        expectedScopeVersion w.row.intent with
      ⟨claimed, is, claims⟩ | ⟨reason, output, refused, is, unstarted, decision, rewritten⟩ |
        ⟨reason, output, is⟩ | is
    · rw [is]
      exact .claim flight _ claimed trying.1 claims
    · rw [is]
      exact .refuseAtGate flight refused unstarted decision rewritten
    · rw [is]
      exact .leave flight
    · rw [is]
      exact .leave flight
  · exact moves_stay w

theorem moves_refuseUnstarted (reason : ApprovalRefusalReason) (cause : StudioRefusalCause) :
    Moves w (w.refuseUnstarted codec reason cause) := by
  unfold World.refuseUnstarted
  rcases refuseUnstarted_cases codec reason cause w.row.intent with
    ⟨output, refused, is, refusal⟩ | ⟨output, is, -⟩
  · rw [is]
    exact .refuseUnstarted refused refusal.unstarted refusal.decision
      ⟨refusal.failed, refusal.sameDecision, refusal.sameOrigin, refusal.sameEnqueue⟩
  · rw [is]
    exact moves_stay w

theorem settlement_eq_some {status : SettledStatus} {resultHash body : Option JsString}
    {resultMessageId : Nat} {intent settled : ApprovalIntent}
    (cas : World.settlement status resultHash body resultMessageId intent = some settled) :
    intent.executionStatus = .dispatching ∧ Rewritten intent settled status.executionStatus := by
  unfold World.settlement at cas
  split at cas
  · obtain ⟨dispatching, rfl⟩ := casIntent_eq_some.1 cas
    exact ⟨dispatching, rfl, rfl, rfl, rfl⟩
  · obtain ⟨⟨-, dispatching⟩, rfl⟩ := casIntent_eq_some.1 cas
    exact ⟨dispatching, rfl, rfl, rfl, rfl⟩
  · obtain ⟨⟨-, dispatching⟩, rfl⟩ := casIntent_eq_some.1 cas
    exact ⟨dispatching, rfl, rfl, rfl, rfl⟩
  · obtain ⟨⟨-, dispatching⟩, rfl⟩ := casIntent_eq_some.1 cas
    exact ⟨dispatching, rfl, rfl, rfl, rfl⟩

theorem moves_settleAs (status : SettledStatus) (resultHash body : Option JsString)
    (resultMessageId : Nat) :
    Moves w (w.settleAs flight status resultHash body resultMessageId) := by
  unfold World.settleAs
  cases cas : World.settlement status resultHash body resultMessageId w.row.intent with
  | none => exact .leave flight
  | some settled =>
    obtain ⟨dispatching, rewritten⟩ := settlement_eq_some cas
    exact .settle flight status settled dispatching rewritten

theorem moves_abandon {cas : IntentCas}
    (marks : ∀ written ∈ cas, w.row.intent.executionStatus = .dispatching
      ∧ Rewritten w.row.intent written .indeterminate) : Moves w (w.abandon cas) := by
  cases cas with
  | none => exact moves_stay w
  | some written =>
    obtain ⟨dispatching, rewritten⟩ := marks written rfl
    exact .abandon written dispatching rewritten

theorem moves_step (event : Event) : Moves w (w.step codec event) := by
  cases event with
  | approve flight now readings => exact moves_approve w flight now readings
  | reject flight now reason => exact moves_reject w flight now reason
  | refusePending now target reason =>
    rcases refusePending_cases now target reason w.row with same | decided
    · exact .aside _ w.dispatchGeneration same
    · exact .refusePending _ decided
  | stopPending now sessionId =>
    exact .aside _ w.dispatchGeneration (rejectPending_intent now sessionId w.row)
  | resume flight => exact moves_resume w flight
  | claimSlot flight now stopped => exact moves_claimSlot w flight now stopped
  | studioGate flight now stopped project expectedScopeVersion =>
    exact moves_studioGate w flight now stopped project expectedScopeVersion
  | refuseCall flight =>
    show Moves w (w.refuseCall flight)
    unfold World.refuseCall
    split
    · rename_i generation ready
      exact .refuseCall flight generation ready
    · exact moves_stay w
  | invoke flight =>
    show Moves w (w.invoke flight)
    unfold World.invoke
    split
    · rename_i generation ready
      exact .invoke flight generation ready
    · exact moves_stay w
  | returns flight status =>
    show Moves w (w.returns flight status)
    unfold World.returns
    split_ifs with running
    · exact .returns flight status running
    · exact moves_stay w
  | settle flight unprovable resultHash body resultMessageId =>
    show Moves w (w.settle flight unprovable resultHash body resultMessageId)
    unfold World.settle
    split
    · exact moves_settleAs w flight _ resultHash body resultMessageId
    · exact moves_settleAs w flight _ resultHash body resultMessageId
    · exact moves_stay w
  | leave flight => exact .leave flight
  | refuseUnstarted reason cause => exact moves_refuseUnstarted w reason cause
  | resolveAbandoned now leaseExpiresAt resultMessageId =>
    show Moves w (w.resolveAbandoned now leaseExpiresAt resultMessageId)
    unfold World.resolveAbandoned
    split_ifs with found
    · refine moves_abandon w fun written resolved => ?_
      obtain ⟨dispatching, rfl⟩ := resolveAbandonedDispatch_eq_some resolved
      exact ⟨dispatching, rfl, rfl, rfl, rfl⟩
    · exact moves_stay w
  | markStudioIndeterminate body resultHash | repairDesk resultHash =>
    refine moves_abandon w fun written cas => ?_
    obtain ⟨⟨-, dispatching⟩, rfl⟩ := casIntent_eq_some.1 cas
    exact ⟨dispatching, rfl, rfl, rfl, rfl⟩
  | markDeskAbandoned startedBefore =>
    refine moves_abandon w fun written cas => ?_
    obtain ⟨⟨-, -, dispatching, -⟩, rfl⟩ := casIntent_eq_some.1 cas
    exact ⟨dispatching, rfl, rfl, rfl, rfl⟩
  | recordRejection flight resultMessageId =>
    show Moves w (w.recordRejection flight resultMessageId)
    unfold World.recordRejection
    split_ifs with rejecting
    · exact .recordRejection flight resultMessageId rejecting
    · exact moves_stay w
  | advanceGeneration => exact .aside w.row _ rfl
  | restart => exact .restart

end Inversion

end Vex.Approvals.Dispatch
