import Vex.Approvals.DispatchMoves

/-!
# An approved call is dispatched at most once

What the calls of one approval do to its rows is what workers do to a slot
(`steps_of_moves`): the claims are the only way out of `not_started`, and every
settlement asks for `dispatching`. So the library's rules give that the tool is
invoked at most once, never for a row that was refused, and that a settled status
stays.

Beside the slot an invariant (`Roles`) says who may be at work: a call that tries
for the slot read a decision that approved, and only the call that rejected the
approval owes the agent a tool result.
-/

namespace Vex.Approvals.Dispatch

open Vex.Library
open Vex.Runtime (Instant)

variable {codec : SettlementCodec} {w w' : World} {row : Approval}

/-! ## The moves on the slot -/

theorem slot_row {row : Approval} (dispatchGeneration : Int)
    (same : row.intent.executionStatus = w.row.intent.executionStatus) :
    { w with row := row, dispatchGeneration := dispatchGeneration }.slot = w.slot := by
  unfold World.slot
  rw [same]

theorem slot_fly (w : World) (flight : Nat) (at_ : Flight)
    (away : ∀ generation, at_ ≠ .claimed generation) :
    (w.fly flight at_).slot = w.slot.without flight := by
  unfold World.slot World.fly Slot.without
  congr 1
  funext b
  apply propext
  by_cases same : b = flight
  · subst same
    simp [away]
  · simp [same]

theorem slot_fly_claimed (flight : Nat) (generation : Option Int) :
    (w.fly flight (.claimed generation)).slot
      = { w.slot with Ready := fun b => b = flight ∨ w.slot.Ready b } := by
  unfold World.slot World.fly
  congr 1
  funext b
  apply propext
  by_cases same : b = flight
  · subst same
    simp
  · simp [same]

variable {flight : Nat}

theorem ready_of_claimed {generation : Option Int}
    (claimed : w.flights flight = .claimed generation) : w.slot.Ready flight :=
  ⟨generation, claimed⟩

theorem slot_free (unstarted : w.row.intent.executionStatus = .notStarted) : w.slot.phase = .free :=
  slotPhase_eq_free.2 unstarted

theorem slot_taken (dispatching : w.row.intent.executionStatus = .dispatching) :
    w.slot.phase = .taken := by
  unfold World.slot
  rw [dispatching]
  rfl

variable {written : ApprovalIntent}

theorem slot_record {status : SettledStatus}
    (settled : written.executionStatus = status.executionStatus) :
    (w.record status written).slot
      = { w.slot with phase := .settled status, records := w.slot.records + 1 } := by
  unfold World.slot World.record World.write
  simp [settled, slotPhase_settled]

theorem steps_of_moves (moves : Moves w w') : Slot.Steps w.slot w'.slot := by
  cases moves with
  | aside row dispatchGeneration same =>
    rw [slot_row dispatchGeneration (congrArg ApprovalIntent.executionStatus same)]
  | refusePending row decided =>
    have same := slot_row (w := w) w.dispatchGeneration decided.executionStatus
    exact same ▸ .refl
  | approve flight row decided =>
    rw [slot_fly _ flight .approved (by simp), slot_row w.dispatchGeneration decided.executionStatus]
    exact .single (.lose flight)
  | reject flight row decided =>
    have away : ∀ generation, World.owed row ≠ .claimed generation := by
      unfold World.owed
      split_ifs <;> simp
    rw [slot_fly _ flight _ away, slot_row w.dispatchGeneration decided.executionStatus]
    exact .single (.lose flight)
  | resume flight decision =>
    rw [slot_fly w flight .approved (by simp)]
    exact .single (.lose flight)
  | leave flight =>
    rw [slot_fly w flight .idle (by simp)]
    exact .single (.lose flight)
  | restart =>
    have none : { w with flights := fun _ => Flight.idle }.slot
        = { w.slot with Ready := fun _ => False } := by
      unfold World.slot
      simp
    rw [none]
    exact .single .loseAll
  | claim flight generation claimed trying claims =>
    have taken : ((w.write claimed).fly flight (.claimed generation)).slot
        = w.slot.took flight := by
      rw [slot_fly_claimed]
      unfold World.slot World.write Slot.took
      simp [claims.executionStatus, slotPhase]
    rw [taken]
    exact .single (.take flight (slot_free claims.unstarted))
  | stop flight claimed trying unstarted rewritten same =>
    have left : { (w.write claimed).fly flight .stopped with refusals := w.refusals + 1 }.slot
        = { (w.slot.took flight).without flight with refusals := w.slot.refusals + 1 } := by
      unfold World.slot World.write World.fly Slot.took Slot.without
      simp only [rewritten.executionStatus, slotPhase, Slot.mk.injEq, true_and, and_true]
      funext b
      apply propext
      by_cases other : b = flight
      · subst other
        simp
      · simp [other]
    rw [left]
    have taken : Slot.Step w.slot (w.slot.took flight) := .take flight (slot_free unstarted)
    exact .tail (.single taken) (.forgo flight (Or.inl rfl))
  | refuseAtGate flight refused unstarted decision rewritten =>
    have left : { (w.record .failed refused).fly flight .idle with
        refusals := w.refusals + 1 }.slot = (w.slot.refusedAs .failed).without flight := by
      have flown := slot_fly (w.record .failed refused) flight .idle (by simp)
      rw [slot_record rewritten.executionStatus] at flown
      exact congrArg (fun slot => { slot with refusals := w.refusals + 1 }) flown
    rw [left]
    exact .tail (.single (.refuse .failed (slot_free unstarted))) (.lose flight)
  | refuseUnstarted refused unstarted decision rewritten =>
    have left : { w.record .failed refused with refusals := w.refusals + 1 }.slot
        = w.slot.refusedAs .failed :=
      congrArg (fun slot => { slot with refusals := w.refusals + 1 })
        (slot_record rewritten.executionStatus)
    rw [left]
    exact .single (.refuse .failed (slot_free unstarted))
  | refuseCall flight generation ready =>
    have left : { w.fly flight (.returned .failed) with refusals := w.refusals + 1 }.slot
        = { w.slot.without flight with refusals := w.slot.refusals + 1 } :=
      congrArg (fun slot => { slot with refusals := w.refusals + 1 })
        (slot_fly w flight (.returned .failed) (by simp))
    rw [left]
    exact .single (.forgo flight (ready_of_claimed ready))
  | invoke flight generation ready =>
    have left : { w.fly flight .running with
          invocations := w.invocations ++ [Invocation.mk w.row.intent.decision generation] }.slot
        = { w.slot.without flight with uses := w.slot.uses + 1 } := by
      have flown := slot_fly w flight .running (by simp)
      have used := congrArg (fun slot => { slot with uses := w.invocations.length + 1 }) flown
      simpa [World.slot] using used
    rw [left]
    exact .single (.use flight (ready_of_claimed ready))
  | returns flight status running =>
    rw [slot_fly w flight (.returned status) (by simp)]
    exact .single (.lose flight)
  | settle flight status settled dispatching rewritten =>
    rw [slot_fly _ flight .idle (by simp), slot_record rewritten.executionStatus]
    exact .tail (.single (.settle status (slot_taken dispatching))) (.lose flight)
  | abandon written dispatching rewritten =>
    rw [slot_record rewritten.executionStatus]
    exact .single (.settle .indeterminate (slot_taken dispatching))
  | recordRejection flight resultMessageId rejecting =>
    have left := slot_fly (w.write (attachResultMessageWith w.row.intent resultMessageId)) flight
      .idle (by simp)
    exact .single (left ▸ .lose flight)

/-! ## Who is at work -/

/-- Who may be at work on an approval that was enqueued as `row`, beside the slot. -/
structure Roles (row : Approval) (w : World) : Prop where
  origin : w.row.intent.origin = row.intent.origin
  enqueued : w.row.intent.dispatchGenerationAtEnqueue = row.intent.dispatchGenerationAtEnqueue
  started : w.row.intent.executionStatus ≠ .notStarted → w.row.intent.decision = some .approved
  trying : ∀ a, w.flights a = .approved → w.row.intent.decision = some .approved
  owing : ∀ a, w.flights a = .rejecting → w.row.intent.decision = some .rejected ∧ w.notices = 0
  owedOnce : ∀ a b, w.flights a = .rejecting → w.flights b = .rejecting → a = b
  noticedOnce : w.notices ≤ 1
  noticed : w.notices ≠ 0 → w.row.intent.decision = some .rejected
  claimedUnder : ∀ a generation, w.flights a = .claimed generation → Fenced row.intent generation
  approved : ∀ invocation ∈ w.invocations, invocation.decision = some .approved
  fenced : ∀ invocation ∈ w.invocations, Fenced row.intent invocation.claimedUnder

/-- What an approval keeps over every run. -/
structure Kept (row : Approval) (w : World) : Prop extends Roles row w where
  slot : w.slot.Sound

theorem flights_fly {a : Nat} {at_ found : Flight} (is : (w.fly flight at_).flights a = found)
    (elsewhere : at_ ≠ found) : a ≠ flight ∧ w.flights a = found := by
  unfold World.fly at is
  by_cases same : a = flight
  · subst same
    simp only [Function.update_self] at is
    exact absurd is elsewhere
  · simp only [Function.update_of_ne same] at is
    exact ⟨same, is⟩

theorem Roles.fly (roles : Roles row w) (flight : Nat) (at_ : Flight)
    (approved : at_ = .approved → w.row.intent.decision = some .approved)
    (claimed : ∀ generation, at_ = .claimed generation → Fenced row.intent generation)
    (notRejecting : at_ ≠ .rejecting) : Roles row (w.fly flight at_) where
  origin := roles.origin
  enqueued := roles.enqueued
  started := roles.started
  trying a is := by
    by_cases here : at_ = .approved
    · exact approved here
    · exact roles.trying a (flights_fly is here).2
  owing a is := roles.owing a (flights_fly is notRejecting).2
  owedOnce a b left right :=
    roles.owedOnce a b (flights_fly left notRejecting).2 (flights_fly right notRejecting).2
  noticedOnce := roles.noticedOnce
  noticed := roles.noticed
  claimedUnder a generation is := by
    by_cases here : at_ = .claimed generation
    · exact claimed generation here
    · exact roles.claimedUnder a generation (flights_fly is here).2
  approved := roles.approved
  fenced := roles.fenced

theorem Roles.write (roles : Roles row w) {status : ApprovalExecutionStatus}
    (rewritten : Rewritten w.row.intent written status)
    (decision : w.row.intent.decision = some .approved) : Roles row (w.write written) where
  origin := rewritten.origin.trans roles.origin
  enqueued := rewritten.enqueued.trans roles.enqueued
  started _ := rewritten.decision.trans decision
  trying _ _ := rewritten.decision.trans decision
  owing a is := by
    have rejected := (roles.owing a is).1
    rw [decision] at rejected
    cases rejected
  owedOnce := roles.owedOnce
  noticedOnce := roles.noticedOnce
  noticed some := by
    have rejected := roles.noticed some
    rw [decision] at rejected
    cases rejected
  claimedUnder := roles.claimedUnder
  approved := roles.approved
  fenced := roles.fenced

theorem Roles.count (roles : Roles row w) (refusals : Nat) (records : List SettledStatus) :
    Roles row { w with refusals := refusals, records := records } :=
  ⟨roles.origin, roles.enqueued, roles.started, roles.trying, roles.owing, roles.owedOnce,
    roles.noticedOnce, roles.noticed, roles.claimedUnder, roles.approved, roles.fenced⟩

theorem Roles.undecided (roles : Roles row w) (undecided : w.row.intent.decision = none) :
    (∀ a, w.flights a ≠ .approved) ∧ (∀ a, w.flights a ≠ .rejecting) ∧ w.notices = 0
      ∧ w.row.intent.executionStatus = .notStarted := by
  refine ⟨fun a is => ?_, fun a is => ?_, ?_, ?_⟩
  · exact absurd (undecided.symm.trans (roles.trying a is)) nofun
  · exact absurd (undecided.symm.trans (roles.owing a is).1) nofun
  · by_contra some
    exact absurd (undecided.symm.trans (roles.noticed some)) nofun
  · by_contra started
    exact absurd (undecided.symm.trans (roles.started started)) nofun

variable {decided : Approval}

theorem Roles.decide (roles : Roles row w) {decision : ApprovalDecision}
    (wrote : Decided w.row decided decision) : Roles row { w with row := decided } := by
  obtain ⟨trying, owing, none, unstarted⟩ := roles.undecided wrote.undecided
  exact {
    origin := wrote.origin.trans roles.origin
    enqueued := wrote.enqueued.trans roles.enqueued
    started := fun started => absurd (wrote.executionStatus.trans unstarted) started
    trying := fun a is => absurd is (trying a)
    owing := fun a is => absurd is (owing a)
    owedOnce := fun a _ is => absurd is (owing a)
    noticedOnce := roles.noticedOnce
    noticed := fun some => absurd none some
    claimedUnder := roles.claimedUnder
    approved := roles.approved
    fenced := roles.fenced }

theorem Roles.owed (roles : Roles row w) (flight : Nat) (wrote : Decided w.row decided .rejected) :
    Roles row ({ w with row := decided }.fly flight (World.owed decided)) := by
  have roles' := roles.decide wrote
  obtain ⟨-, nobody, none, -⟩ := roles.undecided wrote.undecided
  unfold World.owed
  split_ifs with agent
  · exact {
      origin := roles'.origin
      enqueued := roles'.enqueued
      started := roles'.started
      trying := fun a is => roles'.trying a (flights_fly is nofun).2
      owing := fun _ _ => ⟨wrote.decision, none⟩
      owedOnce := by
        have only : ∀ a, ({ w with row := decided }.fly flight Flight.rejecting).flights a
            = .rejecting → a = flight := by
          intro a is
          by_contra other
          simp only [World.fly, Function.update_of_ne other] at is
          exact nobody a is
        intro a b left right
        exact (only a left).trans (only b right).symm
      noticedOnce := roles'.noticedOnce
      noticed := roles'.noticed
      claimedUnder := fun a generation is => roles'.claimedUnder a generation (flights_fly is nofun).2
      approved := roles'.approved
      fenced := roles'.fenced }
  · exact roles'.fly flight .idle nofun nofun nofun

theorem Roles.notice (roles : Roles row w) (resultMessageId : Nat)
    (rejecting : w.flights flight = .rejecting) :
    Roles row { (w.write (attachResultMessageWith w.row.intent resultMessageId)).fly flight .idle with
      notices := w.notices + 1 } := by
  obtain ⟨rejected, none⟩ := roles.owing flight rejecting
  have nobody : ∀ a, ((w.write (attachResultMessageWith w.row.intent resultMessageId)).fly flight
      .idle).flights a ≠ .rejecting := by
    intro a is
    obtain ⟨other, was⟩ := flights_fly is nofun
    exact other (roles.owedOnce a flight was rejecting)
  exact {
    origin := roles.origin
    enqueued := roles.enqueued
    started := roles.started
    trying := fun a is => roles.trying a (flights_fly is nofun).2
    owing := fun a is => absurd is (nobody a)
    owedOnce := fun a _ is => absurd is (nobody a)
    noticedOnce := by
      show w.notices + 1 ≤ 1
      omega
    noticed := fun _ => rejected
    claimedUnder := fun a generation is => roles.claimedUnder a generation (flights_fly is nofun).2
    approved := roles.approved
    fenced := roles.fenced }

theorem Kept.decision_of_ready (kept : Kept row w) {a : Nat} (ready : w.slot.Ready a) :
    w.row.intent.decision = some .approved := by
  refine kept.started fun unstarted => ?_
  exact (kept.slot.unused (slot_free unstarted)).2.2 a ready

theorem Roles.decision_of_dispatching (roles : Roles row w)
    (dispatching : w.row.intent.executionStatus = .dispatching) :
    w.row.intent.decision = some .approved :=
  roles.started (by rw [dispatching]; nofun)

theorem roles_of_moves (kept : Kept row w) (moves : Moves w w') : Roles row w' := by
  have roles := kept.toRoles
  cases moves with
  | aside found dispatchGeneration same =>
    refine ⟨?_, ?_, ?_, ?_, ?_, roles.owedOnce, roles.noticedOnce, ?_, roles.claimedUnder,
      roles.approved, roles.fenced⟩
    · exact same ▸ roles.origin
    · exact same ▸ roles.enqueued
    · exact same ▸ roles.started
    · exact same ▸ roles.trying
    · exact same ▸ roles.owing
    · exact same ▸ roles.noticed
  | refusePending found decided => exact roles.decide decided
  | approve flight found decided =>
    exact (roles.decide decided).fly flight .approved (fun _ => decided.decision) nofun nofun
  | reject flight found decided => exact roles.owed flight decided
  | resume flight decision => exact roles.fly flight .approved (fun _ => decision) nofun nofun
  | leave flight => exact roles.fly flight .idle nofun nofun nofun
  | restart =>
    exact ⟨roles.origin, roles.enqueued, roles.started, nofun, nofun, nofun, roles.noticedOnce,
      roles.noticed, nofun, roles.approved, roles.fenced⟩
  | claim flight generation claimed trying claims =>
    have decision := roles.trying flight trying
    refine (roles.write claims.toRewritten decision).fly flight _ nofun ?_ nofun
    rintro _ ⟨⟩ studio
    rw [← roles.enqueued]
    exact claims.fenced (roles.origin.trans studio)
  | stop flight claimed trying unstarted rewritten same =>
    have decision := roles.trying flight trying
    exact ((roles.write rewritten decision).fly flight .stopped nofun nofun nofun).count _ _
  | refuseAtGate flight refused unstarted decision rewritten =>
    exact (((roles.write rewritten decision).count _ _).fly flight .idle nofun nofun nofun).count
      _ _
  | refuseUnstarted refused unstarted decision rewritten =>
    exact (roles.write rewritten decision).count _ _
  | refuseCall flight generation ready =>
    exact (roles.fly flight (.returned .failed) nofun nofun nofun).count _ _
  | invoke flight generation ready =>
    have flown := roles.fly flight .running nofun nofun nofun
    refine ⟨flown.origin, flown.enqueued, flown.started, flown.trying, flown.owing, flown.owedOnce,
      flown.noticedOnce, flown.noticed, flown.claimedUnder, ?_, ?_⟩
    · intro invocation made
      rcases List.mem_append.1 made with before | now
      · exact roles.approved invocation before
      · rw [List.mem_singleton.1 now]
        exact kept.decision_of_ready (ready_of_claimed ready)
    · intro invocation made
      rcases List.mem_append.1 made with before | now
      · exact roles.fenced invocation before
      · rw [List.mem_singleton.1 now]
        exact roles.claimedUnder flight generation ready
  | returns flight status running => exact roles.fly flight (.returned status) nofun nofun nofun
  | settle flight status settled dispatching rewritten =>
    have decision := roles.decision_of_dispatching dispatching
    exact ((roles.write rewritten decision).count _ _).fly flight .idle nofun nofun nofun
  | abandon written dispatching rewritten =>
    exact (roles.write rewritten (roles.decision_of_dispatching dispatching)).count _ _
  | recordRejection flight resultMessageId rejecting => exact roles.notice resultMessageId rejecting

theorem Kept.step (kept : Kept row w) (codec : SettlementCodec) (event : Event) :
    Kept row (w.step codec event) where
  toRoles := roles_of_moves kept (moves_step w event)
  slot := kept.slot.steps (steps_of_moves (moves_step w event))

theorem kept_enqueued {now : Instant} {approvalId : JsString} {input : EnqueueApprovalInput}
    {verdict : EnqueueGateVerdict}
    (enqueues : enqueueApprovalIntentWithGate now approvalId input verdict = some row)
    (dispatchGeneration : Int) : Kept row (enqueuedWorld row dispatchGeneration) := by
  have unstarted : row.intent.executionStatus = .notStarted := by
    cases verdict with
    | refused reason => cases enqueues
    | clear generation | autoRejected runStatus =>
      obtain rfl := Option.some.inj enqueues
      rfl
  exact {
    origin := rfl
    enqueued := rfl
    started := fun started => absurd unstarted started
    trying := nofun
    owing := nofun
    owedOnce := nofun
    noticedOnce := Nat.zero_le 1
    noticed := fun some => absurd rfl some
    claimedUnder := nofun
    approved := nofun
    fenced := nofun
    slot := .fresh (fun _ => nofun) rfl rfl rfl }

/-! ## At most once -/

/-- What the claim on the slot is for: one invocation, of an approved row, under the generation of
its enqueue, never beside a refusal, and one outcome. -/
structure DispatchedOnce (row : Approval) (w : World) : Prop where
  once : w.invocations.length ≤ 1
  approved : ∀ invocation ∈ w.invocations, invocation.decision = some .approved
  fenced : ∀ invocation ∈ w.invocations, Fenced row.intent invocation.claimedUnder
  exclusive : w.refusals ≠ 0 ∨ w.row.intent.decision ≠ some .approved → w.invocations = []
  oneOutcome : w.records.length + w.notices ≤ 1

theorem Kept.dispatchedOnce (kept : Kept row w) : DispatchedOnce row w where
  once := (Nat.le_add_right _ _).trans kept.slot.once
  approved := kept.approved
  fenced := kept.fenced
  exclusive refused := by
    have spent : w.invocations.length + w.refusals ≤ 1 := kept.slot.once
    by_contra some
    have used : w.invocations.length ≠ 0 := fun none => some (List.eq_nil_of_length_eq_zero none)
    rcases refused with refused | undecided
    · omega
    · refine undecided (kept.started fun unstarted => ?_)
      exact used (kept.slot.unused (slot_free unstarted)).1
  oneOutcome := by
    have recorded : w.records.length ≤ 1 := kept.slot.settledOnce
    have noticed := kept.noticedOnce
    by_contra two
    have rejected := kept.noticed (by omega)
    have unrecorded : w.records.length = 0 := by
      refine kept.slot.unrecorded fun status settled => ?_
      have started := kept.started (by
        rw [slotPhase_eq_settled.1 settled]
        cases status <;> nofun)
      rw [started] at rejected
      cases rejected
    omega

/-- How many outcomes were committed. -/
def World.outcomes (w : World) : Nat := w.records.length + w.notices

theorem outcome_of_moves (moves : Moves w w') :
    (w'.outcomes = w.outcomes ∧ outcome w'.row.intent = outcome w.row.intent)
      ∨ w'.outcomes = w.outcomes + 1 := by
  have recorded : ∀ status : SettledStatus,
      (w.records ++ [status]).length + w.notices = w.records.length + w.notices + 1 := by
    intro status
    rw [List.length_append, List.length_singleton]
    omega
  cases moves with
  | aside row dispatchGeneration same => exact Or.inl ⟨rfl, congrArg outcome same⟩
  | refusePending row decided | approve flight row decided | reject flight row decided =>
    exact Or.inl ⟨rfl, decided.outcome⟩
  | resume flight decision => exact Or.inl ⟨rfl, rfl⟩
  | leave flight => exact Or.inl ⟨rfl, rfl⟩
  | restart => exact Or.inl ⟨rfl, rfl⟩
  | claim flight generation claimed trying claims => exact Or.inl ⟨rfl, claims.outcome⟩
  | stop flight claimed trying unstarted rewritten same => exact Or.inl ⟨rfl, same⟩
  | refuseAtGate flight refused unstarted decision rewritten => exact Or.inr (recorded .failed)
  | refuseUnstarted refused unstarted decision rewritten => exact Or.inr (recorded .failed)
  | refuseCall flight generation ready => exact Or.inl ⟨rfl, rfl⟩
  | invoke flight generation ready => exact Or.inl ⟨rfl, rfl⟩
  | returns flight status running => exact Or.inl ⟨rfl, rfl⟩
  | settle flight status settled dispatching rewritten => exact Or.inr (recorded status)
  | abandon written dispatching rewritten => exact Or.inr (recorded .indeterminate)
  | recordRejection flight resultMessageId rejecting => exact Or.inr (Nat.add_assoc _ _ _).symm

structure Stays (w w' : World) : Prop where
  settled : ∀ status : SettledStatus, w.row.intent.executionStatus = status.executionStatus →
    w'.row.intent.executionStatus = status.executionStatus
  outcomes : w.outcomes ≤ w'.outcomes
  outcome : w'.outcomes = w.outcomes → outcome w'.row.intent = outcome w.row.intent

theorem Stays.refl (w : World) : Stays w w := ⟨fun _ => id, le_rfl, fun _ => rfl⟩

theorem Stays.trans {first second third : World} (before : Stays first second)
    (after : Stays second third) : Stays first third where
  settled status is := after.settled status (before.settled status is)
  outcomes := before.outcomes.trans after.outcomes
  outcome same := by
    have left := before.outcomes
    have right := after.outcomes
    exact (after.outcome (by omega)).trans (before.outcome (by omega))

theorem stays_of_moves (moves : Moves w w') : Stays w w' where
  settled status is := slotPhase_eq_settled.1
    (Slot.settled_steps (slotPhase_eq_settled.2 is) (steps_of_moves moves))
  outcomes := by
    rcases outcome_of_moves moves with ⟨same, -⟩ | more
    · omega
    · omega
  outcome same := by
    rcases outcome_of_moves moves with ⟨-, kept⟩ | more
    · exact kept
    · omega

/-- Whatever order decisions, claims, passes, refusals and restarts come in, the tool of an
approval is invoked at most once, and what was settled or committed for it stays. -/
theorem dispatched_once {now : Instant} {approvalId : JsString} {input : EnqueueApprovalInput}
    {verdict : EnqueueGateVerdict}
    (enqueues : enqueueApprovalIntentWithGate now approvalId input verdict = some row)
    (codec : SettlementCodec) (dispatchGeneration : Int) (events later : List Event) :
    DispatchedOnce row (run (World.step codec) (enqueuedWorld row dispatchGeneration) events)
      ∧ Stays (run (World.step codec) (enqueuedWorld row dispatchGeneration) events)
        (run (World.step codec) (enqueuedWorld row dispatchGeneration) (events ++ later)) := by
  constructor
  · have kept : Kept row (run (World.step codec) (enqueuedWorld row dispatchGeneration) events) :=
      run_induction (fun _ event kept => kept.step codec event)
        (kept_enqueued enqueues dispatchGeneration) events
    exact kept.dispatchedOnce
  · rw [run_append]
    exact run_relates Stays.refl (fun _ _ _ => Stays.trans)
      (fun w event => stays_of_moves (moves_step w event)) _ later

/-- An agent's call that was enqueued and awaits a decision. -/
def awaiting : EnqueueApprovalInput where
  sessionId := JsString.ofString "s"
  missionRunId := none
  permission := .restricted
  origin := .agent
  projectId := none
  scopeVersion := none
  expiresAt := 100

/-- It is approved, and the call that approved it races a pass that resumes it. -/
def raced : List Event :=
  [.approve 0 10 ⟨.restricted, none, none⟩, .resume 1, .claimSlot 1 11 false, .claimSlot 0 12 false,
    .invoke 0, .invoke 1]

/-- The two calls of a race invoke the tool once. -/
theorem dispatched_once_raced :
    ∃ codec, ∃ row : Approval, DispatchedOnce row (run (World.step codec) (enqueuedWorld row 0) raced)
      ∧ (run (World.step codec) (enqueuedWorld row 0) raced).invocations
        = [⟨some .approved, none⟩] :=
  ⟨⟨fun _ output => output, id⟩, enqueued 1 (JsString.ofString "a") awaiting none,
    (dispatched_once (rfl : enqueueApprovalIntentWithGate 1 (JsString.ofString "a") awaiting
      (.clear none) = some _) _ 0 raced []).1, by decide⟩

end Vex.Approvals.Dispatch
