import Vex.Library.Tokens
import Vex.Runtime.WakeExecutor

/-!
# Each wake row starts one slice

The statements on the table change pending rows only (`Amends`), so a row that was settled
stays as it is, and a session has one pending row in every run.

The id of a row that a pass has claimed is a token of the pass, which it spends when it starts
the slice: a run's row is claimed by `claimDue`, a session's row with its lease. A row is
claimed while it is pending and is settled by its claim.
-/

namespace Vex.Runtime

open Vex.Library

/-! ## Statements -/

def Settled (wakes : WakeTable) (id : JsString) : Prop :=
  ∃ row ∈ wakes.rows, row.id = id ∧ row.status ≠ .pending

def OnePending (wakes : WakeTable) : Prop :=
  ∀ row ∈ wakes.rows, ∀ other ∈ wakes.rows, row.status = .pending → other.status = .pending →
    row.sessionId = other.sessionId → row = other

/-- What a statement may do to a row. -/
structure Touches (change : WakeRow → WakeRow) : Prop where
  id : ∀ row, (change row).id = row.id
  sessionId : ∀ row, (change row).sessionId = row.sessionId
  missionRunId : ∀ row, (change row).missionRunId = row.missionRunId
  settled : ∀ row, row.status ≠ .pending → change row = row

/-- The rows after statements that insert none. -/
def Amends (wakes wakes' : WakeTable) : Prop :=
  ∃ change, Touches change ∧ wakes'.rows = wakes.rows.map change

theorem touches_settle (which : WakeRow → Bool) (status : WakeStatus) :
    Touches (WakeRow.settle which status) where
  id := WakeRow.settle_id which status
  sessionId row := by
    unfold WakeRow.settle
    split <;> rfl
  missionRunId row := by
    unfold WakeRow.settle
    split <;> rfl
  settled row notPending := if_neg fun both => notPending both.1

theorem touches_postpone (wakeId : JsString) (dueAt : WakeRow → Instant) (attempt : Option Nat) :
    Touches fun row => row.postpone wakeId (dueAt row) attempt where
  id row := by
    unfold WakeRow.postpone
    split <;> rfl
  sessionId row := by
    unfold WakeRow.postpone
    split <;> rfl
  missionRunId row := by
    unfold WakeRow.postpone
    split <;> rfl
  settled row notPending := if_neg fun both => notPending both.2

theorem amends_refl (wakes : WakeTable) : Amends wakes wakes :=
  ⟨fun row => row, ⟨fun _ => rfl, fun _ => rfl, fun _ => rfl, fun _ _ => rfl⟩,
    (List.map_id' _).symm⟩

theorem amends_settle (wakes : WakeTable) (which : WakeRow → Bool) (status : WakeStatus) :
    Amends wakes (settle wakes which status) :=
  ⟨_, touches_settle which status, rfl⟩

theorem amends_defer (wakes : WakeTable) (wakeId : JsString) (dueAt : Instant) (attempt : Nat) :
    Amends wakes (deferLockedWith wakes wakeId dueAt attempt) :=
  ⟨_, touches_postpone wakeId (fun _ => dueAt) (some attempt), rfl⟩

theorem amends_promote (wakes : WakeTable) (now : Instant) (wakeId : JsString) :
    Amends wakes (promotePendingWake wakes now wakeId) :=
  ⟨_, touches_postpone wakeId (fun row => min row.dueAt now) none, rfl⟩

variable {wakes : WakeTable}

variable {wakes' : WakeTable}

theorem Amends.trans {wakes'' : WakeTable} (first : Amends wakes wakes')
    (second : Amends wakes' wakes'') : Amends wakes wakes'' := by
  obtain ⟨change, touches, rows⟩ := first
  obtain ⟨change', touches', rows'⟩ := second
  refine ⟨change' ∘ change, ?_, by rw [rows', rows, List.map_map]⟩
  constructor
  · intro row
    exact (touches'.id _).trans (touches.id _)
  · intro row
    exact (touches'.sessionId _).trans (touches.sessionId _)
  · intro row
    exact (touches'.missionRunId _).trans (touches.missionRunId _)
  · intro row notPending
    have same := touches.settled row notPending
    rw [Function.comp_apply, same, touches'.settled row notPending]

theorem Amends.settled (amends : Amends wakes wakes') {id : JsString} (settled : Settled wakes id) :
    Settled wakes' id := by
  obtain ⟨change, touches, rows⟩ := amends
  obtain ⟨row, member, rfl, notPending⟩ := settled
  refine ⟨row, ?_, rfl, notPending⟩
  rw [rows]
  exact List.mem_map.2 ⟨row, member, touches.settled row notPending⟩

theorem Amends.onePending (amends : Amends wakes wakes') (single : OnePending wakes) :
    OnePending wakes' := by
  obtain ⟨change, touches, rows⟩ := amends
  have wasPending : ∀ row, (change row).status = .pending → row.status = .pending := by
    intro row pending
    by_contra notPending
    rw [touches.settled row notPending] at pending
    exact notPending pending
  intro row member other member' pending pending' same
  rw [rows] at member member'
  obtain ⟨old, oldMember, rfl⟩ := List.mem_map.1 member
  obtain ⟨old', oldMember', rfl⟩ := List.mem_map.1 member'
  rw [touches.sessionId, touches.sessionId] at same
  rw [single old oldMember old' oldMember' (wasPending _ pending) (wasPending _ pending') same]

theorem enqueue_rows (wakes : WakeTable) (input : EnqueueInput) (id : JsString) :
    (enqueue wakes input id).1 = wakes ∨
      getPendingForSession wakes input.sessionId = none ∧ wakes.find? id = none ∧
        (enqueue wakes input id).1 = wakes.put (input.row id) := by
  unfold enqueue
  split_ifs with taken
  · exact .inl rfl
  · rw [Bool.or_eq_true, not_or, Bool.not_eq_true, Bool.not_eq_true, Option.isSome_eq_false_iff,
      Option.isSome_eq_false_iff, Option.isNone_iff_eq_none, Option.isNone_iff_eq_none] at taken
    exact .inr ⟨taken.1, taken.2, rfl⟩

variable {row : WakeRow}

theorem mem_put_fresh {old : WakeRow} (fresh : wakes.find? row.id = none)
    (member : old ∈ wakes.rows) : old ∈ (wakes.put row).rows := by
  refine Table.mem_put.2 (.inr ⟨member, fun same => ?_⟩)
  have found : wakes.find? row.id = some old := Table.find?_eq_some.2 ⟨member, same⟩
  rw [fresh] at found
  cases found

theorem settled_enqueue {input : EnqueueInput} {id other : JsString} (settled : Settled wakes other)
    :
    Settled (enqueue wakes input id).1 other := by
  rcases enqueue_rows wakes input id with same | ⟨-, fresh, inserted⟩
  · rwa [same]
  · obtain ⟨row, member, key, notPending⟩ := settled
    rw [inserted]
    exact ⟨row, mem_put_fresh fresh member, key, notPending⟩

theorem onePending_enqueue (single : OnePending wakes) (input : EnqueueInput) (id : JsString) :
    OnePending (enqueue wakes input id).1 := by
  rcases enqueue_rows wakes input id with same | ⟨none, -, inserted⟩
  · rwa [same]
  · -- no row of the session was pending
    have alone : ∀ row ∈ wakes.rows, row.status = .pending → row.sessionId ≠ input.sessionId := by
      intro row member pending same
      have missed := List.find?_eq_none.1 none row member
      simp [same, pending] at missed
    rw [inserted]
    intro row member other member' pending pending' same
    rcases Table.mem_put.1 member with rfl | ⟨old, -⟩ <;>
      rcases Table.mem_put.1 member' with rfl | ⟨old', -⟩
    · rfl
    · exact absurd same.symm (alone other old' pending')
    · exact absurd same (alone row old pending)
    · exact single row old other old' pending pending' same

/-! ## Claims -/

variable {now : Instant} {input : AcquireInput}

variable {claimed : Database} {sessionId : JsString} {fromStatuses : List MissionRunStatus}

theorem claimRun_ok {db : Database} {runId : JsString}
    (ok : claimRunLeaseAndFlipToRunning db now sessionId runId fromStatuses input = .ok claimed) :
    runRefusal fromStatuses (db.runs runId) = none ∧
    leaseRefusal now input.ownerId (db.leases sessionId) = none ∧
    claimed.runs = (db.setStatus runId .running).runs ∧
    claimed.wakes = if db.Is runId .pausedWake then cancelForSession db.wakes sessionId
      else db.wakes := by
  unfold claimRunLeaseAndFlipToRunning at ok
  cases refused : runRefusal fromStatuses (db.runs runId) with
  | some refusal => simp only [refused, reduceCtorEq] at ok
  | none =>
    cases busy : leaseRefusal now input.ownerId (db.leases sessionId) with
    | some refusal => simp only [refused, busy, reduceCtorEq] at ok
    | none =>
      simp only [refused, busy, Except.ok.injEq] at ok
      subst ok
      exact ⟨rfl, rfl, rfl, rfl⟩

theorem claimRun_amends {db : Database} {runId : JsString}
    (ok : claimRunLeaseAndFlipToRunning db now sessionId runId fromStatuses input = .ok claimed) :
    Amends db.wakes claimed.wakes := by
  rw [(claimRun_ok ok).2.2.2]
  split_ifs
  · exact amends_settle _ _ _
  · exact amends_refl _

theorem claimAutoRetry_ok {db : Database} {runId : JsString} {expectedAttempt : Option Nat}
    (ok : claimRunForAutoRetry db now sessionId runId expectedAttempt input = .ok claimed) :
    db.Is runId .pausedError ∧ claimed.runs = (db.setStatus runId .running).runs ∧
      claimed.wakes = db.wakes := by
  unfold claimRunForAutoRetry at ok
  split at ok
  · cases ok
  · rename_i attempt
    split at ok
    · cases ok
    · rename_i eligible
      split at ok
      · cases ok
      · cases ok
        refine ⟨?_, rfl, rfl⟩
        unfold autoRetryRefusal at eligible
        split at eligible
        · cases eligible
        · rename_i run found
          split_ifs at eligible with _ status
          rw [Database.Is, found, Option.map_some, not_not.1 status]

theorem claimSessionWake_cases {db : Database} {tickNow : Instant} {wakeId : JsString}
    {outcome : ClaimSessionWakeOutcome}
    (claim : claimSessionWakeAtomically db now tickNow wakeId input = (claimed, outcome)) :
    claimed.runs = db.runs ∧ (outcome ≠ .claimed ∧ (claimed.wakes = db.wakes ∨
          ∃ dueAt attempt, claimed.wakes = deferLockedWith db.wakes wakeId dueAt attempt) ∨
        outcome = .claimed ∧ claimed.wakes = consumeLockedWith db.wakes wakeId ∧
          ∃ row ∈ db.wakes.rows, row.id = wakeId ∧ row.status = .pending ∧
            row.missionRunId = none) := by
  unfold claimSessionWakeAtomically at claim
  cases lock : lockDueSessionScopedWith db.wakes wakeId tickNow with
  | none =>
    simp only [lock, Prod.mk.injEq] at claim
    obtain ⟨rfl, rfl⟩ := claim
    exact ⟨rfl, .inl ⟨nofun, .inl rfl⟩⟩
  | some row =>
    obtain ⟨found, is⟩ := Option.filter_eq_some_iff.1 lock
    obtain ⟨member, rfl⟩ := Table.find?_eq_some.1 found
    simp only [Bool.and_eq_true, decide_eq_true_eq, Option.isNone_iff_eq_none] at is
    cases busy : leaseRefusal now input.ownerId (db.leases row.sessionId) with
    | some refusal =>
      simp only [lock, busy, Prod.mk.injEq] at claim
      obtain ⟨rfl, rfl⟩ := claim
      exact ⟨rfl, .inl ⟨nofun, .inr ⟨_, _, rfl⟩⟩⟩
    | none =>
      simp only [lock, busy, Prod.mk.injEq] at claim
      obtain ⟨rfl, rfl⟩ := claim
      exact ⟨rfl, .inr ⟨rfl, rfl, row, member, rfl, is.1.1, is.1.2⟩⟩

/-! ## What a pass does -/

/-- What `advance` leads to, for a pass that is there. -/
inductive Advanced (s : World) (p : Nat) (now : Instant) (throws : Bool) (pass : Pass) :
    World → Prop where
  | ended (why : pass.phase = .listing ∧ throws = true ∨ pass.phase = .next ∧ pass.queue = []) :
      Advanced s p now throws pass (s.move p none s.db)
  | listed (phase : pass.phase = .listing) :
      Advanced s p now throws pass (s.move p (some { pass with
          phase := .next
          queue := pass.queue ++ listDueSessionScoped s.db.wakes pass.now pass.limit }) s.db)
  /-- A session's row that is not claimed. -/
  | passed {wake : WakeRow} {rest : List WakeRow} {db : Database} (phase : pass.phase = .next)
      (queue : pass.queue = wake :: rest) (own : wake.missionRunId = none)
      (runs : db.runs = s.db.runs)
      (wakes : db.wakes = s.db.wakes ∨
        ∃ dueAt attempt, db.wakes = deferLockedWith s.db.wakes wake.id dueAt attempt) :
      Advanced s p now throws pass (s.handle p { pass with queue := rest } (db, .next))
  /-- A session's row that is claimed. -/
  | continued {wake : WakeRow} {rest : List WakeRow} {db : Database} (phase : pass.phase = .next)
      (queue : pass.queue = wake :: rest) (own : wake.missionRunId = none)
      (runs : db.runs = s.db.runs) (wakes : db.wakes = consumeLockedWith s.db.wakes wake.id)
      (row : ∃ row ∈ s.db.wakes.rows, row.id = wake.id ∧ row.status = .pending ∧
        row.missionRunId = none) :
      Advanced s p now throws pass (s.handle p { pass with queue := rest }
        (db, .claimed wake (wakeExecutorOwner wake)))
  /-- A run's row, whose run is read. -/
  | read {wake : WakeRow} {rest : List WakeRow} {runId : JsString} {phase' : PassPhase}
      (phase : pass.phase = .next) (queue : pass.queue = wake :: rest)
      (own : wake.missionRunId = some runId)
      (route : phase' = if throws then .next else routeWake wake (s.db.runs runId)) :
      Advanced s p now throws pass (s.handle p { pass with queue := rest } (s.db, phase'))
  /-- A claim that throws or is refused. -/
  | refused {wake : WakeRow} {runId : JsString} (own : wake.missionRunId = some runId)
      (phase : pass.phase = .checked wake ∧
          (throws = true ∨ ∃ refusal, claimSleeping s.db now wake runId = .error refusal) ∨
        pass.phase = .retrying wake) :
      Advanced s p now throws pass (s.handle p pass (s.db, .next))
  | resumed {wake : WakeRow} {runId : JsString} {db : Database}
      (own : wake.missionRunId = some runId) (phase : pass.phase = .checked wake)
      (calm : throws = false) (claim : claimSleeping s.db now wake runId = .ok db) :
      Advanced s p now throws pass (s.handle p pass (db, .claimed wake (wakeExecutorOwner wake)))
  | retried {wake : WakeRow} {runId : JsString} {db : Database}
      (own : wake.missionRunId = some runId) (phase : pass.phase = .retrying wake)
      (claim : claimFailed s.db now wake runId = .ok db) :
      Advanced s p now throws pass (s.handle p pass (db, .claimed wake (autoRetryOwner wake)))
  | started {wake : WakeRow} {ownerId : JsString} (phase : pass.phase = .claimed wake ownerId)
      (calm : throws = false) :
      Advanced s p now throws pass { s.handle p pass (s.db, .slice wake ownerId) with
        started := s.started ++ [wake.id] }
  | unwound {wake : WakeRow} {ownerId : JsString}
      (phase : pass.phase = .claimed wake ownerId ∧ throws = true ∨
        pass.phase = .slice wake ownerId) :
      Advanced s p now throws pass (s.handle p pass (s.db, .releasing wake ownerId))
  | released {wake : WakeRow} {ownerId : JsString} (phase : pass.phase = .releasing wake ownerId) :
      Advanced s p now throws pass (s.handle p pass
        (s.db.release wake.sessionId ownerId throws, .next))

variable {p : Nat} {throws : Bool}

theorem advance_cases {s s' : World} (went : s.advance p now throws = some s') :
    ∃ pass, s.passes p = some pass ∧ Advanced s p now throws pass s' := by
  unfold World.advance at went
  split at went
  · cases went
  rename_i pass at_
  refine ⟨pass, at_, ?_⟩
  split at went
  · rename_i phase
    cases went
    cases throws with
    | true => exact .ended (.inl ⟨phase, rfl⟩)
    | false => exact .listed phase
  · rename_i phase
    split at went
    · rename_i queue
      cases went
      exact .ended (.inr ⟨phase, queue⟩)
    · rename_i wake rest queue
      cases went
      exact handled phase queue
  · rename_i wake phase
    split at went
    · cases went
    · rename_i runId own
      cases went
      unfold claimHandled
      split
      · rename_i db claim
        cases throws with
        | true => exact .refused own (.inl ⟨phase, .inl rfl⟩)
        | false => exact .resumed own phase rfl claim
      · rename_i refusal claim
        exact .refused own (.inl ⟨phase, .inr ⟨refusal, claim⟩⟩)
  · rename_i wake phase
    split at went
    · cases went
    · rename_i runId own
      cases went
      unfold claimHandled
      split
      · rename_i db claim
        cases throws with
        | true => exact .refused own (.inr phase)
        | false => exact .retried own phase claim
      · exact .refused own (.inr phase)
  · rename_i wake ownerId phase
    cases throws with
    | true =>
      cases went
      exact .unwound (.inl ⟨phase, rfl⟩)
    | false =>
      cases went
      exact .started phase rfl
  · rename_i wake ownerId phase
    cases went
    exact .unwound (.inr phase)
  · rename_i wake ownerId phase
    cases went
    exact .released phase
where
  handled {s : World} {p : Nat} {now : Instant} {throws : Bool} {pass : Pass} {wake : WakeRow}
      {rest : List WakeRow} (phase : pass.phase = .next) (queue : pass.queue = wake :: rest) :
      Advanced s p now throws pass (s.handle p { pass with queue := rest }
        (handleClaimed s.db now pass.now wake throws)) := by
    unfold handleClaimed
    cases own : wake.missionRunId with
    | some runId =>
      cases throws with
      | true | false => exact .read phase queue own rfl
    | none =>
      cases throws with
      | true => exact .passed phase queue own rfl (.inl rfl)
      | false =>
        simp only [Bool.false_eq_true, if_false, handleAgentSessionClaimed]
        cases claim : claimSessionWakeAtomically s.db now pass.now wake.id
          (wakeLease none (wakeExecutorOwner wake)) with
        | mk claimed outcome =>
          obtain ⟨runs, ⟨missed, wakes⟩ | ⟨hit, wakes, row⟩⟩ := claimSessionWake_cases claim
          · rw [if_neg missed]
            exact .passed phase queue own runs wakes
          · rw [if_pos hit]
            exact .continued phase queue own runs wakes row

/-! ## Tokens -/

/-- The row that was claimed and whose slice was not started. -/
def PassPhase.unstarted : PassPhase → Option WakeRow
  | .checked wake | .retrying wake | .claimed wake _ => some wake
  | .listing | .next | .slice _ _ | .releasing _ _ => none

/-- The rows that a pass has claimed and not started: of its queue, those of runs. -/
def Pass.claims (pass : Pass) : List WakeRow :=
  pass.phase.unstarted.toList ++ pass.queue.filter (·.missionRunId.isSome)

def tokens : Option Pass → List JsString
  | none => []
  | some pass => pass.claims.map (·.id)

def World.tokens (s : World) (p : Nat) : List JsString := Runtime.tokens (s.passes p)

structure Once (s : World) : Prop where
  single : OnePending s.db.wakes
  exclusive : Exclusive (Settled s.db.wakes) s.tokens s.started

theorem tokens_move (s : World) (p : Nat) (pass : Option Pass) (db : Database) :
    (s.move p pass db).tokens = Function.update s.tokens p (tokens pass) := by
  funext q
  by_cases same : q = p
  · subst same
    simp only [World.tokens, World.move, Function.update_self]
  · simp only [World.tokens, World.move, Function.update_of_ne same]

namespace Once

variable {s : World}

variable {p : Nat} {pass : Option Pass} {db : Database}

theorem keep (once : Once s) (amends : Amends s.db.wakes db.wakes)
    (part : (tokens pass).Sublist (s.tokens p)) :
    Once (s.move p pass db) where
  single := amends.onePending once.single
  exclusive := by
    rw [tokens_move]
    exact once.exclusive.keep p part fun _ => amends.settled

theorem same (once : Once s) (amends : Amends s.db.wakes db.wakes) (same : tokens pass = s.tokens p)
    :
    Once (s.move p pass db) :=
  once.keep amends (by rw [same])

theorem amend (once : Once s) (amends : Amends s.db.wakes db.wakes) : Once { s with db := db } where
  single := amends.onePending once.single
  exclusive := once.exclusive.mono fun _ => amends.settled

theorem enqueue (once : Once s) (id : JsString) (input : EnqueueInput) :
    Once (s.enqueue id input) where
  single := onePending_enqueue once.single input id
  exclusive := once.exclusive.mono fun _ => settled_enqueue

end Once

theorem not_settled (member : row ∈ wakes.rows) (pending : row.status = .pending) :
    ¬Settled wakes row.id := by
  rintro ⟨other, member', same, notPending⟩
  rw [Table.eq_of_key member' member same] at notPending
  exact notPending pending

theorem mem_dueRows {ofRuns : Bool} (member : row ∈ dueRows wakes now ofRuns) :
    row ∈ wakes.rows ∧ row.status = .pending ∧ row.missionRunId.isSome = ofRuns := by
  have found := List.mem_filter.1 ((List.mergeSort_perm _ _).mem_iff.1 member)
  simp only [Bool.and_eq_true, decide_eq_true_eq] at found
  exact ⟨found.1, found.2.1.1, found.2.2⟩

variable {limit : Nat} {locked : List JsString}

theorem mem_pickDue (member : row ∈ pickDue wakes now limit locked) :
    row ∈ wakes.rows ∧ row.status = .pending ∧ row.missionRunId.isSome = true :=
  mem_dueRows (List.mem_filter.1 (List.mem_of_mem_take member)).1

theorem pickDue_ids_nodup (wakes : WakeTable) (now : Instant) (limit : Nat)
    (locked : List JsString) : ((pickDue wakes now limit locked).map WakeRow.id).Nodup := by
  have due : ((dueRows wakes now true).map WakeRow.id).Nodup :=
    ((List.mergeSort_perm _ _).map WakeRow.id).nodup_iff.2
      (wakes.unique.sublist (List.filter_sublist.map WakeRow.id))
  exact due.sublist (((List.take_sublist _ _).trans List.filter_sublist).map WakeRow.id)

theorem settled_settle {which : WakeRow → Bool} {status : WakeStatus} (final : status ≠ .pending)
    (member : row ∈ wakes.rows) (pending : row.status = .pending) (matched : which row = true) :
    Settled (settle wakes which status) row.id := by
  refine ⟨{ row with status := status }, ?_, rfl, final⟩
  exact List.mem_map.2 ⟨row, member, if_pos ⟨pending, matched⟩⟩

theorem once_tick {s s' : World} (went : s.tick p now limit locked = some s') (once : Once s) :
    Once s' := by
  unfold World.tick at went
  split at went
  · cases went
  cases went
  have picked : tokens (some ⟨now, limit, .listing, (claimDue s.db.wakes now limit locked).2⟩) =
      (pickDue s.db.wakes now limit locked).map WakeRow.id := by
    have ofRuns : ((pickDue s.db.wakes now limit locked).map fun row =>
        { row with status := WakeStatus.consumed }).filter (·.missionRunId.isSome) =
        (pickDue s.db.wakes now limit locked).map fun row =>
          { row with status := WakeStatus.consumed } := by
      refine List.filter_eq_self.2 fun row member => ?_
      obtain ⟨old, oldMember, rfl⟩ := List.mem_map.1 member
      exact (mem_pickDue oldMember).2.2
    simp only [tokens, Pass.claims, PassPhase.unstarted, claimDue, Option.toList_none,
      List.nil_append, ofRuns, List.map_map, Function.comp_def]
  have amends : Amends s.db.wakes (claimDue s.db.wakes now limit locked).1 :=
    amends_settle _ _ _
  refine ⟨amends.onePending once.single, ?_⟩
  rw [tokens_move, picked]
  refine once.exclusive.update p (pickDue_ids_nodup _ _ _ _) ?_ (fun _ => amends.settled) ?_
  · intro id member
    obtain ⟨row, found, rfl⟩ := List.mem_map.1 member
    exact .inr (not_settled (mem_pickDue found).1 (mem_pickDue found).2.1)
  · intro id member
    obtain ⟨row, found, rfl⟩ := List.mem_map.1 member
    exact settled_settle (by decide) (mem_pickDue found).1 (mem_pickDue found).2.1
      (decide_eq_true found)

theorem listed_unclaimed (wakes : WakeTable) (now : Instant) (limit : Nat) :
    (listDueSessionScoped wakes now limit).filter (·.missionRunId.isSome) = [] := by
  refine List.filter_eq_nil_iff.2 fun row member isRun => ?_
  rw [(mem_dueRows (List.mem_of_mem_take member)).2.2] at isRun
  cases isRun

theorem routeWake_unstarted (wake : WakeRow) (run : Option MissionRun) :
    (routeWake wake run).unstarted.toList.Sublist [wake] := by
  unfold routeWake
  split
  · exact List.nil_sublist _
  · split_ifs
    · exact List.nil_sublist _
    · exact List.Sublist.refl _
    · exact List.nil_sublist _
    · exact List.Sublist.refl _

theorem release_wakes (db : Database) (sessionId ownerId : JsString) (throws : Bool) :
    (db.release sessionId ownerId throws).wakes = db.wakes := by
  unfold Database.release
  split <;> rfl

theorem once_advance {s s' : World} (went : s.advance p now throws = some s') (once : Once s) :
    Once s' := by
  obtain ⟨pass, found, advanced⟩ := advance_cases went
  have held : s.tokens p = pass.claims.map (·.id) := by
    rw [World.tokens, found, tokens]
  cases advanced with
  | ended why => exact once.keep (amends_refl _) (List.nil_sublist _)
  | listed phase =>
    refine once.same (amends_refl _) ?_
    simp only [held, tokens, Pass.claims, phase, PassPhase.unstarted, List.filter_append,
      listed_unclaimed, List.append_nil]
  | @passed wake rest db phase queue own runs wakes =>
    have amends : Amends s.db.wakes db.wakes := by
      rcases wakes with same | ⟨dueAt, attempt, deferred⟩
      · rw [same]
        exact amends_refl _
      · rw [deferred]
        exact amends_defer _ _ _ _
    refine once.same amends ?_
    simp [held, tokens, Pass.claims, phase, queue, own, PassPhase.unstarted]
  | @continued wake rest db phase queue own runs wakes row =>
    obtain ⟨row, member, same, pending, -⟩ := row
    have amends : Amends s.db.wakes db.wakes := by
      rw [wakes]
      exact amends_settle _ _ _
    have next : tokens (some { pass with
        phase := .claimed wake (wakeExecutorOwner wake)
        queue := rest }) = wake.id :: s.tokens p := by
      simp [held, tokens, Pass.claims, phase, queue, own, PassPhase.unstarted]
    refine ⟨amends.onePending once.single, ?_⟩
    rw [World.handle, tokens_move, next, ← same]
    refine once.exclusive.take p (not_settled member pending) (fun _ => amends.settled) ?_
    rw [show (World.move s p _ db).db.wakes = db.wakes from rfl, wakes]
    exact settled_settle (by decide) member pending (decide_eq_true same)
  | @read wake rest runId phase' phase queue own route =>
    refine once.keep (amends_refl _) ?_
    have part : phase'.unstarted.toList.Sublist [wake] := by
      rw [route]
      split
      · exact List.nil_sublist _
      · exact routeWake_unstarted wake _
    simpa [held, tokens, Pass.claims, phase, queue, own, PassPhase.unstarted] using
      (part.append (List.Sublist.refl (rest.filter (·.missionRunId.isSome)))).map (·.id)
  | refused own phase | unwound phase =>
    refine once.keep (amends_refl _) ?_
    rcases phase with ⟨phase, -⟩ | phase <;>
      simp [held, tokens, Pass.claims, phase, PassPhase.unstarted]
  | resumed own phase calm claim =>
    refine once.same (claimRun_amends claim) ?_
    simp [held, tokens, Pass.claims, phase, PassPhase.unstarted]
  | retried own phase claim =>
    refine once.same ?_ ?_
    · rw [(claimAutoRetry_ok claim).2.2]
      exact amends_refl _
    · simp [held, tokens, Pass.claims, phase, PassPhase.unstarted]
  | @started wake ownerId phase calm =>
    refine ⟨once.single, ?_⟩
    show Exclusive _ (World.move s p _ s.db).tokens (s.started ++ [wake.id])
    rw [tokens_move]
    refine once.exclusive.spend p ?_
    simp [held, tokens, Pass.claims, phase, PassPhase.unstarted]
  | released phase =>
    refine once.same (release_wakes s.db _ _ throws ▸ amends_refl _) ?_
    simp [held, tokens, Pass.claims, phase, PassPhase.unstarted]

theorem once_apply {s s' : World} {act : Act} (went : s.apply act = some s') (once : Once s) :
    Once s' := by
  cases act with
  | tick p now limit locked => exact once_tick went once
  | advance p now throws => exact once_advance went once
  | crash p =>
    cases went
    exact once.keep (amends_refl _) (List.nil_sublist _)
  | enqueue id input =>
    cases went
    exact once.enqueue id input
  | cancelForSession sessionId | cancelForegroundStoppedSessionWake sessionId =>
    cases went
    exact once.amend (amends_settle _ _ _)
  | promotePendingWake now wakeId =>
    cases went
    exact once.amend (amends_promote _ _ _)
  | park runId =>
    simp only [World.apply, World.park] at went
    split at went
    · cases went
    · split_ifs at went
      cases went
      exact once.amend (amends_refl _)
  | writeRun runId run =>
    simp only [World.apply, World.writeRun] at went
    split_ifs at went
    cases went
    exact once.amend (amends_refl _)
  | resume now sessionId runId fromStatuses input recovers =>
    simp only [World.apply, World.resume] at went
    split at went
    · cases went
    · rename_i claimed claim
      cases went
      refine once.amend ((claimRun_amends claim).trans ?_)
      dsimp only
      split_ifs
      · exact amends_settle _ _ _
      · exact amends_refl _
  | pause sessionId runId =>
    simp only [World.apply, World.pause] at went
    split at went
    · cases went
    · split_ifs at went <;> cases went
      · exact once.amend (amends_settle _ _ _)
      · exact once.amend (amends_refl _)
  | userStop now sessionId runId =>
    simp only [World.apply, World.userStop] at went
    split at went
    · cases went
    · split_ifs at went
      cases went
      exact once.amend (amends_settle _ _ _)
  | writeLease sessionId lease | writePermission sessionId permission =>
    cases went
    exact once.amend (amends_refl _)

end Vex.Runtime
