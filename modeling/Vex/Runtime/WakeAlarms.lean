import Vex.Runtime.WakeOnce

/-!
# A sleeping mission has an alarm

A run that sleeps has an alarm while a row of it is pending or a pass that claimed a row of it
has not finished that row. `claimDue` settles a run's row before the claim of the lease that may
be refused, so a pass that lets go of the row leaves the run asleep with none. `Rings` says of an
act, in the state before it, that it lets go of no last alarm: the claim it makes is not refused,
what it cancels wakes no other run, and no pass dies with a row of a run that sleeps.

Each row starts one slice and a session has one pending row in every run. The alarms are there
in every run whose acts all ring, and a run is shown that sleeps without one.
-/

namespace Vex.Runtime

open Vex.Library

/-! ## Alarms -/

/-- Who keeps a row that is still to be handled: the table, or a pass. -/
inductive Keeper where
  | table
  | pass (p : Nat)
  deriving DecidableEq

def Pass.rows (pass : Pass) : List WakeRow := pass.phase.wake.toList ++ pass.queue

namespace World

variable (s : World)

/-- The row is pending, or a pass has not finished it. -/
def Keeps : Keeper → WakeRow → Prop
  | .table, row => row ∈ s.db.wakes.rows ∧ row.status = .pending
  | .pass p, row => ∃ pass, s.passes p = some pass ∧ row ∈ pass.rows

/-- The run is in `paused_wake`. -/
def Sleeps (runId : JsString) : Prop := s.db.Is runId .pausedWake

def Rung (runId : JsString) : Prop :=
  ∃ keeper row, s.Keeps keeper row ∧ row.missionRunId = some runId

def RungBesides (id runId : JsString) : Prop :=
  ∃ keeper row, s.Keeps keeper row ∧ row.missionRunId = some runId ∧ row.id ≠ id

def RungWithout (p : Nat) (runId : JsString) : Prop :=
  ∃ keeper row, s.Keeps keeper row ∧ row.missionRunId = some runId ∧ keeper ≠ .pass p

/-- A pass has claimed the session's row, and its slice is next. -/
def Delivers (p : Nat) (id : JsString) : Prop :=
  ∃ pass wake ownerId, s.passes p = some pass ∧ pass.phase = .claimed wake ownerId ∧
    wake.missionRunId = none ∧ wake.id = id

/-- A continuation of a session that was accepted and not cancelled is pending, delivered or being
delivered. -/
def Continues : Prop :=
  ∀ row ∈ s.db.wakes.rows, row.missionRunId = none → row.status = .consumed →
    row.id ∈ s.started ∨ ∃ p, s.Delivers p row.id

/-- No mission and no continuation is left without an alarm, each row starts one slice, and a
session has one pending row. -/
structure Alarmed : Prop where
  missions : ∀ runId, s.Sleeps runId → s.Rung runId
  sessions : s.Continues
  startsOnce : s.started.Nodup
  onePending : OnePending s.db.wakes

/-! ## Acts that ring -/

/-- The cancelled rows of the session are the last alarm of no run that sleeps, besides the one
that the act moves on. -/
def Spares (sessionId : JsString) (besides : Option JsString) : Prop :=
  ∀ row ∈ s.db.wakes.rows, row.sessionId = sessionId → row.status = .pending →
    ∀ runId, row.missionRunId = some runId → some runId ≠ besides → s.Sleeps runId →
      s.RungBesides row.id runId

/-- The pass has no last alarm of a run that sleeps. -/
def Spared (p : Nat) : Prop :=
  ∀ pass, s.passes p = some pass → ∀ row ∈ pass.rows, ∀ runId, row.missionRunId = some runId →
    s.Sleeps runId → s.RungWithout p runId

/-- The row is not the last alarm of its run, if that sleeps. -/
def Dispensable (wake : WakeRow) : Prop :=
  ∀ runId, wake.missionRunId = some runId → s.Sleeps runId → s.RungBesides wake.id runId

/-- The next transaction of a pass is taken where it rings: the read of a run that sleeps does not
throw and its row is no automatic retry's, the claim that follows does not throw and finds the
lease free, and the banner of a session does not throw, unless the row can be dispensed with. -/
def AdvanceRings (p : Nat) (now : Instant) (throws : Bool) : Prop :=
  ∀ pass, s.passes p = some pass →
    match pass.phase with
    | .listing => throws = true → s.Spared p
    | .next => ∀ wake ∈ pass.queue.head?, throws = true ∨ wake.autoRetry = true → s.Dispensable wake
    | .checked wake =>
      (throws = true ∨
          leaseRefusal now (wakeExecutorOwner wake) (s.db.leases wake.sessionId) ≠ none →
        s.Dispensable wake) ∧
      (throws = false →
        leaseRefusal now (wakeExecutorOwner wake) (s.db.leases wake.sessionId) = none →
        ∀ runId, wake.missionRunId = some runId → s.Sleeps runId →
          s.Spares wake.sessionId (some runId))
    | .retrying wake | .releasing wake _ => s.Dispensable wake
    | .claimed wake _ => throws = true → wake.missionRunId ≠ none
    | .slice _ _ => True

/-- The act lets go of no last alarm. -/
def Rings (s : World) : Act → Prop
  | .advance p now throws => s.AdvanceRings p now throws
  | .crash p => s.Spared p ∧ ∀ id, ¬s.Delivers p id
  | .cancelForSession sessionId => s.Spares sessionId none
  | .park runId => ∀ run, s.db.runs runId = some run → ¬run.status.Terminal → s.Rung runId
  | .resume now sessionId runId fromStatuses input recovers =>
    runRefusal fromStatuses (s.db.runs runId) = none →
    leaseRefusal now input.ownerId (s.db.leases sessionId) = none →
    recovers = true ∨ s.Sleeps runId → s.Spares sessionId (some runId)
  | .pause sessionId runId => s.Sleeps runId → s.Spares sessionId (some runId)
  | .userStop _ sessionId runId =>
    ∀ run, s.db.runs runId = some run → ¬run.status.Terminal → s.Spares sessionId (some runId)
  | .tick _ _ _ _ | .enqueue _ _ | .cancelForegroundStoppedSessionWake _
  | .promotePendingWake _ _ | .writeRun _ _ | .writeLease _ _ | .writePermission _ _ => True

end World

/-! ## Rows that stay -/

/-- The row is pending after the statement, or another row of its run is. -/
def Carries (wakes : WakeTable) (row : WakeRow) : Prop :=
  ∃ row' ∈ wakes.rows, row'.status = .pending ∧ row'.missionRunId = row.missionRunId

variable {wakes : WakeTable} {row : WakeRow}

theorem carries_self (member : row ∈ wakes.rows) (pending : row.status = .pending) :
    Carries wakes row :=
  ⟨row, member, pending, rfl⟩

variable {which : WakeRow → Bool}

theorem mem_settle (status : WakeStatus) (member : row ∈ wakes.rows) (missed : which row = false) :
    row ∈ (settle wakes which status).rows := by
  have same : WakeRow.settle which status row = row := by simp [WakeRow.settle, missed]
  exact List.mem_map.2 ⟨row, member, same⟩

theorem carries_settle (status : WakeStatus) (member : row ∈ wakes.rows)
    (pending : row.status = .pending) (missed : which row = false) :
    Carries (settle wakes which status) row :=
  carries_self (mem_settle status member missed) pending

variable {wakes' : WakeTable} {wakeId : JsString} {attempt : Option Nat}

theorem carries_postpone (dueAt : WakeRow → Instant)
    (rows : wakes'.rows = wakes.rows.map fun row => row.postpone wakeId (dueAt row) attempt)
    (member : row ∈ wakes.rows) (pending : row.status = .pending) : Carries wakes' row := by
  refine ⟨row.postpone wakeId (dueAt row) attempt, ?_, ?_,
    (touches_postpone wakeId dueAt attempt).missionRunId row⟩
  · rw [rows]
    exact List.mem_map.2 ⟨row, member, rfl⟩
  · unfold WakeRow.postpone
    split
    · exact pending
    · exact pending

theorem carries_enqueue (member : row ∈ wakes.rows) (pending : row.status = .pending)
    (input : EnqueueInput) (id : JsString) : Carries (enqueue wakes input id).1 row := by
  rcases enqueue_rows wakes input id with same | ⟨-, fresh, inserted⟩
  · rw [same]
    exact carries_self member pending
  · rw [inserted]
    exact carries_self (mem_put_fresh fresh member) pending

theorem consumed_settle {status : WakeStatus} (member : row ∈ (settle wakes which status).rows)
    (consumed : row.status = .consumed) :
    row ∈ wakes.rows ∨ status = .consumed ∧ ∃ old ∈ wakes.rows, old.status = .pending ∧
      which old = true ∧ row = { old with status := .consumed } := by
  obtain ⟨old, oldMember, rfl⟩ := List.mem_map.1 member
  unfold WakeRow.settle at consumed ⊢
  split_ifs at consumed ⊢ with matched
  · subst consumed
    exact .inr ⟨rfl, old, oldMember, matched.1, matched.2, rfl⟩
  · exact .inl oldMember

theorem consumed_postpone (dueAt : WakeRow → Instant)
    (rows : wakes'.rows = wakes.rows.map fun row => row.postpone wakeId (dueAt row) attempt)
    (member : row ∈ wakes'.rows) (consumed : row.status = .consumed) : row ∈ wakes.rows := by
  rw [rows] at member
  obtain ⟨old, oldMember, rfl⟩ := List.mem_map.1 member
  unfold WakeRow.postpone at consumed ⊢
  split_ifs at consumed ⊢ with matched
  · rw [matched.2] at consumed
    cases consumed
  · exact oldMember

theorem consumed_cancel (member : row ∈ (settle wakes which .cancelled).rows)
    (consumed : row.status = .consumed) : row ∈ wakes.rows :=
  (consumed_settle member consumed).resolve_right fun new => nomatch new.1

theorem consumed_claimRun {db claimed : Database} {now : Instant} {sessionId runId : JsString}
    {fromStatuses : List MissionRunStatus} {input : AcquireInput}
    (ok : claimRunLeaseAndFlipToRunning db now sessionId runId fromStatuses input = .ok claimed)
    (member : row ∈ claimed.wakes.rows) (consumed : row.status = .consumed) :
    row ∈ db.wakes.rows := by
  rw [(claimRun_ok ok).2.2.2] at member
  split_ifs at member
  · exact consumed_cancel member consumed
  · exact member

theorem consumed_enqueue {input : EnqueueInput} {id : JsString}
    (member : row ∈ (enqueue wakes input id).1.rows) (consumed : row.status = .consumed) :
    row ∈ wakes.rows := by
  rcases enqueue_rows wakes input id with same | ⟨-, -, inserted⟩
  · rwa [same] at member
  · rw [inserted] at member
    rcases Table.mem_put.1 member with rfl | ⟨old, -⟩
    · cases consumed
    · exact old

namespace World

variable {s : World}

variable {runId : JsString}

variable {sessionId : JsString} {besides : Option JsString}

theorem Rung.spared (rung : s.Rung runId) (spares : s.Spares sessionId besides)
    (single : OnePending s.db.wakes) (sleeps : s.Sleeps runId) (other : some runId ≠ besides) :
    ∃ keeper row, s.Keeps keeper row ∧ row.missionRunId = some runId ∧
      (keeper = .table → row.sessionId ≠ sessionId) := by
  obtain ⟨keeper, row, keeps, own⟩ := rung
  by_cases cancelled : keeper = .table ∧ row.sessionId = sessionId
  · obtain ⟨rfl, rfl⟩ := cancelled
    obtain ⟨keeper', row', keeps', own', differs⟩ :=
      spares row keeps.1 rfl keeps.2 runId own other sleeps
    refine ⟨keeper', row', keeps', own', ?_⟩
    rintro rfl same
    exact differs (congrArg WakeRow.id (single row' keeps'.1 row keeps.1 keeps'.2 keeps.2 same))
  · refine ⟨keeper, row, keeps, own, fun isTable same => cancelled ⟨isTable, same⟩⟩

variable {p : Nat} {db : Database} {keeper : Keeper} {row : WakeRow}

theorem Keeps.move {pass : Option Pass} (keeps : s.Keeps keeper row)
    (table : keeper = .table → Carries db.wakes row)
    (own : keeper = .pass p → ∃ next, pass = some next ∧ row ∈ next.rows) :
    ∃ keeper' row', (s.move p pass db).Keeps keeper' row' ∧
      row'.missionRunId = row.missionRunId := by
  cases keeper with
  | table =>
    obtain ⟨row', member, pending, same⟩ := table rfl
    exact ⟨.table, row', ⟨member, pending⟩, same⟩
  | pass q =>
    by_cases isOwn : q = p
    · subst isOwn
      obtain ⟨next, rfl, member⟩ := own rfl
      exact ⟨.pass q, row, ⟨next, Function.update_self .., member⟩, rfl⟩
    · obtain ⟨other, found, member⟩ := keeps
      exact ⟨.pass q, row, ⟨other, (Function.update_of_ne isOwn ..).trans found, member⟩, rfl⟩

variable {before : Pass}

theorem Keeps.rung {pass : Option Pass} (keeps : s.Keeps keeper row)
    (is : row.missionRunId = some runId) (found : s.passes p = some before)
    (table : keeper = .table → Carries db.wakes row)
    (own : row ∈ before.rows → ∃ next, pass = some next ∧ row ∈ next.rows) :
    (s.move p pass db).Rung runId := by
  have moved : ∃ keeper' row', (s.move p pass db).Keeps keeper' row' ∧
      row'.missionRunId = row.missionRunId := by
    refine keeps.move table ?_
    rintro rfl
    obtain ⟨pass', found', member⟩ := keeps
    rw [found] at found'
    cases found'
    exact own member
  obtain ⟨keeper', row', keeps', same⟩ := moved
  exact ⟨keeper', row', keeps', same.trans is⟩

theorem Rung.move {pass : Option Pass} (rung : s.Rung runId) (found : s.passes p = some before)
    (table : ∀ row ∈ s.db.wakes.rows, row.status = .pending → row.missionRunId = some runId →
      Carries db.wakes row) (own : ∀ row ∈ before.rows, row.missionRunId = some runId →
      ∃ next, pass = some next ∧ row ∈ next.rows) : (s.move p pass db).Rung runId := by
  obtain ⟨keeper, row, keeps, is⟩ := rung
  refine keeps.rung is found ?_ fun member => own row member is
  rintro rfl
  exact table row keeps.1 keeps.2 is

theorem Rung.drop {next : Pass} (rung : s.Rung runId) (wake : WakeRow)
    (found : s.passes p = some before) (sleeps : s.Sleeps runId) (dispensable : s.Dispensable wake)
    (same : db.wakes = s.db.wakes) (own : ∀ row ∈ before.rows, row ≠ wake → row ∈ next.rows) :
    (s.move p (some next) db).Rung runId := by
  have another : ∃ keeper row, s.Keeps keeper row ∧ row.missionRunId = some runId ∧ row ≠ wake := by
    by_cases mine : wake.missionRunId = some runId
    · obtain ⟨keeper, row, keeps, is, differs⟩ := dispensable runId mine sleeps
      exact ⟨keeper, row, keeps, is, fun isWake => differs (by rw [isWake])⟩
    · obtain ⟨keeper, row, keeps, is⟩ := rung
      exact ⟨keeper, row, keeps, is, fun isWake => mine (by rw [← isWake, is])⟩
  obtain ⟨keeper, row, keeps, is, differs⟩ := another
  refine keeps.rung is found ?_ fun member => ⟨next, rfl, own row member differs⟩
  rintro rfl
  rw [same]
  exact carries_self keeps.1 keeps.2

theorem Rung.gone (rung : s.Rung runId) (sleeps : s.Sleeps runId) (spared : s.Spared p) :
    (s.move p none s.db).Rung runId := by
  have another : s.RungWithout p runId := by
    obtain ⟨keeper, row, keeps, is⟩ := rung
    by_cases mine : keeper = .pass p
    · subst mine
      obtain ⟨pass, found, member⟩ := keeps
      exact spared pass found row member runId is sleeps
    · exact ⟨keeper, row, keeps, is, mine⟩
  obtain ⟨keeper, row, keeps, is, elsewhere⟩ := another
  have moved : ∃ keeper' row', (s.move p none s.db).Keeps keeper' row' ∧
      row'.missionRunId = row.missionRunId := by
    refine keeps.move ?_ fun isOwn => absurd isOwn elsewhere
    rintro rfl
    exact carries_self keeps.1 keeps.2
  obtain ⟨keeper', row', keeps', same⟩ := moved
  exact ⟨keeper', row', keeps', same.trans is⟩

variable {other : JsString}

theorem sleeps_setStatus (sleeps : (db.setStatus runId .running).Is other .pausedWake) :
    other ≠ runId ∧ db.Is other .pausedWake := by
  unfold Database.Is Database.setStatus at sleeps
  by_cases same : other = runId
  · subst same
    simp only [Function.update_self, Option.map_map, Option.map_eq_some_iff] at sleeps
    obtain ⟨run, -, isRunning⟩ := sleeps
    cases isRunning
  · simp only [Function.update_of_ne same] at sleeps
    exact ⟨same, sleeps⟩

variable {wake : WakeRow}

theorem routeWake_sleeps (sleeps : s.Sleeps runId) (notRetry : wake.autoRetry = false) :
    routeWake wake (s.db.runs runId) = .checked wake := by
  obtain ⟨run, found, status⟩ := Option.map_eq_some_iff.1 sleeps
  simp [routeWake, found, notRetry, status]

variable {now : Instant}

theorem claimSleeping_refused {refusal : Refusal} (sleeps : s.Sleeps runId)
    (refused : claimSleeping s.db now wake runId = .error refusal) :
    leaseRefusal now (wakeExecutorOwner wake) (s.db.leases wake.sessionId) ≠ none := by
  intro free
  obtain ⟨run, found, status⟩ := Option.map_eq_some_iff.1 sleeps
  simp [claimSleeping, claimRunLeaseAndFlipToRunning, runRefusal, found, status, wakeLease,
    free] at refused

theorem sleeps_of_eligible (eligible : runRefusal [.pausedWake] (s.db.runs runId) = none) :
    s.Sleeps runId := by
  unfold runRefusal at eligible
  split at eligible
  · cases eligible
  · rename_i run found
    split_ifs at eligible with status
    rw [Sleeps, Database.Is, found, Option.map_some, List.mem_singleton.1 status]

theorem release_runs (db : Database) (sessionId ownerId : JsString) (throws : Bool) :
    (db.release sessionId ownerId throws).runs = db.runs := by
  unfold Database.release
  split <;> rfl

variable {s' : World}

variable {throws : Bool}

theorem missions_advance (went : s.advance p now throws = some s')
    (rings : s.AdvanceRings p now throws) (once : Once s)
    (missions : ∀ runId, s.Sleeps runId → s.Rung runId) (runId : JsString)
    (sleeps : s'.Sleeps runId) : s'.Rung runId := by
  obtain ⟨pass, found, advanced⟩ := advance_cases went
  have ring := rings pass found
  cases advanced with
  | ended why =>
    refine (missions runId sleeps).gone sleeps ?_
    rcases why with ⟨phase, threw⟩ | ⟨phase, queue⟩
    · simp only [phase] at ring
      exact ring threw
    · intro pass' found' row member
      rw [found] at found'
      cases found'
      simp [Pass.rows, phase, queue, PassPhase.wake] at member
  | listed phase =>
    refine (missions runId sleeps).move found (fun row member pending _ =>
      carries_self member pending) fun row member _ => ⟨_, rfl, ?_⟩
    simp only [Pass.rows, phase, PassPhase.wake, Option.toList_none, List.nil_append] at member ⊢
    exact List.mem_append_left _ member
  | @passed wake rest db phase queue own runs wakes =>
    have sleeps : s.Sleeps runId := by rwa [Sleeps, Database.Is, ← runs]
    refine (missions runId sleeps).move found ?_ ?_
    · intro row member pending _
      rcases wakes with same | ⟨dueAt, attempt, deferred⟩
      · rw [same]
        exact carries_self member pending
      · rw [deferred]
        exact carries_postpone (fun _ => dueAt) rfl member pending
    · intro row member is
      simp only [Pass.rows, phase, queue, PassPhase.wake, Option.toList_none, List.nil_append,
        List.mem_cons] at member
      refine ⟨_, rfl, ?_⟩
      rcases member with rfl | later
      · rw [own] at is
        cases is
      · simpa [Pass.rows, PassPhase.wake] using later
  | @continued wake rest db phase queue own runs wakes claimed =>
    have sleeps : s.Sleeps runId := by rwa [Sleeps, Database.Is, ← runs]
    obtain ⟨claimed, claimedMember, same, -, isSession⟩ := claimed
    refine (missions runId sleeps).move found ?_ ?_
    · intro row member pending is
      rw [wakes]
      refine carries_settle _ member pending (decide_eq_false fun sameId => ?_)
      -- the row of the id that is consumed is a session's
      rw [Table.eq_of_key member claimedMember (sameId.trans same.symm), isSession] at is
      cases is
    · intro row member is
      simp only [Pass.rows, phase, queue, PassPhase.wake, Option.toList_none, List.nil_append,
        List.mem_cons] at member
      refine ⟨_, rfl, ?_⟩
      rcases member with rfl | later
      · rw [own] at is
        cases is
      · simp [Pass.rows, PassPhase.wake, later]
  | @read wake rest readId phase' phase queue own route =>
    have rows : pass.rows = wake :: rest := by
      simp [Pass.rows, phase, queue, PassPhase.wake]
    by_cases dropped : throws = true ∨ wake.autoRetry = true
    · simp only [phase, queue, List.head?_cons, Option.mem_def, Option.some.injEq,
        forall_eq'] at ring
      refine (missions runId sleeps).drop wake found sleeps (ring dropped) rfl ?_
      intro row member differs
      rw [rows, List.mem_cons] at member
      exact List.mem_append_right _ (member.resolve_left differs)
    · rw [not_or, Bool.not_eq_true, Bool.not_eq_true] at dropped
      refine (missions runId sleeps).move found (fun row member pending _ =>
        carries_self member pending) fun row member is => ⟨_, rfl, ?_⟩
      rw [rows, List.mem_cons] at member
      rcases member with rfl | later
      · rw [own, Option.some.injEq] at is
        subst is
        rw [dropped.1, if_neg Bool.false_ne_true,
          routeWake_sleeps (s := s) sleeps dropped.2] at route
        simp [Pass.rows, route, PassPhase.wake]
      · exact List.mem_append_right _ later
  | @refused wake runId' own phase =>
    have dispensable : s.Sleeps runId' → s.Dispensable wake := by
      intro sleeps'
      rcases phase with ⟨phase, why⟩ | phase <;> simp only [phase] at ring
      · refine ring.1 (why.imp_right ?_)
        rintro ⟨refusal, refused⟩
        exact claimSleeping_refused sleeps' refused
      · exact ring
    have rows : pass.rows = wake :: pass.queue := by
      rcases phase with ⟨phase, -⟩ | phase <;> simp [Pass.rows, phase, PassPhase.wake]
    refine (missions runId sleeps).drop wake found sleeps ?_ rfl ?_
    · intro id is sleeps'
      rw [own, Option.some.injEq] at is
      subst is
      exact dispensable sleeps' _ own sleeps'
    · intro row member differs
      rw [rows, List.mem_cons] at member
      exact List.mem_append_right _ (member.resolve_left differs)
  | @resumed wake runId' db own phase calm claim =>
    obtain ⟨eligible, free, runs, wakes⟩ := claimRun_ok claim
    simp only [phase] at ring
    rw [Sleeps, Database.Is, World.handle, World.move, runs] at sleeps
    obtain ⟨other, sleeps⟩ := sleeps_setStatus sleeps
    have slept : s.Sleeps runId' := sleeps_of_eligible eligible
    obtain ⟨keeper, row, keeps, is, elsewhere⟩ := (missions runId sleeps).spared
      (ring.2 calm free runId' own slept) once.single sleeps (by simpa using other)
    refine keeps.rung is found ?_ ?_
    · rintro rfl
      rw [wakes, if_pos (show s.db.Is runId' .pausedWake from slept)]
      exact carries_settle _ keeps.1 keeps.2 (decide_eq_false (elsewhere rfl))
    · intro member
      exact ⟨_, rfl, by simpa [Pass.rows, phase, PassPhase.wake] using member⟩
  | @retried wake runId' db own phase claim =>
    obtain ⟨-, runs, wakes⟩ := claimAutoRetry_ok claim
    rw [Sleeps, Database.Is, World.handle, World.move, runs] at sleeps
    obtain ⟨-, sleeps⟩ := sleeps_setStatus sleeps
    refine (missions runId sleeps).move found ?_ ?_
    · intro row member pending _
      rw [wakes]
      exact carries_self member pending
    · intro row member _
      exact ⟨_, rfl, by simpa [Pass.rows, phase, PassPhase.wake] using member⟩
  | started phase calm =>
    refine (missions runId sleeps).move found (fun row member pending _ =>
      carries_self member pending) fun row member _ => ⟨_, rfl, ?_⟩
    simpa [Pass.rows, phase, PassPhase.wake] using member
  | unwound phase =>
    refine (missions runId sleeps).move found (fun row member pending _ =>
      carries_self member pending) fun row member _ => ⟨_, rfl, ?_⟩
    rcases phase with ⟨phase, -⟩ | phase <;>
      simpa [Pass.rows, phase, PassPhase.wake] using member
  | @released wake ownerId phase =>
    simp only [phase] at ring
    have sleeps : s.Sleeps runId := by
      rwa [Sleeps, Database.Is, World.handle, World.move, release_runs] at sleeps
    refine (missions runId sleeps).drop wake found sleeps ring (release_wakes s.db _ _ throws) ?_
    intro row member differs
    simp only [Pass.rows, phase, PassPhase.wake, Option.toList_some, List.cons_append,
      List.nil_append, List.mem_cons] at member
    exact List.mem_append_right _ (member.resolve_left differs)

theorem Continues.move {pass : Option Pass} {started : List JsString} (continues : s.Continues)
    (grown : ∀ id ∈ s.started, id ∈ started)
    (rows : ∀ row ∈ db.wakes.rows, row.missionRunId = none → row.status = .consumed →
      row ∈ s.db.wakes.rows ∨ ({ s.move p pass db with started := started }).Delivers p row.id)
    (own : ∀ id, s.Delivers p id →
      id ∈ started ∨ ({ s.move p pass db with started := started }).Delivers p id) :
    ({ s.move p pass db with started := started }).Continues := by
  intro row member isSession consumed
  rcases rows row member isSession consumed with old | delivers
  · rcases continues row old isSession consumed with delivered | ⟨q, delivers⟩
    · exact .inl (grown _ delivered)
    · by_cases isOwn : q = p
      · subst isOwn
        exact (own _ delivers).imp_right fun delivers => ⟨q, delivers⟩
      · obtain ⟨other, wake, ownerId, found, is⟩ := delivers
        refine .inr ⟨q, other, wake, ownerId, ?_, is⟩
        exact (Function.update_of_ne isOwn ..).trans found
  · exact .inr ⟨p, delivers⟩

theorem not_delivers {pass : Pass} (found : s.passes p = some pass)
    (phase : ∀ wake ownerId, pass.phase ≠ .claimed wake ownerId) (id : JsString) :
    ¬s.Delivers p id := by
  rintro ⟨other, wake, ownerId, found', claimed, -⟩
  rw [found] at found'
  cases found'
  exact phase wake ownerId claimed

theorem continues_advance (went : s.advance p now throws = some s')
    (rings : s.AdvanceRings p now throws) (continues : s.Continues) : s'.Continues := by
  obtain ⟨pass, found, advanced⟩ := advance_cases went
  have ring := rings pass found
  -- where the rows stay and the pass delivered nothing, nothing changes
  have idle : ∀ (next : Option Pass) (db : Database),
      (∀ row ∈ db.wakes.rows, row.missionRunId = none → row.status = .consumed →
        row ∈ s.db.wakes.rows) →
      (∀ wake ownerId, pass.phase ≠ .claimed wake ownerId) → (s.move p next db).Continues := by
    intro next db rows phase
    refine continues.move (fun _ member => member) (fun row member isSession consumed =>
      .inl (rows row member isSession consumed)) fun id delivers => ?_
    exact absurd delivers (not_delivers found phase id)
  cases advanced with
  | ended why =>
    refine idle _ _ (fun _ member _ _ => member) ?_
    rcases why with ⟨phase, -⟩ | ⟨phase, -⟩ <;> simp [phase]
  | listed phase | read phase queue own route =>
    exact idle _ _ (fun _ member _ _ => member) (by simp [phase])
  | @passed wake rest db phase queue own runs wakes =>
    refine idle _ _ (fun row member _ consumed => ?_) (by simp [phase])
    rcases wakes with same | ⟨dueAt, attempt, deferred⟩
    · rwa [same] at member
    · rw [deferred] at member
      exact consumed_postpone (fun _ => dueAt) rfl member consumed
  | @continued wake rest db phase queue own runs wakes claimed =>
    refine continues.move (fun _ member => member) ?_ fun id delivers => ?_
    · intro row member isSession consumed
      rw [wakes] at member
      rcases consumed_settle member consumed with old | ⟨-, old, -, -, matched, rfl⟩
      · exact .inl old
      · refine .inr ⟨_, wake, _, Function.update_self .., rfl, own, ?_⟩
        exact (of_decide_eq_true matched).symm
    · exact absurd delivers (not_delivers found (by simp [phase]) id)
  | refused own phase =>
    refine idle _ _ (fun _ member _ _ => member) ?_
    rcases phase with ⟨phase, -⟩ | phase <;> simp [phase]
  | @resumed wake runId' db own phase calm claim =>
    refine idle _ _ (fun row member _ consumed => ?_) (by simp [phase])
    exact consumed_claimRun claim member consumed
  | retried own phase claim =>
    refine idle _ _ (fun row member _ consumed => ?_) (by simp [phase])
    rwa [(claimAutoRetry_ok claim).2.2] at member
  | @started wake ownerId phase calm =>
    refine continues.move (fun _ member => List.mem_append_left _ member)
      (fun row member _ _ => .inl member) fun id delivers => ?_
    obtain ⟨other, wake', ownerId', found', claimed, -, rfl⟩ := delivers
    rw [found] at found'
    cases found'
    rw [phase] at claimed
    cases claimed
    exact .inl (List.mem_append_right _ (List.mem_singleton_self _))
  | @unwound wake ownerId phase =>
    rcases phase with ⟨phase, threw⟩ | phase
    · refine continues.move (fun _ member => member) (fun row member _ _ => .inl member)
        fun id delivers => ?_
      obtain ⟨other, wake', ownerId', found', claimed, isSession, rfl⟩ := delivers
      rw [found] at found'
      cases found'
      rw [phase] at claimed
      cases claimed
      simp only [phase] at ring
      exact absurd isSession (ring threw)
    · exact idle _ _ (fun _ member _ _ => member) (by simp [phase])
  | released phase =>
    refine idle _ _ (fun row member _ _ => ?_) (by simp [phase])
    rwa [release_wakes] at member

/-! ## The other acts -/

theorem Keeps.others (keeps : s.Keeps keeper row) (is : row.missionRunId = some runId)
    (table : keeper = .table → Carries db.wakes row) : ({ s with db := db }).Rung runId := by
  cases keeper with
  | table =>
    obtain ⟨row', member, pending, same⟩ := table rfl
    exact ⟨.table, row', ⟨member, pending⟩, same.trans is⟩
  | pass q => exact ⟨.pass q, row, keeps, is⟩

theorem Rung.others (rung : s.Rung runId)
    (table : ∀ row ∈ s.db.wakes.rows, row.status = .pending → row.missionRunId = some runId →
      Carries db.wakes row) : ({ s with db := db }).Rung runId := by
  obtain ⟨keeper, row, keeps, is⟩ := rung
  refine keeps.others is ?_
  rintro rfl
  exact table row keeps.1 keeps.2 is

theorem Rung.cancelled (rung : s.Rung runId) (spares : s.Spares sessionId besides)
    (single : OnePending s.db.wakes) (sleeps : s.Sleeps runId) (other : some runId ≠ besides)
    (wakes : db.wakes = Runtime.cancelForSession s.db.wakes sessionId) :
    ({ s with db := db }).Rung runId := by
  obtain ⟨keeper, row, keeps, is, elsewhere⟩ := rung.spared spares single sleeps other
  refine keeps.others is ?_
  rintro rfl
  rw [wakes]
  exact carries_settle _ keeps.1 keeps.2 (decide_eq_false (elsewhere rfl))

theorem Continues.others (continues : s.Continues)
    (rows : ∀ row ∈ db.wakes.rows, row.status = .consumed → row ∈ s.db.wakes.rows) :
    ({ s with db := db }).Continues :=
  fun row member isSession consumed =>
    continues row (rows row member consumed) isSession consumed

variable {limit : Nat} {locked : List JsString}

theorem missions_tick (went : s.tick p now limit locked = some s')
    (missions : ∀ runId, s.Sleeps runId → s.Rung runId) (runId : JsString)
    (sleeps : s'.Sleeps runId) : s'.Rung runId := by
  unfold World.tick at went
  split at went
  · cases went
  rename_i idle
  cases went
  obtain ⟨keeper, row, keeps, is⟩ := missions runId sleeps
  by_cases picked : keeper = .table ∧ row ∈ pickDue s.db.wakes now limit locked
  · -- the pass has claimed the row
    refine ⟨.pass p, { row with status := .consumed }, ⟨_, Function.update_self .., ?_⟩, is⟩
    exact List.mem_append_right _ (List.mem_map.2 ⟨row, picked.2, rfl⟩)
  · have moved : ∃ keeper' row', (s.move p
        (some ⟨now, limit, .listing, (claimDue s.db.wakes now limit locked).2⟩)
        { s.db with wakes := (claimDue s.db.wakes now limit locked).1 }).Keeps keeper' row' ∧
        row'.missionRunId = row.missionRunId := by
      refine keeps.move ?_ ?_
      · rintro rfl
        exact carries_settle _ keeps.1 keeps.2 (decide_eq_false fun found => picked ⟨rfl, found⟩)
      · rintro rfl
        obtain ⟨pass, found, -⟩ := keeps
        rw [idle] at found
        cases found
    obtain ⟨keeper', row', keeps', same⟩ := moved
    exact ⟨keeper', row', keeps', same.trans is⟩

theorem continues_tick (went : s.tick p now limit locked = some s') (continues : s.Continues) :
    s'.Continues := by
  unfold World.tick at went
  split at went
  · cases went
  rename_i idle
  cases went
  refine continues.move (fun _ member => member) (fun row member isSession consumed => ?_)
    fun id delivers => ?_
  · rcases consumed_settle member consumed with old | ⟨-, old, -, -, matched, rfl⟩
    · exact .inl old
    · -- `claimDue` takes no row of a session
      have isRun := (mem_pickDue (of_decide_eq_true matched)).2.2
      rw [show old.missionRunId = none from isSession] at isRun
      cases isRun
  · obtain ⟨pass, wake, ownerId, found, -⟩ := delivers
    rw [idle] at found
    cases found

theorem sleeps_putRun {run : MissionRun} (sleeps : (db.putRun runId run).Is other .pausedWake) :
    other = runId ∧ run.status = .pausedWake ∨ other ≠ runId ∧ db.Is other .pausedWake := by
  unfold Database.Is Database.putRun at sleeps
  by_cases same : other = runId
  · subst same
    simp only [Function.update_self, Option.map_some, Option.some.injEq] at sleeps
    exact .inl ⟨rfl, sleeps⟩
  · simp only [Function.update_of_ne same] at sleeps
    exact .inr ⟨same, sleeps⟩

/-- What holds in a run whose acts all ring. -/
structure Safe (s : World) : Prop where
  once : Once s
  missions : ∀ runId, s.Sleeps runId → s.Rung runId
  continues : s.Continues

theorem Safe.alarmed (safe : Safe s) : s.Alarmed where
  missions := safe.missions
  sessions := safe.continues
  startsOnce := safe.once.exclusive.spent_once
  onePending := safe.once.single

variable {act : Act}

theorem missions_apply (went : s.apply act = some s') (rings : s.Rings act) (safe : Safe s)
    (runId : JsString) (sleeps : s'.Sleeps runId) : s'.Rung runId := by
  have stays : ∀ row ∈ s.db.wakes.rows, row.status = .pending → row.missionRunId = some runId →
      Carries s.db.wakes row := fun row member pending _ => carries_self member pending
  cases act with
  | tick p now limit locked => exact missions_tick went safe.missions runId sleeps
  | advance p now throws =>
    exact missions_advance went rings safe.once safe.missions runId sleeps
  | crash p =>
    cases went
    exact (safe.missions runId sleeps).gone sleeps rings.1
  | enqueue id input =>
    cases went
    exact (safe.missions runId sleeps).others fun row member pending _ =>
      carries_enqueue member pending input id
  | cancelForSession sessionId =>
    cases went
    exact (safe.missions runId sleeps).cancelled rings safe.once.single sleeps nofun rfl
  | cancelForegroundStoppedSessionWake sessionId =>
    cases went
    refine (safe.missions runId sleeps).others fun row member pending is => ?_
    exact carries_settle _ member pending (by simp [is])
  | promotePendingWake now wakeId =>
    cases went
    exact (safe.missions runId sleeps).others fun row member pending _ =>
      carries_postpone (fun row => min row.dueAt now) rfl member pending
  | park parkedId =>
    simp only [World.apply, World.park] at went
    split at went
    · cases went
    · rename_i run found
      split_ifs at went with terminal
      cases went
      rcases sleeps_putRun sleeps with ⟨rfl, -⟩ | ⟨-, sleeps⟩
      · exact (rings run found terminal).others stays
      · exact (safe.missions runId sleeps).others stays
  | writeRun writtenId run =>
    simp only [World.apply, World.writeRun] at went
    split_ifs at went with status
    cases went
    rcases sleeps_putRun sleeps with ⟨-, asleep⟩ | ⟨-, sleeps⟩
    · exact absurd asleep status
    · exact (safe.missions runId sleeps).others stays
  | resume now sessionId resumedId fromStatuses input recovers =>
    simp only [World.apply, World.resume] at went
    split at went
    · cases went
    · rename_i claimed claim
      cases went
      obtain ⟨eligible, free, runs, wakes⟩ := claimRun_ok claim
      rw [Sleeps, Database.Is, runs] at sleeps
      obtain ⟨other, sleeps⟩ := sleeps_setStatus sleeps
      by_cases cancels : recovers = true ∨ s.Sleeps resumedId
      · obtain ⟨keeper, row, keeps, is, elsewhere⟩ :=
          (safe.missions runId sleeps).spared (rings eligible free cancels) safe.once.single
            sleeps (by simpa using other)
        refine keeps.others is ?_
        rintro rfl
        have missed : decide (row.sessionId = sessionId) = false := decide_eq_false (elsewhere rfl)
        have claimedMember : row ∈ claimed.wakes.rows := by
          rw [wakes]
          split_ifs
          · exact mem_settle _ keeps.1 missed
          · exact keeps.1
        refine carries_self ?_ keeps.2
        dsimp only
        split_ifs
        · exact mem_settle _ claimedMember missed
        · exact claimedMember
      · rw [not_or, Bool.not_eq_true] at cancels
        refine (safe.missions runId sleeps).others ?_
        rw [cancels.1, wakes, if_neg (show ¬s.db.Is resumedId .pausedWake from cancels.2)]
        exact stays
  | pause sessionId pausedId =>
    simp only [World.apply, World.pause] at went
    split at went
    · cases went
    · rename_i run found
      split_ifs at went with terminal asleep <;> cases went
      · rcases sleeps_putRun sleeps with ⟨-, wrong⟩ | ⟨other, sleeps⟩
        · cases wrong
        · have slept : s.Sleeps pausedId := by
            rw [Sleeps, Database.Is, found, Option.map_some, asleep]
          exact (safe.missions runId sleeps).cancelled (rings slept) safe.once.single sleeps
            (by simpa using other) rfl
      · rcases sleeps_putRun sleeps with ⟨-, wrong⟩ | ⟨-, sleeps⟩
        · cases wrong
        · exact (safe.missions runId sleeps).others stays
  | userStop now sessionId stoppedId =>
    simp only [World.apply, World.userStop] at went
    split at went
    · cases went
    · rename_i run found
      split_ifs at went with terminal
      cases went
      rcases sleeps_putRun sleeps with ⟨-, wrong⟩ | ⟨other, sleeps⟩
      · cases wrong
      · exact (safe.missions runId sleeps).cancelled (rings run found terminal)
          safe.once.single sleeps (by simpa using other) rfl
  | writeLease sessionId lease | writePermission sessionId permission =>
    cases went
    exact (safe.missions runId sleeps).others stays

theorem continues_apply (went : s.apply act = some s') (rings : s.Rings act)
    (continues : s.Continues) : s'.Continues := by
  cases act with
  | tick p now limit locked => exact continues_tick went continues
  | advance p now throws => exact continues_advance went rings continues
  | crash p =>
    cases went
    exact continues.move (fun _ member => member) (fun row member _ _ => .inl member)
      fun id delivers => absurd delivers (rings.2 id)
  | enqueue id input =>
    cases went
    exact continues.others fun row member consumed => consumed_enqueue member consumed
  | cancelForSession sessionId | cancelForegroundStoppedSessionWake sessionId =>
    cases went
    exact continues.others fun row member consumed => consumed_cancel member consumed
  | promotePendingWake now wakeId =>
    cases went
    exact continues.others fun row member consumed =>
      consumed_postpone (fun row => min row.dueAt now) rfl member consumed
  | park parkedId =>
    simp only [World.apply, World.park] at went
    split at went
    · cases went
    · split_ifs at went
      cases went
      exact continues.others fun _ member _ => member
  | writeRun writtenId run =>
    simp only [World.apply, World.writeRun] at went
    split_ifs at went
    cases went
    exact continues.others fun _ member _ => member
  | resume now sessionId resumedId fromStatuses input recovers =>
    simp only [World.apply, World.resume] at went
    split at went
    · cases went
    · rename_i claimed claim
      cases went
      refine continues.others fun row member consumed => ?_
      dsimp only at member
      split_ifs at member
      · exact consumed_claimRun claim (consumed_cancel member consumed) consumed
      · exact consumed_claimRun claim member consumed
  | pause sessionId pausedId =>
    simp only [World.apply, World.pause] at went
    split at went
    · cases went
    · split_ifs at went <;> cases went
      · exact continues.others fun row member consumed => consumed_cancel member consumed
      · exact continues.others fun _ member _ => member
  | userStop now sessionId stoppedId =>
    simp only [World.apply, World.userStop] at went
    split at went
    · cases went
    · split_ifs at went
      cases went
      exact continues.others fun row member consumed => consumed_cancel member consumed
  | writeLease sessionId lease | writePermission sessionId permission =>
    cases went
    exact continues.others fun _ member _ => member

theorem safe_step (s : World) (act : Act) (rings : s.Rings act) (safe : Safe s) :
    Safe (s.step act) := by
  rcases orStay_cases apply s act with same | went
  · rw [World.step, same]
    exact safe
  · exact ⟨once_apply went safe.once, missions_apply went rings safe,
      continues_apply went rings safe.continues⟩

def empty (permission : JsString → Permission) : World :=
  initial ⟨Table.empty, fun _ => none, fun _ => none, permission⟩

theorem safe_empty (permission : JsString → Permission) : Safe (empty permission) where
  once := ⟨nofun, Exclusive.nobody _⟩
  missions _ sleeps := nomatch sleeps
  continues := nofun

/-! ## Runs -/

/-- In a run whose acts all ring, no run that sleeps and no continuation is without an alarm. -/
theorem alarmed_of_rings (permission : JsString → Permission) (acts : List Act)
    (rings : Along World.step World.Rings (empty permission) acts) :
    (run World.step (empty permission) acts).Alarmed :=
  (Along.induction safe_step (safe_empty permission) rings).alarmed

/-! ## A mission that sleeps -/

def mission : MissionRun where
  id := JsString.ofString "run"
  missionId := JsString.ofString "mission"
  sessionId := JsString.ofString "session"
  status := .running
  startedAt := 0
  endedAt := none
  stopReason := none
  errorRetryCount := 0
  autoRetryUnsafe := false
  autoRetryEnabled := false

def deferral : EnqueueInput where
  sessionId := mission.sessionId
  missionRunId := some mission.id
  dueAt := 60000
  autoRetry := false
  attempt := none

def deferred : WakeRow := { deferral.row (JsString.ofString "wake") with status := .consumed }

def parking : List Act :=
  [.writeRun mission.id mission, .enqueue deferred.id deferral, .park mission.id]

/-- A pass claims the row, reads the run and claims the lease. -/
def waking : List Act :=
  [.tick 0 61000 10 [], .advance 0 61000 false, .advance 0 61000 false, .advance 0 61000 false]

theorem parked_rings :
    Along step Rings (empty fun _ => .full) (parking ++ waking ++ [.advance 0 61000 false]) := by
  refine ⟨trivial, trivial, ?_, trivial, ?_, ?_, ?_, ?_, trivial⟩
  · intro run found notTerminal
    exact ⟨.table, deferral.row deferred.id, ⟨by decide +kernel, rfl⟩, rfl⟩
  · intro pass found
    have is : pass = ⟨61000, 10, .listing, [deferred]⟩ :=
      Option.some.inj (found.symm.trans (by decide +kernel))
    subst is
    exact nofun
  · intro pass found
    have is : pass = ⟨61000, 10, .next, [deferred]⟩ :=
      Option.some.inj (found.symm.trans (by decide +kernel))
    subst is
    rintro wake same (threw | retry)
    · cases threw
    · cases same
      cases retry
  · intro pass found
    have is : pass = ⟨61000, 10, .checked deferred, []⟩ :=
      Option.some.inj (found.symm.trans (by decide +kernel))
    subst is
    refine ⟨?_, ?_⟩
    · rintro (threw | busy)
      · cases threw
      · exact absurd (by decide +kernel) busy
    · intro _ _ runId _ _ row member _ pending
      have consumed : ∀ row ∈ (run step (empty fun _ => .full)
          (parking ++ waking.take 3)).db.wakes.rows, row.status = .consumed := by
        decide +kernel
      have is := consumed row member
      rw [pending] at is
      cases is
  · intro pass found
    have is : pass = ⟨61000, 10, .claimed deferred (wakeExecutorOwner deferred), []⟩ :=
      Option.some.inj (found.symm.trans (by decide +kernel))
    subst is
    exact nofun

/-- The run sleeps, is woken and goes on. -/
theorem alarmed_of_rings_parked :
    (run step (empty fun _ => .full) (parking ++ waking ++ [.advance 0 61000 false])).Alarmed :=
  alarmed_of_rings _ _ parked_rings

def actingPass : Act → Option Nat
  | .tick p _ _ _ | .advance p _ _ | .crash p => some p
  | _ => none

variable {q : Nat}

theorem passes_apply (went : s.apply act = some s') (other : actingPass act ≠ some q) :
    s'.passes q = s.passes q := by
  have moved : ∀ (p : Nat) (pass : Option Pass), some p ≠ some q →
      Function.update s.passes p pass q = s.passes q := fun p pass different =>
    Function.update_of_ne (fun same => different (by rw [same])) ..
  cases act with
  | tick p now limit locked =>
    simp only [World.apply, World.tick] at went
    split at went
    · cases went
    · cases went
      exact moved p _ other
  | advance p now throws =>
    obtain ⟨pass, -, advanced⟩ := advance_cases went
    cases advanced <;> exact moved p _ other
  | crash p =>
    cases went
    exact moved p _ other
  | park runId =>
    simp only [World.apply, World.park] at went
    split at went
    · cases went
    · split_ifs at went
      cases went
      rfl
  | writeRun runId run =>
    simp only [World.apply, World.writeRun] at went
    split_ifs at went
    cases went
    rfl
  | resume now sessionId runId fromStatuses input recovers =>
    simp only [World.apply, World.resume] at went
    split at went
    · cases went
    · cases went
      rfl
  | pause sessionId runId =>
    simp only [World.apply, World.pause] at went
    split at went
    · cases went
    · split_ifs at went <;> cases went <;> rfl
  | userStop now sessionId runId =>
    simp only [World.apply, World.userStop] at went
    split at went
    · cases went
    · split_ifs at went
      cases went
      rfl
  | enqueue _ _ | cancelForSession _ | cancelForegroundStoppedSessionWake _
  | promotePendingWake _ _ | writeLease _ _ | writePermission _ _ =>
    cases went
    rfl

theorem passes_run {acts : List Act} (others : ∀ act ∈ acts, actingPass act ≠ some q) (s : World) :
    (run step s acts).passes q = s.passes q := by
  induction acts generalizing s with
  | nil => rfl
  | cons act acts ih =>
    rw [run_cons, ih fun other member => others other (List.mem_cons_of_mem _ member)]
    rcases orStay_cases apply s act with same | went
    · rw [step, same]
    · exact passes_apply went (others act List.mem_cons_self)

def turnLease : RunnerLease where
  missionRunId := none
  ownerId := JsString.ofString "turn"
  processKind := .electronMain
  acquiredAt := 1000
  heartbeatAt := 1000
  expiresAt := 301000

/-- The row is claimed while another holds the lease of the session. -/
def refusing : List Act :=
  parking ++ [.writeLease mission.sessionId (some turnLease)] ++ waking

/-- The claim of the lease is refused, and the run sleeps on. -/
theorem sleeps_without_alarm : ¬(run step (empty fun _ => .full) refusing).Alarmed := by
  intro alarmed
  obtain ⟨keeper, row, keeps, -⟩ := alarmed.missions mission.id (by unfold Sleeps; decide +kernel)
  cases keeper with
  | table =>
    have consumed : ∀ row ∈ (run step (empty fun _ => .full) refusing).db.wakes.rows,
        row.status ≠ .pending := by
      decide +kernel
    exact consumed row keeps.1 keeps.2
  | pass q =>
    obtain ⟨pass, found, member⟩ := keeps
    by_cases first : q = 0
    · subst first
      have is : pass = ⟨61000, 10, .next, []⟩ :=
        Option.some.inj (found.symm.trans (by decide +kernel))
      subst is
      cases member
    · rw [passes_run (q := q) ?_] at found
      · cases found
      · intro act member same
        have zero : ∀ act ∈ refusing, actingPass act = none ∨ actingPass act = some 0 := by
          simp [refusing, parking, waking, actingPass]
        rcases zero act member with none | isZero
        · rw [none] at same
          cases same
        · rw [isZero] at same
          exact first (Option.some.inj same).symm

end World

end Vex.Runtime
