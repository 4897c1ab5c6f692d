import Vex.Activity.Staging

/-!
# What the recovery of hashless rows promises

Rows are planned, signers reserve, stage and send, and sweeps and aborts end what
was never signed, in any order. A signer sends only what a statement told it is
staged.

A row that was ended without a hash is never staged and nothing of it is sent,
and a row that is staged is left as it is (`Follows`). The sweep ends no row of a
role that is not signed here. But one candidate whose settlement is refused ends
the sweep: the error leaves the loop, and the candidates after it are left. So
every candidate is handled exactly where no settlement is refused (`Settleable`).
-/

namespace Vex.Activity

open Vex.Library
open Vex.Wallet (Instant)
open Vex.Wallet.TransferIntents (WalletIntent)
open Vex.Wallet.TransactionIntents (WalletTransactionIntent)

/-! ## What a settlement leaves of the activity -/

/-- A row as it may become: the columns that link it stay, and a row that has ended stays as it
is. -/
def Endures (row row' : AgentActivityEvent) : Prop :=
  KeepsLink row row' ∧ (row.status ≠ .pending → row' = row)

theorem endures_refl (row : AgentActivityEvent) : Endures row row :=
  ⟨⟨rfl, rfl, rfl, rfl, rfl, rfl⟩, fun _ => rfl⟩

variable {activity : AgentActivityEvent} {outcome : LinkedIntentRepairOutcome}
  {settled : LinkedRows}

theorem settleTransactionRows_activity {rows : LinkedRows}
    (ran : settleTransactionRows activity outcome rows = .ok settled) :
    settled.activity = rows.activity := by
  unfold settleTransactionRows at ran
  cases linked : rows.linkedTransactionIntent with
  | none =>
    rw [linked] at ran
    rw [← Except.ok.inj ran]
  | some intent =>
    rw [linked] at ran
    obtain ⟨moved, -, same⟩ := bind_eq_ok.1 ran
    rw [← Except.ok.inj same]

theorem settleTransferRows_activity {rows : LinkedRows}
    (ran : settleTransferRows activity outcome rows = .ok settled) :
    settled.activity = rows.activity := by
  unfold settleTransferRows at ran
  cases linked : rows.linkedTransferIntent with
  | none =>
    rw [linked] at ran
    rw [← Except.ok.inj ran]
  | some intent =>
    rw [linked] at ran
    obtain ⟨moved, -, same⟩ := bind_eq_ok.1 ran
    rw [← Except.ok.inj same]

variable {result : CasResult}

theorem settleLinked_activity {rows : LinkedRows} {sessionId : Option JsString}
    {target : LinkedActivityTarget} {write : AgentActivityEvent → Except ActivityError CasResult}
    (ran : settleLinkedActivityRowsWith rows sessionId outcome target write = .ok (settled, result))
    :
    write rows.activity = .ok result ∧ settled.activity = result.row := by
  obtain ⟨-, -, ran⟩ := bind_eq_ok.1 ran
  obtain ⟨-, -, ran⟩ := bind_eq_ok.1 ran
  obtain ⟨-, -, ran⟩ := bind_eq_ok.1 ran
  obtain ⟨-, -, ran⟩ := bind_eq_ok.1 ran
  obtain ⟨written, wrote, ran⟩ := bind_eq_ok.1 ran
  obtain ⟨-, -, ran⟩ := bind_eq_ok.1 ran
  have wrote := mapError_eq_ok.1 wrote
  split_ifs at ran
  · obtain ⟨rfl, rfl⟩ := Prod.mk.inj (Except.ok.inj ran)
    exact ⟨wrote, rfl⟩
  · obtain ⟨first, movedFirst, ran⟩ := bind_eq_ok.1 ran
    obtain ⟨second, movedSecond, ran⟩ := bind_eq_ok.1 ran
    obtain ⟨rfl, rfl⟩ := Prod.mk.inj (Except.ok.inj ran)
    refine ⟨wrote, ?_⟩
    rw [settleTransferRows_activity movedSecond, settleTransactionRows_activity movedFirst]
    rfl

variable {now : Instant}

theorem endures_write {row : AgentActivityEvent} {write : TerminalWrite}
    (ran : write.run now row = .ok result) : Endures row result.row := by
  refine ⟨TerminalWrite.run_keepsLink ran, fun ended => ?_⟩
  rcases TerminalWrite.run_cases ran with ⟨same, -⟩ | ⟨pending, -⟩
  · exact same
  · exact absurd pending ended

theorem endures_call {rows : LinkedRows} {call : SettlementCall} {wrote : Bool}
    (ran : call.run now rows = .ok (settled, wrote)) : Endures rows.activity settled.activity := by
  cases coordinated : call.coordinated with
  | some how =>
    rw [SettlementCall.run_coordinated coordinated] at ran
    obtain ⟨⟨committed, result⟩, ran, same⟩ := map_eq_ok.1 ran
    obtain ⟨written, kept⟩ := settleLinked_activity ran
    obtain ⟨rfl, -⟩ := Prod.mk.inj same
    rw [kept]
    exact endures_write written
  | none =>
    cases call with
    | failActivityEvent input context =>
      have silent : linkedIntentOutcomeForFailure input.failureCode = none := by
        simpa [SettlementCall.coordinated] using coordinated
      simp only [SettlementCall.run, silent] at ran
      obtain ⟨result, written, same⟩ := bind_eq_ok.1 ran
      obtain ⟨rfl, -⟩ := Prod.mk.inj (Except.ok.inj same)
      have failed : (TerminalWrite.failActivityEvent input context).run now rows.activity
          = .ok result := mapError_eq_ok.1 written
      exact endures_write failed
    | recoverLinkedBroadcastUnconfirmed sessionId =>
      obtain ⟨-, -, ran⟩ := bind_eq_ok.1 ran
      have same : settled.activity = rows.activity := by
        split at ran
        · obtain ⟨rfl, -⟩ := Prod.mk.inj (Except.ok.inj ran)
          rfl
        · split at ran
          · cases ran
          · obtain ⟨-, -, ran⟩ := bind_eq_ok.1 ran
            obtain ⟨recovered, -, ran⟩ := bind_eq_ok.1 ran
            obtain ⟨rfl, -⟩ := Prod.mk.inj (Except.ok.inj ran)
            rfl
      rw [same]
      exact endures_refl _
    | settleFromPersistedTerminalActivity sessionId verdict =>
      obtain ⟨-, -, ran⟩ := bind_eq_ok.1 ran
      have same : settled.activity = rows.activity := by
        split at ran
        · obtain ⟨rfl, -⟩ := Prod.mk.inj (Except.ok.inj ran)
          rfl
        · split at ran
          · obtain ⟨rfl, -⟩ := Prod.mk.inj (Except.ok.inj ran)
            rfl
          · obtain ⟨-, -, ran⟩ := bind_eq_ok.1 ran
            obtain ⟨-, -, ran⟩ := bind_eq_ok.1 ran
            obtain ⟨moved, movedOk, ran⟩ := bind_eq_ok.1 ran
            obtain ⟨rfl, -⟩ := Prod.mk.inj (Except.ok.inj ran)
            exact settleTransactionRows_activity movedOk
      rw [same]
      exact endures_refl _
    | _ => cases coordinated

/-! ## What an event leaves of a row -/

/-- A row as an event may change it: it is the same row, a staged hash stays, and a row that has
ended stays ended with the hash it has. -/
structure Follows (row row' : PlannedActivity) : Prop where
  id : row'.id = row.id
  session : row'.event.sessionId = row.event.sessionId
  role : row'.event.eventRole = row.event.eventRole
  staged : ∀ txHash, row.event.txHash = some txHash → row'.event.txHash = some txHash
  ended : row.event.status ≠ .pending →
    row'.event.status ≠ .pending ∧ row'.event.txHash = row.event.txHash

namespace Follows

theorem refl (row : PlannedActivity) : Follows row row :=
  ⟨rfl, rfl, rfl, fun _ staged => staged, fun ended => ⟨ended, rfl⟩⟩

theorem trans {row row' row'' : PlannedActivity} (first : Follows row row')
    (second : Follows row' row'') : Follows row row'' where
  id := second.id.trans first.id
  session := second.session.trans first.session
  role := second.role.trans first.role
  staged txHash staged := second.staged txHash (first.staged txHash staged)
  ended ended := by
    obtain ⟨endedFirst, hashFirst⟩ := first.ended ended
    obtain ⟨endedSecond, hashSecond⟩ := second.ended endedFirst
    exact ⟨endedSecond, hashSecond.trans hashFirst⟩

theorem of_endures {row : PlannedActivity} {event : AgentActivityEvent}
    (endures : Endures row.event event) : Follows row { row with event := event } where
  id := endures.1.1
  session := endures.1.2.1
  role := endures.1.2.2.1
  staged txHash staged := endures.1.2.2.2.2.2.trans staged
  ended ended := by
    rw [endures.2 ended]
    exact ⟨ended, rfl⟩

theorem of_pending {row row' : PlannedActivity} (id : row'.id = row.id)
    (session : row'.event.sessionId = row.event.sessionId)
    (role : row'.event.eventRole = row.event.eventRole)
    (staged : row.event.txHash = none ∨ row'.event.txHash = row.event.txHash)
    (pending : row.event.status = .pending) : Follows row row' where
  id := id
  session := session
  role := role
  staged txHash found := by
    rcases staged with hashless | same
    · rw [hashless] at found
      cases found
    · rw [same, found]
  ended ended := absurd pending ended

end Follows

section Statements

variable {lower : JsString → JsString} {now : Instant} {row row' : PlannedActivity}

theorem follows_reserve {input : NonceReservation}
    (wrote : reserveActivityEvmNonce lower now row input = some row') : Follows row row' := by
  unfold reserveActivityEvmNonce at wrote
  split_ifs at wrote with eligible
  obtain rfl := Option.some.inj wrote
  exact Follows.of_pending rfl rfl rfl (.inr rfl) eligible.1

theorem follows_release {token : Nat} (wrote : releaseActivityEvmNonce row token = some row') :
    Follows row row' := by
  unfold releaseActivityEvmNonce at wrote
  split_ifs at wrote with held
  obtain rfl := Option.some.inj wrote
  exact ⟨rfl, rfl, rfl, fun _ staged => staged, fun ended => ⟨ended, rfl⟩⟩

theorem staged_evm {input : MarkActivityBroadcastInput}
    (wrote : markActivityBroadcast lower now row input = some row') :
    Follows row row' ∧ row'.event.txHash = some input.txHash := by
  unfold markActivityBroadcast at wrote
  split_ifs at wrote with eligible
  obtain rfl := Option.some.inj wrote
  exact ⟨Follows.of_pending rfl rfl rfl (.inl eligible.2.1) eligible.1, rfl⟩

theorem staged_solana {input : SolanaBroadcastInput}
    (wrote : markActivitySolanaBroadcast now row input = some row') :
    Follows row row' ∧ row'.event.txHash = some input.txHash := by
  unfold markActivitySolanaBroadcast at wrote
  split_ifs at wrote with eligible
  obtain rfl := Option.some.inj wrote
  exact ⟨Follows.of_pending rfl rfl rfl (.inl eligible.2.1) eligible.1, rfl⟩

theorem follows_accepted (wrote : markBroadcastAccepted now row = some row') : Follows row row' := by
  unfold markBroadcastAccepted at wrote
  split_ifs at wrote with eligible
  obtain rfl := Option.some.inj wrote
  exact Follows.of_pending rfl rfl rfl (.inr rfl) eligible.1

end Statements

section Tables

variable {tables tables' : ActivityTables}

variable {activityId : Nat} {row : PlannedActivity}

theorem row_id (found : tables.row activityId = some row) :
    row.id = activityId := (Table.find?_eq_some.1 found).2

theorem row_putActivity (tables : ActivityTables) (written : PlannedActivity) (activityId : Nat) :
    (tables.putActivity written).row activityId =
      if activityId = written.id then some written else tables.row activityId := by
  unfold ActivityTables.putActivity ActivityTables.row
  split_ifs with same
  · rw [same]
    exact Table.find?_put_self _ _
  · exact Table.find?_put_of_ne same

theorem row_commit (tables : ActivityTables) (row : PlannedActivity) {settled : LinkedRows}
    (kept : settled.activity.id = row.id) (activityId : Nat) :
    (tables.commit row settled).row activityId =
      if activityId = row.id then some { row with event := settled.activity }
      else tables.row activityId := by
  have written := row_putActivity tables { row with event := settled.activity } activityId
  have same : PlannedActivity.id { row with event := settled.activity } = row.id := kept
  rw [same] at written
  exact written

variable {result : CasResult}

theorem settleLinkedActivityRows_row {sessionId : Option JsString}
    {outcome : LinkedIntentRepairOutcome} {target : LinkedActivityTarget}
    {write : AgentActivityEvent → Except ActivityError CasResult}
    (keepsId : ∀ event result, write event = .ok result → result.row.id = event.id)
    (ran : tables.settleLinkedActivityRows activityId sessionId outcome target write
      = .ok (tables', result)) :
    ∃ row, tables.row activityId = some row ∧ write row.event = .ok result
      ∧ ∀ other, tables'.row other =
          if other = activityId then some { row with event := result.row } else tables.row other := by
  unfold ActivityTables.settleLinkedActivityRows at ran
  cases found : tables.row activityId with
  | none =>
    rw [found] at ran
    cases ran
  | some row =>
    rw [found] at ran
    obtain ⟨⟨settled, wrote⟩, committed, same⟩ := bind_eq_ok.1 ran
    obtain ⟨rfl, rfl⟩ := Prod.mk.inj (Except.ok.inj same)
    obtain ⟨written, activity⟩ := settleLinked_activity committed
    refine ⟨row, rfl, written, fun other => ?_⟩
    have kept : settled.activity.id = row.id := by
      rw [activity]
      exact keepsId _ _ written
    rw [row_commit tables row kept, row_id found, activity]

theorem settleAborted_row (found : tables.row row.id = some row)
    (ran : settleAborted tables row = .ok tables') (activityId : Nat) :
    tables'.row activityId = tables.row activityId := by
  obtain ⟨⟨_, result⟩, settledOk, rfl⟩ := map_eq_ok.1 ran
  unfold ActivityTables.settleLinkedActivityRows at settledOk
  have foundEvent : tables.row row.event.id = some row := found
  rw [foundEvent] at settledOk
  obtain ⟨⟨settled, wrote⟩, committed, same⟩ := bind_eq_ok.1 settledOk
  obtain ⟨rfl, rfl⟩ := Prod.mk.inj (Except.ok.inj same)
  obtain ⟨written, activity⟩ := settleLinked_activity committed
  have unchanged : settled.activity = row.event := by
    rw [activity, ← Except.ok.inj written]
  rw [row_commit tables row (by rw [unchanged]; rfl), unchanged]
  split_ifs with named
  · rw [named, found]
  · rfl

theorem settleAborted_rows {rows : List PlannedActivity}
    (found : ∀ row ∈ rows, tables.row row.id = some row)
    (ran : rows.foldlM settleAborted tables = .ok tables') (activityId : Nat) :
    tables'.row activityId = tables.row activityId := by
  induction rows generalizing tables with
  | nil =>
    obtain rfl := Except.ok.inj ran
    rfl
  | cons row rest ih =>
    obtain ⟨settled, first, ran⟩ := bind_eq_ok.1 (by simpa [List.foldlM_cons] using ran)
    have kept := settleAborted_row (found row List.mem_cons_self) first
    have foundRest : ∀ other ∈ rest, settled.row other.id = some other := by
      intro other member
      rw [kept]
      exact found other (List.mem_cons_of_mem row member)
    rw [ih foundRest ran, kept]

variable {now : Instant}

theorem abortPlannedEvents_row {input : AbortInput}
    (ran : abortPlannedEvents now input tables = .ok tables') (activityId : Nat) :
    tables'.row activityId = (tables.row activityId).map (input.onRow now) := by
  have written : ∀ other, ActivityTables.row { tables with
      activities := tables.activities.rewrite (input.onRow now) (input.onRow_id now) } other
        = (tables.row other).map (input.onRow now) :=
    fun other => Table.find?_rewrite tables.activities _ (input.onRow_id now) other
  rw [← written]
  refine settleAborted_rows ?_ ran activityId
  intro row member
  obtain ⟨matched, inside, rfl⟩ := List.mem_map.1 member
  obtain ⟨present, matches_⟩ := List.mem_filter.1 inside
  have onRow : input.onRow now matched = input.written now matched :=
    if_pos (of_decide_eq_true matches_)
  have found : tables.row matched.id = some matched := Table.find?_eq_some.2 ⟨present, rfl⟩
  have sameId : (input.written now matched).id = matched.id := rfl
  rw [sameId, written, found, Option.map_some, onRow]

theorem settleHashlessRow_row {candidate : HashlessCandidate}
    (ran : settleHashlessRow now tables candidate = .ok (tables', result)) :
    ∃ row event, tables.row candidate.id = some row ∧ (event = row.event ∨
        (row.event.status = .pending ∧ row.event.txHash = none ∧ event = failedWith now row.event
            ⟨hashlessFailureCode candidate, hashlessFailureReason candidate⟩))
      ∧ ∀ other, tables'.row other =
          if other = candidate.id then some { row with event := event } else tables.row other := by
  have keepsId : ∀ event result, runFailActivityEvent now event
      ⟨hashlessFailureCode candidate, hashlessFailureReason candidate⟩ .handlerReturn true true
        = .ok result → result.row.id = event.id := by
    intro event result wrote
    have ran : (TerminalWrite.failHashlessActivityEvent
      ⟨hashlessFailureCode candidate, hashlessFailureReason candidate⟩ true).run now event
        = .ok result := wrote
    exact (TerminalWrite.run_keepsLink ran).1
  obtain ⟨row, found, wrote, rows⟩ := settleLinkedActivityRows_row keepsId ran
  refine ⟨row, result.row, found, ?_, rows⟩
  rcases runTerminalCas_cases wrote with rfl | ⟨guard, pending, -, rfl⟩
  · exact .inl (terminalMiss_row _ _)
  · simp only [claimFence, Bool.not_true, Bool.false_or, Bool.true_and, Bool.and_eq_true,
      decide_eq_true_eq] at guard
    exact .inr ⟨pending, guard.1, rfl⟩

end Tables

/-- A sweep that is under way: the candidates it still has, those it has handled, and those it left
when it threw. -/
structure HashlessSweep where
  remaining : List HashlessCandidate
  handled : List Nat
  abandoned : List HashlessCandidate
  deriving DecidableEq

namespace HashlessRecovery

/-- The tables, what the signers were told is staged, what they sent, and the sweeps. -/
structure World where
  tables : ActivityTables
  staged : List (Nat × JsString)
  sent : List (Nat × JsString)
  sweeps : List HashlessSweep

def World.empty : World where
  tables := ⟨Table.empty, [], [], []⟩
  staged := []
  sent := []
  sweeps := []

inductive Event where
  /-- A row is inserted under an id that is not taken: pending and without a hash. -/
  | plan (row : PlannedActivity)
  | reserve (activityId : Nat) (now : Instant) (input : NonceReservation)
  | release (activityId token : Nat)
  | stage (activityId : Nat) (now : Instant) (input : MarkActivityBroadcastInput)
  | stageSolana (activityId : Nat) (now : Instant) (input : SolanaBroadcastInput)
  | submit (activityId : Nat) (txHash : JsString)
  | accepted (activityId : Nat) (now : Instant)
  /-- Another settlement of a row. -/
  | settle (activityId : Nat) (timed : TimedCall)
  /-- The handlers write the intents and the executions. -/
  | elsewhere (transactionIntents : List WalletTransactionIntent)
      (transferIntents : List WalletIntent) (executions : List (Nat × ExecutionCompletion))
  | discover (now : Instant) (leaseMs : Int) (limit : Nat)
  | handleNext (sweep : Nat) (now : Instant)
  | abort (now : Instant) (input : AbortInput)

section Steps

variable (lower : JsString → JsString) (world : World)

def inserted (row : PlannedActivity) : PlannedActivity :=
  { row with event := { row.event with status := .pending, txHash := none } }

/-- A statement on one row: it writes, or it misses and the row stays. -/
def World.onRow (activityId : Nat) (statement : PlannedActivity → Option PlannedActivity) : World :=
  match (world.tables.row activityId).bind statement with
  | none => world
  | some written => { world with tables := world.tables.putActivity written }

/-- A staging of a hash: where it wrote, the signer is told so. -/
def World.stageOn (activityId : Nat) (txHash : JsString)
    (statement : PlannedActivity → Option PlannedActivity) : World :=
  match (world.tables.row activityId).bind statement with
  | none => world
  | some written =>
    { world with
      tables := world.tables.putActivity written
      staged := (activityId, txHash) :: world.staged }

/-- The next turn of a sweep: it handles a candidate, or it throws and leaves the others. -/
def World.turn (now : Instant) (index : Nat) (sweep : HashlessSweep) : World :=
  match sweep.remaining with
  | [] => world
  | candidate :: rest =>
    match settleHashlessCandidate now world.tables candidate with
    | .ok (tables, _) =>
      { world with
        tables := tables
        sweeps := world.sweeps.set index ⟨rest, candidate.id :: sweep.handled, sweep.abandoned⟩ }
    | .error _ =>
      { world with sweeps := world.sweeps.set index ⟨[], candidate.id :: sweep.handled, rest⟩ }

def step : Event → World
  | .plan row =>
    match world.tables.row row.id with
    | none => { world with tables := world.tables.putActivity (inserted row) }
    | some _ => world
  | .reserve activityId now input =>
    world.onRow activityId fun row => reserveActivityEvmNonce lower now row input
  | .release activityId token => world.onRow activityId fun row => releaseActivityEvmNonce row token
  | .stage activityId now input =>
    world.stageOn activityId input.txHash fun row => markActivityBroadcast lower now row input
  | .stageSolana activityId now input =>
    world.stageOn activityId input.txHash fun row => markActivitySolanaBroadcast now row input
  | .submit activityId txHash =>
    if (activityId, txHash) ∈ world.staged then
      { world with sent := (activityId, txHash) :: world.sent }
    else world
  | .accepted activityId now => world.onRow activityId fun row => markBroadcastAccepted now row
  | .settle activityId timed =>
    match world.tables.row activityId with
    | none => world
    | some row =>
      match timed.call.run timed.now (world.tables.linkedRows row) with
      | .ok (settled, _) => { world with tables := world.tables.commit row settled }
      | .error _ => world
  | .elsewhere transactionIntents transferIntents executions =>
    { world with
      tables := { world.tables with
        transactionIntents := transactionIntents
        transferIntents := transferIntents
        executions := executions } }
  | .discover now leaseMs limit =>
    { world with
      sweeps := world.sweeps ++ [⟨hashlessCandidates now leaseMs limit world.tables, [], []⟩] }
  | .handleNext index now =>
    match world.sweeps[index]? with
    | none => world
    | some sweep => world.turn now index sweep
  | .abort now input =>
    match abortPlannedEvents now input world.tables with
    | .ok tables => { world with tables := tables }
    | .error _ => world

end Steps

def Event.Sweeps : Event → Prop
  | .handleNext _ _ => True
  | _ => False

/-- The event may end rows that were never signed. -/
def Event.Reaps : Event → Prop
  | .handleNext _ _ | .abort _ _ => True
  | _ => False

/-! ## One event -/

section OneEvent

variable {lower : JsString → JsString} {world : World}

def Keeps (world world' : World) : Prop :=
  ∀ activityId row, world.tables.row activityId = some row →
    ∃ row', world'.tables.row activityId = some row' ∧ Follows row row'

theorem keeps_of_same {world' : World} (same : world'.tables.activities = world.tables.activities) :
    Keeps world world' := by
  intro activityId row found
  refine ⟨row, ?_, Follows.refl row⟩
  unfold ActivityTables.row at found ⊢
  rw [same, found]

variable {row : PlannedActivity} {activityId : Nat}

theorem keeps_put {written : PlannedActivity} (found : world.tables.row activityId = some row)
    (follows : Follows row written) :
    Keeps world { world with tables := world.tables.putActivity written } := by
  intro other before foundOther
  have written_id : written.id = activityId := follows.id.trans (row_id found)
  dsimp only
  rw [row_putActivity]
  split_ifs with same
  · rw [same, written_id, found] at foundOther
    obtain rfl := Option.some.inj foundOther
    exact ⟨written, rfl, follows⟩
  · exact ⟨before, foundOther, Follows.refl before⟩

variable {statement : PlannedActivity → Option PlannedActivity}

theorem keeps_onRow (follows : ∀ row row', statement row = some row' → Follows row row') :
    Keeps world (world.onRow activityId statement) := by
  unfold World.onRow
  cases written : (world.tables.row activityId).bind statement with
  | none => exact keeps_of_same rfl
  | some row' =>
    obtain ⟨row, found, wrote⟩ := Option.bind_eq_some_iff.1 written
    exact keeps_put found (follows row row' wrote)

theorem keeps_stageOn {txHash : JsString}
    (follows : ∀ row row', statement row = some row' → Follows row row') :
    Keeps world (world.stageOn activityId txHash statement) := by
  unfold World.stageOn
  cases written : (world.tables.row activityId).bind statement with
  | none => exact keeps_of_same rfl
  | some row' =>
    obtain ⟨row, found, wrote⟩ := Option.bind_eq_some_iff.1 written
    exact keeps_put found (follows row row' wrote)

/-- A turn of a sweep, or an abort, leaves a row as it is or ends it unsigned. -/
def ReapedOrKept (row row' : PlannedActivity) : Prop :=
  row' = row ∨ (row.event.status = .pending ∧ row.event.txHash = none
    ∧ row'.event.status = .definitivelyFailed ∧ row'.event.txHash = none)

variable {now : Instant}

theorem turn_row {index : Nat} {sweep : HashlessSweep}
    (found : world.tables.row activityId = some row) :
    ∃ row', (world.turn now index sweep).tables.row activityId = some row' ∧ Follows row row'
      ∧ ReapedOrKept row row'
      ∧ (row' ≠ row → ∃ candidate ∈ sweep.remaining, candidate.id = activityId) := by
  have unchanged : ∃ row', world.tables.row activityId = some row' ∧ Follows row row'
      ∧ ReapedOrKept row row'
      ∧ (row' ≠ row → ∃ candidate ∈ sweep.remaining, candidate.id = activityId) :=
    ⟨row, found, Follows.refl row, .inl rfl, fun changed => absurd rfl changed⟩
  unfold World.turn
  cases remaining : sweep.remaining with
  | nil =>
    rw [remaining] at unchanged
    exact unchanged
  | cons candidate rest =>
    rw [remaining] at unchanged
    dsimp only
    cases ran : settleHashlessCandidate now world.tables candidate with
    | error refused => exact unchanged
    | ok settled =>
      obtain ⟨tables, result⟩ := settled
      obtain ⟨-, -, ran⟩ := bind_eq_ok.1 ran
      have ran := mapError_eq_ok.1 ran
      obtain ⟨own, event, foundOwn, wrote, rows⟩ := settleHashlessRow_row ran
      dsimp only
      rw [rows]
      split_ifs with named
      · rw [named, foundOwn] at found
        obtain rfl := Option.some.inj found
        have inside : ∃ other ∈ candidate :: rest, other.id = activityId :=
          ⟨candidate, List.mem_cons_self, named.symm⟩
        rcases wrote with rfl | ⟨pending, hashless, rfl⟩
        · exact ⟨_, rfl, Follows.refl _, .inl rfl, fun _ => inside⟩
        · refine ⟨_, rfl, ?_, .inr ⟨pending, hashless, rfl, hashless⟩, fun _ => inside⟩
          exact Follows.of_pending rfl rfl rfl (.inr rfl) pending
      · exact unchanged

theorem abort_row (lower : JsString → JsString) {input : AbortInput}
    (found : world.tables.row activityId = some row) :
    ∃ row', (step lower world (.abort now input)).tables.row activityId = some row'
      ∧ Follows row row' ∧ ReapedOrKept row row' := by
  unfold step
  dsimp only
  cases ran : abortPlannedEvents now input world.tables with
  | error refused => exact ⟨row, found, Follows.refl row, .inl rfl⟩
  | ok tables =>
    dsimp only
    rw [abortPlannedEvents_row ran, found, Option.map_some]
    refine ⟨_, rfl, ?_⟩
    unfold AbortInput.onRow
    split_ifs with matched
    · obtain ⟨-, -, -, pending, hashless⟩ := matched
      refine ⟨Follows.of_pending rfl rfl rfl (.inr rfl) pending, .inr ?_⟩
      exact ⟨pending, hashless, rfl, hashless⟩
    · exact ⟨Follows.refl row, .inl rfl⟩

end OneEvent

/-! ## What every run keeps -/

/-- What the world keeps: a hash a signer was told of is staged, what was sent was staged, and a
candidate is a row with its role and session, that is signed here. -/
structure Inv (world : World) : Prop where
  staged : ∀ activityId txHash, (activityId, txHash) ∈ world.staged →
    ∃ row, world.tables.row activityId = some row ∧ row.event.txHash = some txHash
  sent : ∀ entry ∈ world.sent, entry ∈ world.staged
  candidates : ∀ sweep ∈ world.sweeps, ∀ candidate ∈ sweep.remaining,
    candidate.eventRole ∈ locallySignableActivityRoles
      ∧ ∃ row, world.tables.row candidate.id = some row
        ∧ row.event.eventRole = candidate.eventRole ∧ row.event.sessionId = candidate.sessionId

section Keeping

variable {lower : JsString → JsString} {world : World}

theorem keeps_step (lower : JsString → JsString) (world : World) (event : Event) : Keeps world (step lower world event) := by
  cases event with
  | plan planned =>
    unfold step
    dsimp only
    cases taken : world.tables.row planned.id with
    | some other => exact keeps_of_same rfl
    | none =>
      intro activityId row found
      refine ⟨row, ?_, Follows.refl row⟩
      dsimp only
      rw [row_putActivity, if_neg]
      · exact found
      · rintro rfl
        exact Option.some_ne_none row (found.symm.trans taken)
  | reserve activityId now input => exact keeps_onRow fun _ _ wrote => follows_reserve wrote
  | release activityId token => exact keeps_onRow fun _ _ wrote => follows_release wrote
  | stage activityId now input => exact keeps_stageOn fun _ _ wrote => (staged_evm wrote).1
  | stageSolana activityId now input =>
    exact keeps_stageOn fun _ _ wrote => (staged_solana wrote).1
  | submit activityId txHash =>
    unfold step
    dsimp only
    split_ifs
    · exact keeps_of_same rfl
    · exact keeps_of_same rfl
  | accepted activityId now => exact keeps_onRow fun _ _ wrote => follows_accepted wrote
  | settle activityId timed =>
    unfold step
    dsimp only
    cases found : world.tables.row activityId with
    | none => exact keeps_of_same rfl
    | some row =>
      dsimp only
      cases ran : timed.call.run timed.now (world.tables.linkedRows row) with
      | error refused => exact keeps_of_same rfl
      | ok settled =>
        have endures := endures_call ran
        exact keeps_put found (Follows.of_endures endures)
  | elsewhere => exact keeps_of_same rfl
  | discover => exact keeps_of_same rfl
  | handleNext index now =>
    unfold step
    dsimp only
    cases world.sweeps[index]? with
    | none => exact keeps_of_same rfl
    | some sweep =>
      intro activityId row found
      obtain ⟨row', found', follows, -⟩ := turn_row found
      exact ⟨row', found', follows⟩
  | abort now input =>
    intro activityId row found
    obtain ⟨row', found', follows, -⟩ := abort_row lower found
    exact ⟨row', found', follows⟩

theorem sweeps_quiet (event : Event) (turnless : ∀ index now, event ≠ .handleNext index now)
    (found : ∀ now leaseMs limit, event ≠ .discover now leaseMs limit) :
    (step lower world event).sweeps = world.sweeps := by
  have onRow : ∀ activityId statement, (world.onRow activityId statement).sweeps = world.sweeps := by
    intro activityId statement
    unfold World.onRow
    split <;> rfl
  have stageOn : ∀ activityId txHash statement,
      (world.stageOn activityId txHash statement).sweeps = world.sweeps := by
    intro activityId txHash statement
    unfold World.stageOn
    split <;> rfl
  cases event with
  | handleNext index now => exact absurd rfl (turnless index now)
  | discover now leaseMs limit => exact absurd rfl (found now leaseMs limit)
  | reserve | release | accepted => exact onRow _ _
  | stage | stageSolana => exact stageOn _ _ _
  | elsewhere => rfl
  | plan | submit | abort =>
    unfold step
    dsimp only
    split <;> rfl
  | settle activityId timed =>
    unfold step
    dsimp only
    split
    · rfl
    · split <;> rfl

theorem turn_signers (now : Instant) (index : Nat) (sweep : HashlessSweep) :
    (world.turn now index sweep).staged = world.staged
      ∧ (world.turn now index sweep).sent = world.sent := by
  unfold World.turn
  cases sweep.remaining with
  | nil => exact ⟨rfl, rfl⟩
  | cons candidate rest =>
    dsimp only
    cases settleHashlessCandidate now world.tables candidate with
    | error refused => exact ⟨rfl, rfl⟩
    | ok settled => exact ⟨rfl, rfl⟩

theorem onRow_signers (activityId : Nat) (statement : PlannedActivity → Option PlannedActivity) :
    (world.onRow activityId statement).staged = world.staged
      ∧ (world.onRow activityId statement).sent = world.sent := by
  unfold World.onRow
  cases (world.tables.row activityId).bind statement with
  | none => exact ⟨rfl, rfl⟩
  | some written => exact ⟨rfl, rfl⟩

/-- What an event tells the signers, and what they send. -/
inductive Signals (world world' : World) : Prop
  | silent (staged : world'.staged = world.staged) (sent : world'.sent = world.sent)
  | told (activityId : Nat) (txHash : JsString) (row : PlannedActivity)
      (staged : world'.staged = (activityId, txHash) :: world.staged)
      (sent : world'.sent = world.sent) (found : world'.tables.row activityId = some row)
      (hash : row.event.txHash = some txHash)
  | submitted (entry : Nat × JsString) (held : entry ∈ world.staged)
      (staged : world'.staged = world.staged) (sent : world'.sent = entry :: world.sent)

theorem stageOn_signals {activityId : Nat} {txHash : JsString}
    {statement : PlannedActivity → Option PlannedActivity}
    (wrote : ∀ row row', statement row = some row' →
      Follows row row' ∧ row'.event.txHash = some txHash) :
    Signals world (world.stageOn activityId txHash statement) := by
  unfold World.stageOn
  cases written : (world.tables.row activityId).bind statement with
  | none => exact .silent rfl rfl
  | some row' =>
    obtain ⟨row, found, ran⟩ := Option.bind_eq_some_iff.1 written
    obtain ⟨follows, hash⟩ := wrote row row' ran
    have same : activityId = row'.id := (row_id found).symm.trans follows.id.symm
    refine .told activityId txHash row' rfl rfl ?_ hash
    dsimp only
    rw [row_putActivity, if_pos same]

theorem signals_step (lower : JsString → JsString) (world : World) (event : Event) :
    Signals world (step lower world event) := by
  cases event with
  | plan planned =>
    unfold step
    dsimp only
    cases world.tables.row planned.id with
    | some other => exact .silent rfl rfl
    | none => exact .silent rfl rfl
  | reserve activityId now input | release activityId token | accepted activityId now =>
    exact .silent (onRow_signers _ _).1 (onRow_signers _ _).2
  | stage activityId now input => exact stageOn_signals fun _ _ wrote => staged_evm wrote
  | stageSolana activityId now input => exact stageOn_signals fun _ _ wrote => staged_solana wrote
  | submit activityId txHash =>
    unfold step
    dsimp only
    split_ifs with held
    · exact .submitted (activityId, txHash) held rfl rfl
    · exact .silent rfl rfl
  | settle activityId timed =>
    unfold step
    dsimp only
    cases world.tables.row activityId with
    | none => exact .silent rfl rfl
    | some row =>
      dsimp only
      cases timed.call.run timed.now (world.tables.linkedRows row) with
      | error refused => exact .silent rfl rfl
      | ok settled => exact .silent rfl rfl
  | elsewhere => exact .silent rfl rfl
  | discover => exact .silent rfl rfl
  | handleNext index now =>
    unfold step
    dsimp only
    cases world.sweeps[index]? with
    | none => exact .silent rfl rfl
    | some sweep => exact .silent (turn_signers _ _ _).1 (turn_signers _ _ _).2
  | abort now input =>
    unfold step
    dsimp only
    cases abortPlannedEvents now input world.tables with
    | error refused => exact .silent rfl rfl
    | ok tables => exact .silent rfl rfl

variable {now : Instant}

theorem candidate_found {leaseMs : Int} {limit : Nat} {tables : ActivityTables}
    {candidate : HashlessCandidate}
    (member : candidate ∈ hashlessCandidates now leaseMs limit tables) :
    candidate.eventRole ∈ locallySignableActivityRoles ∧ ∃ row, tables.row candidate.id = some row
        ∧ row.event.eventRole = candidate.eventRole ∧ row.event.sessionId = candidate.sessionId := by
  obtain ⟨row, taken, rfl⟩ := List.mem_map.1 member
  have sorted := List.mem_of_mem_take taken
  obtain ⟨present, stale⟩ := List.mem_filter.1 ((List.mem_insertionSort _).1 sorted)
  simp only [staleHashless, Bool.decide_and, Bool.and_eq_true, decide_eq_true_eq] at stale
  exact ⟨stale.2.2.2.1, row, Table.find?_eq_some.2 ⟨present, rfl⟩, rfl, rfl⟩

variable {sweep : HashlessSweep}

theorem turn_sweeps {index : Nat} {after_ : HashlessSweep}
    (found : world.sweeps[index]? = some sweep)
    (member : after_ ∈ (world.turn now index sweep).sweeps) :
    ∃ before ∈ world.sweeps, ∀ candidate ∈ after_.remaining, candidate ∈ before.remaining := by
  unfold World.turn at member
  have present : sweep ∈ world.sweeps := List.mem_of_getElem? found
  cases remaining : sweep.remaining with
  | nil =>
    rw [remaining] at member
    exact ⟨after_, member, fun _ inside => inside⟩
  | cons candidate rest =>
    rw [remaining] at member
    dsimp only at member
    cases ran : settleHashlessCandidate now world.tables candidate with
    | error refused =>
      rw [ran] at member
      rcases List.mem_or_eq_of_mem_set member with old | rfl
      · exact ⟨after_, old, fun _ inside => inside⟩
      · exact ⟨sweep, present, fun _ inside => by cases inside⟩
    | ok settled =>
      rw [ran] at member
      rcases List.mem_or_eq_of_mem_set member with old | rfl
      · exact ⟨after_, old, fun _ inside => inside⟩
      · refine ⟨sweep, present, fun _ inside => ?_⟩
        rw [remaining]
        exact List.mem_cons_of_mem candidate inside

theorem sweeps_step {event : Event} (member : sweep ∈ (step lower world event).sweeps) :
    (∃ before ∈ world.sweeps, ∀ candidate ∈ sweep.remaining, candidate ∈ before.remaining)
      ∨ ∃ now leaseMs limit, event = .discover now leaseMs limit
        ∧ sweep = ⟨hashlessCandidates now leaseMs limit world.tables, [], []⟩ := by
  have same : sweep ∈ world.sweeps →
      ∃ before ∈ world.sweeps, ∀ candidate ∈ sweep.remaining, candidate ∈ before.remaining :=
    fun old => ⟨sweep, old, fun _ inside => inside⟩
  cases event with
  | discover now leaseMs limit =>
    rcases List.mem_append.1 member with old | new
    · exact .inl (same old)
    · exact .inr ⟨now, leaseMs, limit, rfl, List.mem_singleton.1 new⟩
  | handleNext index now =>
    unfold step at member
    dsimp only at member
    cases found : world.sweeps[index]? with
    | none =>
      rw [found] at member
      exact .inl (same member)
    | some before =>
      rw [found] at member
      exact .inl (turn_sweeps found member)
  | _ =>
    rw [sweeps_quiet _ (by simp) (by simp)] at member
    exact .inl (same member)

theorem inv_empty : Inv World.empty where
  staged := nofun
  sent := nofun
  candidates := nofun

theorem inv_step (inv : Inv world) (event : Event) : Inv (step lower world event) where
  staged activityId txHash told := by
    have kept : (activityId, txHash) ∈ world.staged → ∃ row,
        (step lower world event).tables.row activityId = some row
          ∧ row.event.txHash = some txHash := by
      intro old
      obtain ⟨row, found, hash⟩ := inv.staged activityId txHash old
      obtain ⟨row', found', follows⟩ := keeps_step lower world event activityId row found
      exact ⟨row', found', follows.staged txHash hash⟩
    cases signals_step lower world event with
    | silent staged sent => exact kept (staged ▸ told)
    | submitted entry held staged sent => exact kept (staged ▸ told)
    | told id' hash' row staged sent found hash =>
      rw [staged] at told
      rcases List.mem_cons.1 told with same | old
      · obtain ⟨rfl, rfl⟩ := Prod.mk.inj same
        exact ⟨row, found, hash⟩
      · exact kept old
  sent entry member := by
    cases signals_step lower world event with
    | silent staged sent =>
      rw [staged]
      exact inv.sent entry (sent ▸ member)
    | told id' hash' row staged sent found hash =>
      rw [staged]
      exact List.mem_cons_of_mem _ (inv.sent entry (sent ▸ member))
    | submitted entry' held staged sent =>
      rw [staged]
      rw [sent] at member
      rcases List.mem_cons.1 member with rfl | old
      · exact held
      · exact inv.sent entry old
  candidates sweep member candidate inside := by
    have kept : (candidate.eventRole ∈ locallySignableActivityRoles
        ∧ ∃ row, world.tables.row candidate.id = some row
          ∧ row.event.eventRole = candidate.eventRole
          ∧ row.event.sessionId = candidate.sessionId) →
        candidate.eventRole ∈ locallySignableActivityRoles
          ∧ ∃ row, (step lower world event).tables.row candidate.id = some row
            ∧ row.event.eventRole = candidate.eventRole
            ∧ row.event.sessionId = candidate.sessionId := by
      rintro ⟨signable, row, found, role, session⟩
      obtain ⟨row', found', follows⟩ := keeps_step lower world event candidate.id row found
      exact ⟨signable, row', found', follows.role.trans role, follows.session.trans session⟩
    rcases sweeps_step member with ⟨before, old, remaining⟩ | ⟨now, leaseMs, limit, rfl, rfl⟩
    · exact kept (inv.candidates before old candidate (remaining candidate inside))
    · exact kept (candidate_found inside)

/-! ## Where no settlement is refused -/

/-- An intent that a crash may settle: it and the activity agree, no hash is staged, and it waits
for the outcome or states it already. -/
def CrashSettles {ι : Type} (arm : IntentArm ι) (activity : AgentActivityEvent) (intent : ι) : Prop :=
  arm.Linked activity intent ∧ activity.txHash = none ∧ (arm.phase intent = .consuming
    ∨ arm.matchesOutcome intent activity .crashedBeforeBroadcast = true)

/-- The rows linked to an activity let a crash be recorded. -/
def LinkedRows.CrashSettles (rows : LinkedRows) : Prop :=
  match rows.linkedTransactionIntent, rows.linkedTransferIntent with
  | none, none => True
  | some intent, none =>
    HashlessRecovery.CrashSettles transactionArm rows.activity intent ∧ rows.execution ≠ none
  | none, some intent => HashlessRecovery.CrashSettles transferArm rows.activity intent
  | some _, some _ => False

def Settleable (tables : ActivityTables) (candidate : HashlessCandidate) : Prop :=
  candidate.id ≤ maxSafeInteger
    ∧ ∀ row, tables.row candidate.id = some row → LinkedRows.CrashSettles (tables.linkedRows row)

/-- No turn of the run is refused while its sweep has more candidates. -/
def NoneRefused (world : World) : Event → Prop
  | .handleNext index _ =>
    ∀ sweep candidate rest, world.sweeps[index]? = some sweep →
      sweep.remaining = candidate :: rest → rest ≠ [] → Settleable world.tables candidate
  | _ => True

theorem settle_of_crashSettles {ι : Type} {arm : IntentArm ι} (lawful : arm.Lawful)
    {activity : AgentActivityEvent} {intent : ι} (settles : CrashSettles arm activity intent)
    (safe : activity.id ≤ maxSafeInteger) :
    arm.assertCanSettle intent activity .crashedBeforeBroadcast = .ok ()
      ∧ ∃ settled, arm.settle intent activity .crashedBeforeBroadcast = .ok settled := by
  obtain ⟨linked, hashless, waits⟩ := settles
  have fits : HashFits activity .crashedBeforeBroadcast := by simp [HashFits, hashless]
  refine ⟨(lawful.assertion intent activity .crashedBeforeBroadcast).2 ⟨fits, waits⟩, ?_⟩
  rcases waits with consuming | states
  · exact lawful.crashes activity intent linked safe consuming
  · exact ⟨intent, lawful.matched intent activity _ states⟩

theorem hashless_write_ok (now : Instant) (row : AgentActivityEvent)
    (input : FailActivityEventInput) :
    ∃ result, runFailActivityEvent now row input .handlerReturn true true = .ok result
      ∧ result.row.id = row.id := by
  have admitted : (failedWith now row input).checks = true := by
    simp [AgentActivityEvent.checks, failedWith]
  unfold runFailActivityEvent runTerminalCas
  split_ifs with matched
  · exact ⟨_, rfl, rfl⟩
  · exact ⟨_, rfl, congrArg AgentActivityEvent.id (terminalMiss_row .handlerReturn row)⟩

theorem settleLinked_ok {rows : LinkedRows} {target : LinkedActivityTarget}
    {write : AgentActivityEvent → Except ActivityError CasResult} {result : CasResult}
    (settles : LinkedRows.CrashSettles rows) (safe : rows.activity.id ≤ maxSafeInteger)
    (wrote : write rows.activity = .ok result) (kept : result.row.id = rows.activity.id) :
    ∃ settled, settleLinkedActivityRowsWith rows rows.activity.sessionId .crashedBeforeBroadcast
      target write = .ok settled := by
  have sameTransaction :
      (rows.withActivity result.row).linkedTransactionIntent = rows.linkedTransactionIntent := by
    simp only [LinkedRows.linkedTransactionIntent, LinkedRows.withActivity, kept]
  have sameTransfer :
      (rows.withActivity result.row).linkedTransferIntent = rows.linkedTransferIntent := by
    simp only [LinkedRows.linkedTransferIntent, LinkedRows.withActivity, kept]
  have session : requireActivity rows.activity rows.activity.sessionId = .ok () := by
    simp [requireActivity]
  unfold LinkedRows.CrashSettles at settles
  unfold settleLinkedActivityRowsWith
  cases transaction : rows.linkedTransactionIntent with
  | none =>
    cases transfer : rows.linkedTransferIntent with
    | none =>
      have alone : settleTransactionRows rows.activity .crashedBeforeBroadcast
          (rows.withActivity result.row) = .ok (rows.withActivity result.row) := by
        simp only [settleTransactionRows, sameTransaction, transaction]
      have aloneToo : settleTransferRows rows.activity .crashedBeforeBroadcast
          (rows.withActivity result.row) = .ok (rows.withActivity result.row) := by
        simp only [settleTransferRows, sameTransfer, transfer]
      simp only [session, ok_bind, whenLinked, wrote, Except.mapError, refuseIf, alone, aloneToo,
        Option.isSome_none, Bool.false_eq_true, false_and, if_false, reduceCtorEq]
      split_ifs
      · exact ⟨_, rfl⟩
      · exact ⟨_, rfl⟩
    | some intent =>
      rw [transaction, transfer] at settles
      obtain ⟨asserted, moved, settledOk⟩ :=
        settle_of_crashSettles transferArm_lawful settles safe
      have asserted : assertTransferIntentCanSettle intent rows.activity
        .crashedBeforeBroadcast = .ok () := asserted
      have settledOk : settleTransferIntent intent rows.activity .crashedBeforeBroadcast
        = .ok moved := settledOk
      obtain ⟨⟨link, own, role, kind, family⟩, -⟩ := settles
      have valid : validateTransferLinkedRows rows.activity intent rows.activity.sessionId
          = .ok () := by
        simp [validateTransferLinkedRows, refuseIf, link, ← own, role, kind, family, bind,
          Except.bind]
      have alone : settleTransactionRows rows.activity .crashedBeforeBroadcast
          (rows.withActivity result.row) = .ok (rows.withActivity result.row) := by
        simp only [settleTransactionRows, sameTransaction, transaction]
      have settled : ∃ committed, settleTransferRows rows.activity .crashedBeforeBroadcast
          (rows.withActivity result.row) = .ok committed := by
        rw [settleTransferRows_found (sameTransfer.trans transfer), settledOk]
        exact ⟨_, rfl⟩
      obtain ⟨committed, settled⟩ := settled
      simp only [session, ok_bind, whenLinked, wrote, Except.mapError, refuseIf, alone, settled,
        valid, asserted, Option.isSome_none, Bool.false_eq_true, false_and, if_false,
        reduceCtorEq]
      split_ifs
      · exact ⟨_, rfl⟩
      · exact ⟨_, rfl⟩
  | some intent =>
    cases transfer : rows.linkedTransferIntent with
    | some other =>
      rw [transaction, transfer] at settles
      exact settles.elim
    | none =>
      rw [transaction, transfer] at settles
      obtain ⟨settles, executed⟩ := settles
      obtain ⟨asserted, moved, settledOk⟩ :=
        settle_of_crashSettles transactionArm_lawful settles safe
      have asserted : assertIntentCanSettle intent rows.activity
        .crashedBeforeBroadcast = .ok () := asserted
      have settledOk : settleIntent intent rows.activity .crashedBeforeBroadcast
        = .ok moved := settledOk
      obtain ⟨⟨link, own, -⟩, -⟩ := settles
      have valid : validateLinkedRows rows.activity rows.execution intent
          rows.activity.sessionId = .ok () := by
        simp [validateLinkedRows, refuseIf, link, ← own, executed, bind, Except.bind]
      obtain ⟨committed, settled, sameLater⟩ : ∃ committed,
          settleTransactionRows rows.activity .crashedBeforeBroadcast
            (rows.withActivity result.row) = .ok committed
          ∧ committed.linkedTransferIntent = none := by
        rw [settleTransactionRows_found (sameTransaction.trans transaction), settledOk]
        exact ⟨_, rfl, sameTransfer.trans transfer⟩
      have alone : settleTransferRows rows.activity .crashedBeforeBroadcast committed
          = .ok committed := by
        simp only [settleTransferRows, sameLater]
      simp only [session, ok_bind, whenLinked, wrote, Except.mapError, refuseIf, alone, settled,
        valid, asserted, Option.isSome_none, Option.isSome_some, Bool.false_eq_true, and_false,
        false_and, if_false, reduceCtorEq]
      split_ifs
      · exact ⟨_, rfl⟩
      · exact ⟨_, rfl⟩

theorem settleHashlessCandidate_ok {world : World} (inv : Inv world)
    (present : sweep ∈ world.sweeps) {candidate : HashlessCandidate}
    (member : candidate ∈ sweep.remaining) (settleable : Settleable world.tables candidate)
    (now : Instant) :
    ∃ settled, settleHashlessCandidate now world.tables candidate = .ok settled := by
  obtain ⟨safe, settles⟩ := settleable
  obtain ⟨-, row, found, -, session⟩ := inv.candidates sweep present candidate member
  obtain ⟨result, wrote, kept⟩ := hashless_write_ok now row.event
    ⟨hashlessFailureCode candidate, hashlessFailureReason candidate⟩
  have own : row.event.id = candidate.id := row_id found
  obtain ⟨settled, ran⟩ : ∃ settled, settleLinkedActivityRowsWith (world.tables.linkedRows row)
      row.event.sessionId .crashedBeforeBroadcast
      (.definitivelyFailed (hashlessFailureCode candidate)) (fun event =>
        runFailActivityEvent now event
          ⟨hashlessFailureCode candidate, hashlessFailureReason candidate⟩ .handlerReturn true true)
        = .ok settled :=
    settleLinked_ok (settles row found) (le_of_eq_of_le own safe) wrote kept
  rw [session] at ran
  have unsafeFree : ¬ maxSafeInteger < candidate.id := Nat.not_lt.2 safe
  simp only [settleHashlessCandidate, settleHashlessRow, ActivityTables.settleLinkedActivityRows,
    refuseIf, if_neg unsafeFree, ok_bind, found, ran, Except.mapError]
  exact ⟨_, rfl⟩

end Keeping

theorem turn_abandons {world : World} (inv : Inv world) {now : Instant} {index : Nat}
    {sweep after_ : HashlessSweep} (found : world.sweeps[index]? = some sweep)
    (settleable : NoneRefused world (.handleNext index now))
    (nothing : ∀ before ∈ world.sweeps, before.abandoned = [])
    (member : after_ ∈ (world.turn now index sweep).sweeps) : after_.abandoned = [] := by
  have present : sweep ∈ world.sweeps := List.mem_of_getElem? found
  unfold World.turn at member
  cases remaining : sweep.remaining with
  | nil =>
    rw [remaining] at member
    exact nothing after_ member
  | cons candidate rest =>
    rw [remaining] at member
    dsimp only at member
    cases ran : settleHashlessCandidate now world.tables candidate with
    | ok settled =>
      rw [ran] at member
      rcases List.mem_or_eq_of_mem_set member with old | rfl
      · exact nothing after_ old
      · exact nothing sweep present
    | error refused =>
      rw [ran] at member
      rcases List.mem_or_eq_of_mem_set member with old | rfl
      · exact nothing after_ old
      · -- a refused candidate is the last one
        by_contra more
        have inside : candidate ∈ sweep.remaining := by
          rw [remaining]
          exact List.mem_cons_self
        obtain ⟨settled, passes⟩ := settleHashlessCandidate_ok inv present inside
          (settleable sweep candidate rest found remaining more) now
        rw [ran] at passes
        cases passes

theorem abandons_step {lower : JsString → JsString} {world : World} (inv : Inv world) {event : Event}
    (settleable : NoneRefused world event)
    (nothing : ∀ before ∈ world.sweeps, before.abandoned = []) :
    ∀ sweep ∈ (step lower world event).sweeps, sweep.abandoned = [] := by
  intro sweep member
  cases event with
  | discover now leaseMs limit =>
    rcases List.mem_append.1 member with old | new
    · exact nothing sweep old
    · rw [List.mem_singleton.1 new]
  | handleNext index now =>
    unfold step at member
    dsimp only at member
    cases found : world.sweeps[index]? with
    | none =>
      rw [found] at member
      exact nothing sweep member
    | some before =>
      rw [found] at member
      exact turn_abandons inv found settleable nothing member
  | _ =>
    rw [sweeps_quiet _ (by simp) (by simp)] at member
    exact nothing sweep member

/-! ## Every run -/

/-- The roles of the rows of a bridge that are not signed here. -/
def logicalBridgeRoles : List AgentActivityEventRole :=
  [.bridgeFillExpected, .bridgeFillObserved, .bridgeRefund]

/-- What a run promises, wherever it is cut. -/
structure RecoversHashless (lower : JsString → JsString) (events : List Event) : Prop where
  /-- A sweep and an abort leave a row as it is, or end a pending row without a hash. -/
  reaps : ∀ before event later, events = before ++ event :: later → event.Reaps →
    ∀ activityId row row', (run (step lower) World.empty before).tables.row activityId = some row →
      (run (step lower) World.empty (before ++ [event])).tables.row activityId = some row' →
        ReapedOrKept row row'
  /-- A sweep ends no logical row of a bridge. -/
  signedHere : ∀ before event later, events = before ++ event :: later → event.Sweeps →
    ∀ activityId row row', (run (step lower) World.empty before).tables.row activityId = some row →
      (run (step lower) World.empty (before ++ [event])).tables.row activityId = some row' →
        row' ≠ row → row.event.eventRole ∉ logicalBridgeRoles
  /-- A row that was ended without a hash stays so, and nothing of it was staged or sent. -/
  unsent : ∀ before later, events = before ++ later →
    ∀ activityId row, (run (step lower) World.empty before).tables.row activityId = some row →
      row.event.status ≠ .pending → row.event.txHash = none →
        (∃ row', (run (step lower) World.empty events).tables.row activityId = some row'
          ∧ row'.event.status ≠ .pending ∧ row'.event.txHash = none)
        ∧ ∀ txHash, (activityId, txHash) ∉ (run (step lower) World.empty events).staged
          ∧ (activityId, txHash) ∉ (run (step lower) World.empty events).sent
  /-- No sweep leaves a candidate it found. -/
  handles : ∀ sweep ∈ (run (step lower) World.empty events).sweeps, sweep.abandoned = []

section Runs

variable {lower : JsString → JsString}

theorem inv_run (lower : JsString → JsString) (events : List Event) :
    Inv (run (step lower) World.empty events) :=
  run_induction (motive := Inv) (fun _ event inv => inv_step inv event) inv_empty events

theorem keeps_run (lower : JsString → JsString) (world : World) (events : List Event) :
    Keeps world (run (step lower) world events) := by
  induction events generalizing world with
  | nil => exact keeps_of_same rfl
  | cons event events ih =>
    intro activityId row found
    obtain ⟨row', found', follows⟩ := keeps_step lower world event activityId row found
    obtain ⟨row'', found'', follows'⟩ := ih (step lower world event) activityId row' found'
    exact ⟨row'', found'', follows.trans follows'⟩

theorem reaped_step {world : World} (inv : Inv world) {event : Event} (reaps : event.Reaps)
    {activityId : Nat} {row row' : PlannedActivity}
    (found : world.tables.row activityId = some row)
    (found' : (step lower world event).tables.row activityId = some row') :
    ReapedOrKept row row'
      ∧ (event.Sweeps → row' ≠ row → row.event.eventRole ∉ logicalBridgeRoles) := by
  cases event with
  | handleNext index now =>
    unfold step at found'
    dsimp only at found'
    cases foundSweep : world.sweeps[index]? with
    | none =>
      rw [foundSweep] at found'
      obtain rfl := Option.some.inj (found.symm.trans found')
      exact ⟨.inl rfl, fun _ changed => absurd rfl changed⟩
    | some sweep =>
      rw [foundSweep] at found'
      obtain ⟨written, foundWritten, -, kept, candidates⟩ := turn_row found
      obtain rfl := Option.some.inj (foundWritten.symm.trans found')
      refine ⟨kept, fun _ changed => ?_⟩
      obtain ⟨candidate, inside, rfl⟩ := candidates changed
      obtain ⟨signable, own, foundOwn, role, -⟩ :=
        inv.candidates sweep (List.mem_of_getElem? foundSweep) candidate inside
      obtain rfl := Option.some.inj (found.symm.trans foundOwn)
      rw [role]
      revert signable
      cases candidate.eventRole <;> decide
  | abort now input =>
    obtain ⟨written, foundWritten, -, kept⟩ := abort_row lower found
    obtain rfl := Option.some.inj (foundWritten.symm.trans found')
    exact ⟨kept, False.elim⟩
  | _ => exact reaps.elim

end Runs

/-- In every run in which no settlement of a candidate is refused while its sweep has more, the
recovery of hashless rows keeps its promise. -/
theorem hashless_recovery_sound (lower : JsString → JsString) (events : List Event)
    (settleable : Along (step lower) NoneRefused World.empty events) :
    RecoversHashless lower events where
  reaps before event later cut reaps activityId row row' found found' := by
    rw [run_concat] at found'
    exact (reaped_step (inv_run lower before) reaps found found').1
  signedHere before event later cut sweeps activityId row row' found found' := by
    rw [run_concat] at found'
    have reaps : event.Reaps := by
      cases event with
      | handleNext index now => trivial
      | _ => exact sweeps.elim
    exact (reaped_step (inv_run lower before) reaps found found').2 sweeps
  unsent before later cut activityId row found ended hashless := by
    subst cut
    rw [run_append]
    obtain ⟨row', found', follows⟩ :=
      keeps_run lower (run (step lower) World.empty before) later activityId row found
    obtain ⟨ended', same⟩ := follows.ended ended
    have inv := inv_run lower (before ++ later)
    rw [run_append] at inv
    have unstaged : ∀ txHash, (activityId, txHash) ∉
        (run (step lower) (run (step lower) World.empty before) later).staged := by
      intro txHash told
      obtain ⟨own, foundOwn, hash⟩ := inv.staged activityId txHash told
      obtain rfl := Option.some.inj (found'.symm.trans foundOwn)
      rw [same, hashless] at hash
      cases hash
    refine ⟨⟨row', found', ended', same.trans hashless⟩, fun txHash => ⟨unstaged txHash, ?_⟩⟩
    exact fun sent => unstaged txHash (inv.sent _ sent)
  handles := by
    have kept : Inv (run (step lower) World.empty events)
        ∧ ∀ sweep ∈ (run (step lower) World.empty events).sweeps, sweep.abandoned = [] := by
      refine Along.induction (motive := fun world =>
        Inv world ∧ ∀ sweep ∈ world.sweeps, sweep.abandoned = []) ?_ ⟨inv_empty, nofun⟩ settleable
      rintro world event passes ⟨inv, nothing⟩
      exact ⟨inv_step inv event, abandons_step inv passes nothing⟩
    exact kept.2

def plannedRow (activityId : Nat) (eventRole : AgentActivityEventRole) (kind : AgentActivityKind) :
    PlannedActivity where
  event :=
    { id := activityId, protocolExecutionId := activityId, eventRole := eventRole, kind := kind
      chainFamily := .eip155, chainId := 1, sessionId := some (JsString.ofString "s")
      status := .pending, failureCode := none, failureReason := none, tokenIn2Address := none
      tokenOut2Address := none, executed := ⟨none, none, none, none, none, none, none, none⟩
      txHash := none, nonceReservationUntil := none, submitAttemptedAt := none
      lastCheckedAt := none, confirmedAt := none, updatedAt := 0, confirmationSource := none
      settlementSource := none, pendingReason := none, evmClaimLeaseUntil := none
      evmClaimToken := none, firstNoninclusionObservedAt := none }
  eventIndex := 0
  createdAt := 0
  walletAddress := JsString.ofString "0xa"
  evidenceSource := none
  fromAddress := none
  nonce := none
  nonceReservationToken := none
  recentBlockhash := none
  lastValidBlockHeight := none
  broadcastAt := none

def twoStaleSwaps : List Event :=
  [.plan (plannedRow 1 .swap .swap), .plan (plannedRow 2 .swap .swap),
    .discover 1000000 hashlessIntentRecoveryLeaseMs 25, .handleNext 0 1000000,
    .handleNext 0 1000000]

theorem hashless_recovery_sound_swaps : RecoversHashless id twoStaleSwaps :=
  hashless_recovery_sound id twoStaleSwaps (by
    refine ⟨trivial, trivial, trivial, ?_, ?_, trivial⟩
    · intro sweep candidate rest found remaining more
      have only : (run (step id) World.empty (twoStaleSwaps.take 3)).sweeps[0]? =
          some ⟨[⟨1, some (JsString.ofString "s"), .swap⟩, ⟨2, some (JsString.ofString "s"), .swap⟩],
            [], []⟩ := by decide
      obtain rfl := Option.some.inj (only.symm.trans found)
      obtain ⟨rfl, rfl⟩ := List.cons.inj remaining
      exact ⟨by decide, fun row found => trivial⟩
    · intro sweep candidate rest found remaining more
      have only : (run (step id) World.empty (twoStaleSwaps.take 4)).sweeps[0]? =
          some ⟨[⟨2, some (JsString.ofString "s"), .swap⟩], [1], []⟩ := by decide
      obtain rfl := Option.some.inj (only.symm.trans found)
      obtain ⟨rfl, rfl⟩ := List.cons.inj remaining
      exact absurd rfl more)

/-- The intent of a transfer that a handler has claimed and linked to its activity. -/
def claimedTransfer : WalletIntent where
  intentId := JsString.ofString "i"
  sessionId := JsString.ofString "s"
  network := .eip155
  status := .consuming
  activityId := some 1
  expiresAt := 0
  consumedAt := some 0
  cancelledAt := none
  txHash := none
  failureReason := none
  repairCheckedAt := none

/-- A sweep finds a transfer and a swap; the transfer is staged before the sweep comes to it. -/
def stagedUnderSweep : List Event :=
  [.plan (plannedRow 1 .walletTransfer .transfer), .plan (plannedRow 2 .swap .swap),
    .elsewhere [] [claimedTransfer] [],
    .discover 1000000 hashlessIntentRecoveryLeaseMs 25,
    .stage 1 1000000 ⟨JsString.ofString "0x1", JsString.ofString "0xa", 4⟩,
    .handleNext 0 1000000]

/-- The refusal ends the sweep, and the swap is not handled. -/
theorem refused_candidate_stops_sweep :
    ¬ ∀ (lower : JsString → JsString) (events : List Event), RecoversHashless lower events := by
  intro sound
  have abandoned : (run (step id) World.empty stagedUnderSweep).sweeps =
      [⟨[], [1], [⟨2, some (JsString.ofString "s"), .swap⟩]⟩] := by decide
  have handles := (sound id stagedUnderSweep).handles
  rw [abandoned] at handles
  have none_ := handles _ List.mem_cons_self
  cases none_

end HashlessRecovery

end Vex.Activity
