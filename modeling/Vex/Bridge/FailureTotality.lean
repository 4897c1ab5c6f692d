import Vex.Bridge.ReachedFronts

/-!
# When failing is total

Handling an event is total where it returns, and where the front fails on the way only with every
handle closed once and the exit code of the first failure. That is so where the queue of plane 4
has room for all the frames the event makes the front queue, and otherwise where the report of the
overflow itself needs no room, unless the front is ending already: then the exit code is that of
the end. `failing_is_total_iff` says this of every state the front reaches; the front below it has
answered pings that main does not read.
-/

namespace Vex.Bridge

open Vex.Library
open Vex.Mcp.PipeFront (PeerClosedReason)

namespace Front

variable {s t u : Front}

/-- The front has failed between two states: it is terminal with the exit code of the first
failure, and has closed every handle there was, each once. -/
structure Failed (s t : Front) : Prop where
  terminal : t.sup.terminal = true
  exit : ∃ more, t.failed = s.failed ++ t.exit :: more
  closed : ∀ id, t.closings id = s.closings id +
    if s.alive id = true ∨ s.sup.nextConnID ≤ id ∧ id < t.sup.nextConnID then 1 else 0
  dead : ∀ id, t.alive id = false

/-- The call returns, with any fuel that is enough, and a front that fails on the way fails. -/
def Total (s : Front) (call : Nat → Option Front) : Prop :=
  ∃ t, (∃ enough, ∀ fuel, enough ≤ fuel → call fuel = some t) ∧ (t.failed = s.failed ∨ Failed s t)

/-- The queue has room for `n` frames. -/
def HasRoom (s : Front) (n : Nat) : Prop := s.queued + n ≤ controlQueueBound

/-- There is room for the frame, or an `ERROR` of the overflow is queued. -/
def MayQueue (s : Front) (connection : Nat) (payload : ControlUp) : Prop :=
  s.HasRoom (s.place connection payload) ∨ s.Reports .internalInvariant

/-- There is room for what the call queues: the report of a failure, a `PEER_CLOSED` for each
connection it closes, an answer. Where there is none, an `ERROR` of the overflow is queued already
and the front is not ending. -/
def MayEnd (s : Front) : Reaction → Prop
  | .rest => True
  | .queue connection payload => s.MayQueue connection payload
  | .close _ _ => s.HasRoom 1 ∨ s.Reports .internalInvariant
  | .fail code _ _ =>
    if code = .internalInvariant then s.HasRoom (s.place 0 (.error code 1))
    else s.HasRoom (s.place 0 (.error code 1) + s.lives) ∨ s.Reports .internalInvariant
  | .finish _ => s.HasRoom s.lives
  | .lock => s.HasRoom (s.epochPlaces + (s.lives + 1)) ∨ s.Reports .internalInvariant
  | .completeQuit => s.HasRoom (s.lives + 1)

/-! ## Fuel -/

/-- With more fuel the same result. -/
def Extends (overflow overflow' : Front → Option Front) : Prop :=
  ∀ s t, overflow s = some t → overflow' s = some t

section Fuel

variable {overflow overflow' : Front → Option Front}

section
variable (longer : Extends overflow overflow')
include longer

theorem queueUpWith_mono {connection : Nat} {payload : ControlUp}
    (queued : queueUpWith overflow s connection payload = some t) :
    queueUpWith overflow' s connection payload = some t := by
  cases coalesced : Supervisor.coalesce connection payload s.sup.upPending with
  | some frames =>
    rw [queueUpWith_coalesced coalesced] at queued ⊢
    exact queued
  | none =>
    rw [queueUpWith_new coalesced] at queued ⊢
    split at queued
    · rename_i full
      rw [if_pos full]
      exact longer s t queued
    · rename_i room
      rw [if_neg room]
      exact queued

theorem closeConnWith_mono {conn : Conn} {reason : PeerClosedReason}
    (closed : closeConnWith overflow s conn reason = some t) :
    closeConnWith overflow' s conn reason = some t := by
  unfold closeConnWith at closed ⊢
  split at closed
  · rename_i shut
    rw [if_pos shut]
    exact closed
  · rename_i unclosed
    rw [if_neg unclosed]
    obtain ⟨u, queued, rfl⟩ := Option.map_eq_some_iff.mp closed
    rw [queueUpWith_mono longer queued]
    rfl

theorem closeEachWith_mono {reason : PeerClosedReason} {ids : List Nat} {r : Front × Nat}
    (closed : closeEachWith overflow reason ids s = some r) :
    closeEachWith overflow' reason ids s = some r := by
  induction ids generalizing s r with
  | nil => exact closed
  | cons id rest ih =>
    rw [closeEachWith] at closed ⊢
    cases living : s.sup.live id with
    | none =>
      rw [living] at closed
      exact ih closed
    | some conn =>
      rw [living] at closed
      obtain ⟨u, one, others⟩ := Option.bind_eq_some_iff.mp closed
      obtain ⟨v, each, rfl⟩ := Option.map_eq_some_iff.mp others
      dsimp only
      rw [closeConnWith_mono longer one, Option.bind_some, ih each]
      rfl

theorem failWith_mono {code : ErrorCode} {exit : ExitCode} {failure : Failure}
    (failed : failWith overflow s code exit failure = some t) :
    failWith overflow' s code exit failure = some t := by
  cases running : s.sup.terminal with
  | true =>
    unfold failWith at failed ⊢
    rw [if_pos running] at failed ⊢
    exact failed
  | false =>
    rw [failWith_eq running] at failed ⊢
    obtain ⟨r, ended, rfl⟩ := Option.map_eq_some_iff.mp failed
    obtain ⟨u, reported, closed⟩ := Option.bind_eq_some_iff.mp ended
    unfold failing reportErrorWith
    rw [queueUpWith_mono longer reported, Option.bind_some]
    rw [show closeAllWith overflow' (u.logged failure) .commandedClose = some r from
      closeEachWith_mono longer closed]
    rfl

theorem performWith_mono {reaction : Reaction}
    (performed : performWith overflow s reaction = some t) :
    performWith overflow' s reaction = some t := by
  cases reaction with
  | rest => exact performed
  | queue connection payload => exact queueUpWith_mono longer performed
  | close conn reason => exact closeConnWith_mono longer performed
  | fail code exit failure => exact failWith_mono longer performed
  | finish exit =>
    change finishWith overflow s exit = some t at performed
    change finishWith overflow' s exit = some t
    unfold finishWith at performed ⊢
    split at performed
    · rename_i ended
      rw [if_pos ended]
      exact performed
    · rename_i running
      rw [if_neg running]
      obtain ⟨r, closed, rfl⟩ := Option.map_eq_some_iff.mp performed
      rw [show closeAllWith overflow' s .commandedClose = some r from
        closeEachWith_mono longer closed]
      rfl
  | lock =>
    obtain ⟨u, noted, rest⟩ := Option.bind_eq_some_iff.mp
      (show (noteEpochWith overflow s).bind _ = some t from performed)
    obtain ⟨r, closed, queued⟩ := Option.bind_eq_some_iff.mp rest
    have noted' : noteEpochWith overflow' s = some u := by
      unfold noteEpochWith at noted ⊢
      split at noted
      · rename_i spent
        rw [if_pos spent]
        exact queueUpWith_mono longer noted
      · rename_i kept
        rw [if_neg kept]
        exact noted
    refine Option.bind_eq_some_iff.mpr ⟨u, noted', Option.bind_eq_some_iff.mpr ⟨r, ?_, ?_⟩⟩
    · exact closeEachWith_mono longer closed
    · exact queueUpWith_mono longer queued
  | completeQuit =>
    obtain ⟨r, closed, rest⟩ := Option.bind_eq_some_iff.mp
      (show (closeAllWith overflow s .commandedClose).bind _ = some t from performed)
    obtain ⟨u, queued, rfl⟩ := Option.map_eq_some_iff.mp rest
    refine Option.bind_eq_some_iff.mpr ⟨r, closeEachWith_mono longer closed, ?_⟩
    exact Option.map_eq_some_iff.mpr ⟨u, queueUpWith_mono longer queued, rfl⟩

end

end Fuel

theorem overflow_extends (fuel : Nat) : Extends (overflow fuel) (overflow (fuel + 1)) := by
  induction fuel with
  | zero => exact fun _ _ never => by cases never
  | succ fuel ih => exact fun _ _ failed => failWith_mono ih failed

theorem overflow_mono {fuel fuel' : Nat} (more : fuel ≤ fuel') :
    Extends (overflow fuel) (overflow fuel') := by
  induction fuel', more using Nat.le_induction with
  | base => exact fun _ _ same => same
  | succ fuel' more ih => exact fun u v failed => overflow_extends fuel' u v (ih u v failed)

/-- A call returns, with some fuel, and a front that fails on the way has failed. -/
def Fine (s : Front) (call : Nat → Option Front) : Prop :=
  ∃ fuel t, call fuel = some t ∧ (t.failed = s.failed ∨ Failed s t)

theorem total_iff {r : Reaction} :
    Total u (fun fuel => performWith (overflow fuel) s r) ↔
      Fine u (fun fuel => performWith (overflow fuel) s r) := by
  constructor
  · rintro ⟨t, ⟨enough, returns⟩, fine⟩
    exact ⟨enough, t, returns enough le_rfl, fine⟩
  · rintro ⟨fuel, t, returned, fine⟩
    exact ⟨t, ⟨fuel, fun _ more => performWith_mono (overflow_mono more) returned⟩, fine⟩

/-! ## The calls that a handler ends with -/

theorem Winds.closings_of_dead (winds : Winds s t) (dead : ∀ id, t.alive id = false) (id : Nat) :
    t.closings id = s.closings id +
      if s.alive id = true ∨ s.sup.nextConnID ≤ id ∧ id < t.sup.nextConnID then 1 else 0 := by
  have counted := winds.closings id
  have nobody : ¬(s.sup.nextConnID ≤ id ∧ id < t.sup.nextConnID) := by
    rw [winds.nextConnID]
    omega
  simp only [dead id, and_true] at counted
  simp only [nobody, or_false]
  exact counted

theorem Winds.failed_of_fell {code : ExitCode} (winds : Winds s t) (fell : Fell code s t) :
    Failed s t :=
  ⟨fell.terminal, fell.exit ▸ fell.failed, winds.closings_of_dead fell.dead, fell.dead⟩

theorem failWith_failed {overflow : Front → Option Front} (sinks : Sinks overflow) (tidy : Tidy s)
    (running : s.sup.terminal = false) {code : ErrorCode} {exit : ExitCode} {failure : Failure}
    (failed : failWith overflow s code exit failure = some t) : Failed s t := by
  have fell := failWith_fell sinks tidy running failed
  obtain ⟨u, winds, dead, rfl⟩ := failWith_winds sinks tidy running failed
  exact ⟨rfl, fell.failed, winds.closings_of_dead dead, dead⟩

namespace Takes

variable {β : Type} {state : β → Front} {n : Nat}

/-- A call that ends nothing is total where it fits, or where the overflow's report needs no
room. -/
theorem fine {call : (Front → Option Front) → Option Front} (takes : Takes id call s n)
    (running : s.sup.terminal = false) :
    s.Fine (fun fuel => call (overflow fuel)) ↔ s.HasRoom n ∨ s.Reports .internalInvariant := by
  constructor
  · rintro ⟨fuel, t, returned, -⟩
    by_contra neither
    obtain ⟨full, unreported⟩ := not_or.mp neither
    have nothing := takes.stuck (overflow_sinks fuel) (overflow_stuck fuel) running unreported
      (Nat.lt_of_not_le full)
    dsimp only at returned
    rw [nothing] at returned
    cases returned
  · rintro (room | reported)
    · obtain ⟨t, returned, calm, -⟩ := takes.fits (overflow_sinks 0) room
      exact ⟨0, t, returned, .inl calm.failed⟩
    · obtain ⟨t, returned⟩ := Option.isSome_iff_exists.mp
        (takes.returns (overflow_sinks _) (overflow_returns (s.lives + 1)) reported)
      refine ⟨s.lives + 1, t, returned, ?_⟩
      have winds := takes.winds (overflow_sinks _) returned
      rcases winds.ended with calm | fell
      · exact .inl calm.failed
      · exact .inr (winds.failed_of_fell fell)

/-- A call that ends the front without a failure is total only where it fits: a failure on the way
leaves the exit code of the end. -/
theorem fineEnd {call : (Front → Option Front) → Option β} (takes : Takes state call s n)
    (running : s.sup.terminal = false) {exit : ExitCode} (other : exit ≠ .internalInvariant) :
    s.Fine (fun fuel => (call (overflow fuel)).map fun r => (state r).terminate exit) ↔
      s.HasRoom n := by
  constructor
  · rintro ⟨fuel, t, returned, fine⟩
    by_contra full
    obtain ⟨r, ended, rfl⟩ := Option.map_eq_some_iff.mp returned
    have fell := (takes.winds (overflow_sinks fuel) ended).ended.resolve_left
      (takes.falls (overflow_sinks fuel) running (Nat.lt_of_not_le full) ended)
    obtain ⟨more, longer⟩ := fell.failed
    change (state r).failed = s.failed ∨ _ at fine
    rcases fine with same | failed
    · rw [longer] at same
      simp at same
    · obtain ⟨later, longest⟩ := failed.exit
      change (state r).failed = s.failed ++ exit :: later at longest
      rw [longer] at longest
      exact other (List.cons.inj (List.append_cancel_left longest)).1.symm
  · intro room
    obtain ⟨r, returned, calm, -⟩ := takes.fits (overflow_sinks 0) room
    exact ⟨0, (state r).terminate exit, Option.map_eq_some_iff.mpr ⟨r, returned, rfl⟩,
      .inl calm.failed⟩

end Takes

theorem failing_own (tidy : Tidy s) (running : s.sup.terminal = false)
    (bounded : s.queued ≤ controlQueueBound) (failure : Failure) :
    (∃ fuel, (failing (overflow fuel) s .internalInvariant failure).isSome) ↔
      s.HasRoom (s.place 0 (.error .internalInvariant 1)) := by
  have closes : ∀ frames, (s.setPending frames).Reports .internalInvariant →
      (closeAllWith (overflow s.lives) ((s.setPending frames).logged failure)
        .commandedClose).isSome := by
    intro frames reported
    exact closeEachWith_returns (overflow_sinks _) .commandedClose _
      ⟨tidy.named, tidy.listed, tidy.nodup⟩ reported (overflow_returns s.lives)
  unfold failing reportErrorWith HasRoom place
  cases coalesced : Supervisor.coalesce 0 (.error .internalInvariant 1) s.sup.upPending with
  | some frames =>
    have reported : s.Reports .internalInvariant :=
      (coalesce_error s.sup.upPending).mp (by rw [coalesced]; simp)
    refine iff_of_true ⟨s.lives, ?_⟩ bounded
    rw [queueUpWith_coalesced coalesced, Option.bind_some]
    exact closes frames (coalesce_reports coalesced reported)
  | none =>
    have unreported : ¬s.Reports .internalInvariant := fun reported =>
      (coalesce_error s.sup.upPending).mpr reported coalesced
    by_cases full : controlQueueBound ≤ s.queued
    · refine iff_of_false ?_ ?_
      · rintro ⟨fuel, ended⟩
        rw [queueUpWith_new coalesced, if_pos full,
          overflow_stuck fuel s running unreported full] at ended
        cases ended
      · rw [Option.isSome_none, if_neg (by simp)]
        omega
    · refine iff_of_true ⟨s.lives, ?_⟩ ?_
      · rw [queueUpWith_new coalesced, if_neg full, Option.bind_some]
        exact closes _ ⟨0, 1, List.mem_append_right _ List.mem_cons_self⟩
      · rw [Option.isSome_none, if_neg (by simp)]
        omega

theorem fail_fine (tidy : Tidy s) (running : s.sup.terminal = false)
    (bounded : s.queued ≤ controlQueueBound) (code : ErrorCode) (exit : ExitCode)
    (failure : Failure) :
    s.Fine (fun fuel => failWith (overflow fuel) s code exit failure) ↔
      s.MayEnd (.fail code exit failure) := by
  have tidy' : Tidy (s.called exit) := ⟨tidy.named, tidy.listed, tidy.nodup⟩
  have returns : s.Fine (fun fuel => failWith (overflow fuel) s code exit failure) ↔
      ∃ fuel, (failing (overflow fuel) (s.called exit) code failure).isSome := by
    constructor
    · rintro ⟨fuel, t, returned, -⟩
      dsimp only at returned
      rw [failWith_eq running] at returned
      obtain ⟨r, ended, -⟩ := Option.map_eq_some_iff.mp returned
      exact ⟨fuel, by rw [ended]; rfl⟩
    · rintro ⟨fuel, ended⟩
      obtain ⟨t, returned⟩ : ∃ t, failWith (overflow fuel) s code exit failure = some t := by
        rw [failWith_eq running, ← Option.isSome_iff_exists, Option.isSome_map]
        exact ended
      exact ⟨fuel, t, returned, .inr (failWith_failed (overflow_sinks fuel) tidy running returned)⟩
  rw [returns]
  change _ ↔ if code = .internalInvariant then _ else _
  split
  · rename_i own
    subst own
    exact failing_own tidy' running bounded failure
  · rename_i other
    have takes := failing_takes tidy' bounded code failure other
    constructor
    · rintro ⟨fuel, ended⟩
      by_contra neither
      obtain ⟨full, unreported⟩ := not_or.mp neither
      have nothing := takes.stuck (overflow_sinks fuel) (overflow_stuck fuel) running unreported
        (Nat.lt_of_not_le full)
      rw [nothing] at ended
      cases ended
    · rintro (room | reported)
      · obtain ⟨r, returned, -⟩ := takes.fits (overflow_sinks 0) room
        exact ⟨0, by rw [returned]; rfl⟩
      · exact ⟨_, takes.returns (overflow_sinks _) (overflow_returns (s.lives + 1)) reported⟩

theorem queue_fine (tidy : Tidy s) (running : s.sup.terminal = false)
    (bounded : s.queued ≤ controlQueueBound) (connection : Nat) (payload : ControlUp) :
    s.Fine (fun fuel => queueUpWith (overflow fuel) s connection payload) ↔
      s.MayQueue connection payload := by
  by_cases own : ∃ count, payload = .error .internalInvariant count
  · obtain ⟨count, rfl⟩ := own
    unfold MayQueue HasRoom place
    cases coalesced : Supervisor.coalesce connection (.error .internalInvariant count)
      s.sup.upPending with
    | some frames =>
      exact iff_of_true ⟨0, _, queueUpWith_coalesced coalesced _, .inl rfl⟩ (.inl bounded)
    | none =>
      have unreported : ¬s.Reports .internalInvariant := fun reported =>
        (coalesce_error s.sup.upPending).mpr reported coalesced
      rw [Option.isSome_none, if_neg (by simp), or_iff_left unreported]
      by_cases full : controlQueueBound ≤ s.queued
      · refine iff_of_false ?_ (by omega)
        rintro ⟨fuel, t, returned, -⟩
        dsimp only at returned
        rw [queueUpWith_new coalesced, if_pos full,
          overflow_stuck fuel s running unreported full] at returned
        cases returned
      · have returned := queueUpWith_new coalesced (overflow 0)
        rw [if_neg full] at returned
        exact iff_of_true ⟨0, _, returned, .inl rfl⟩ (by omega)
  · exact (queueUpWith_takes tidy bounded connection payload
      fun count same => own ⟨count, same⟩).fine running

theorem perform_fine (tidy : Tidy s) (running : s.sup.terminal = false)
    (bounded : s.queued ≤ controlQueueBound) (reaction : Reaction)
    (known : ∀ conn reason, reaction = .close conn reason → s.sup.live conn.id = some conn)
    (ending : reaction ≠ .finish .internalInvariant) :
    s.Fine (fun fuel => performWith (overflow fuel) s reaction) ↔ s.MayEnd reaction := by
  cases reaction with
  | rest => exact iff_of_true ⟨0, s, rfl, .inl rfl⟩ trivial
  | queue connection payload => exact queue_fine tidy running bounded connection payload
  | close conn reason =>
    exact (closeConnWith_takes tidy (known conn reason rfl) reason).fine running
  | fail code exit failure => exact fail_fine tidy running bounded code exit failure
  | finish exit =>
    have same : (fun fuel => performWith (overflow fuel) s (.finish exit)) = fun fuel =>
        (closeAllWith (overflow fuel) s .commandedClose).map fun r => r.1.terminate exit := by
      funext fuel
      change finishWith (overflow fuel) s exit = _
      unfold finishWith
      rw [if_neg (by simp [running])]
    rw [same]
    exact (closeAllWith_takes .commandedClose tidy bounded).fineEnd running
      fun own => ending (by rw [own])
  | lock => exact (lockWith_takes tidy bounded).fine running
  | completeQuit =>
    have same : (fun fuel => performWith (overflow fuel) s .completeQuit) = fun fuel =>
        ((closeAllWith (overflow fuel) s .commandedClose).bind fun r =>
          queueUpWith (overflow fuel) r.1 0 .quitAck).map fun t => t.terminate .clean := by
      funext fuel
      change completeQuitWith (overflow fuel) s = _
      unfold completeQuitWith
      rw [Option.map_bind]
      rfl
    rw [same]
    refine (closeAllThen_takes tidy bounded (fun _ => .quitAck) (fun _ _ => by simp)
      fun _ _ => ?_).fineEnd running (by simp)
    exact Supervisor.coalesce_none _ _ (fun _ => rfl) _

/-! ## A front that has ended -/

theorem queueUpWith_ended (ended : s.sup.terminal = true) (connection : Nat) (payload : ControlUp) :
    ∃ frames, queueUpWith (overflow 1) s connection payload = some (s.setPending frames) := by
  cases coalesced : Supervisor.coalesce connection payload s.sup.upPending with
  | some frames => exact ⟨frames, queueUpWith_coalesced coalesced _⟩
  | none =>
    rw [queueUpWith_new coalesced]
    split
    · refine ⟨s.sup.upPending, ?_⟩
      change failWith (overflow 0) s _ _ _ = _
      unfold failWith
      rw [if_pos ended]
      rfl
    · exact ⟨_, rfl⟩

theorem perform_ended (ended : s.sup.terminal = true) (nobody : s.sup.order = [])
    (reaction : Reaction) (others : ∀ conn reason, reaction ≠ .close conn reason) :
    ∃ t, performWith (overflow 1) s reaction = some t ∧ t.failed = s.failed := by
  have closes : ∀ u : Front, u.sup.order = [] →
      closeAllWith (overflow 1) u .commandedClose = some (u, 0) := by
    intro u nobody
    unfold closeAllWith
    rw [nobody]
    rfl
  cases reaction with
  | rest => exact ⟨s, rfl, rfl⟩
  | queue connection payload =>
    obtain ⟨frames, queued⟩ := queueUpWith_ended ended connection payload
    exact ⟨_, queued, rfl⟩
  | close conn reason => exact absurd rfl (others conn reason)
  | fail code exit failure => exact ⟨s, if_pos ended, rfl⟩
  | finish exit => exact ⟨s, if_pos ended, rfl⟩
  | lock =>
    have noted : ∃ u, noteEpochWith (overflow 1) s = some u ∧ u.sup.terminal = true ∧
        u.sup.order = [] ∧ u.failed = s.failed := by
      unfold noteEpochWith
      split
      · obtain ⟨frames, queued⟩ := queueUpWith_ended (s := s.flagged) ended 0
          (.error .admissionEpochExhausted 1)
        exact ⟨_, queued, ended, nobody, rfl⟩
      · exact ⟨s, rfl, ended, nobody, rfl⟩
    obtain ⟨u, noted, ended', nobody', same⟩ := noted
    obtain ⟨frames, queued⟩ := queueUpWith_ended ended' 0 (.lockAck u.sup.epoch 0)
    refine ⟨u.setPending frames, ?_, same⟩
    change lockWith (overflow 1) s = _
    unfold lockWith
    rw [noted, Option.bind_some, closes u nobody', Option.bind_some]
    exact queued
  | completeQuit =>
    obtain ⟨frames, queued⟩ := queueUpWith_ended ended 0 .quitAck
    refine ⟨(s.setPending frames).terminate .clean, ?_, rfl⟩
    change completeQuitWith (overflow 1) s = _
    unfold completeQuitWith
    rw [closes s nobody, Option.bind_some]
    dsimp only
    rw [queued]
    rfl

/-! ## An event -/

theorem failed_iff (same : t.failed = s.failed) (closings : ∀ id, t.closings id = s.closings id)
    (handles : ∀ id, (t.alive id = true ∨ t.sup.nextConnID ≤ id ∧ id < u.sup.nextConnID) ↔
      (s.alive id = true ∨ s.sup.nextConnID ≤ id ∧ id < u.sup.nextConnID)) :
    u.failed = t.failed ∨ Failed t u ↔ u.failed = s.failed ∨ Failed s u := by
  rw [same]
  refine or_congr_right ⟨fun failed => ?_, fun failed => ?_⟩
  · refine ⟨failed.terminal, same ▸ failed.exit, fun id => ?_, failed.dead⟩
    rw [failed.closed, closings]
    simp only [handles]
  · refine ⟨failed.terminal, same.symm ▸ failed.exit, fun id => ?_, failed.dead⟩
    rw [failed.closed, closings]
    simp only [handles]

theorem handle_total_iff (standing : Standing s) (running : s.sup.terminal = false) (wire : Nat)
    (event : FrontEvent) : Total s (fun fuel => s.handle fuel wire event) ↔
      (s.react wire event).1.MayEnd (s.react wire event).2 := by
  unfold handle
  rw [total_iff]
  have reacts := react_reacts standing.tabled wire event
  generalize s.react wire event = reacted at reacts ⊢
  -- what the call is fine for, told from before and from after the handler
  have lift : ∀ {v : Front} {reaction : Reaction},
      (∀ fuel u, performWith (overflow fuel) v reaction = some u →
        (u.failed = v.failed ∨ Failed v u ↔ u.failed = s.failed ∨ Failed s u)) →
      (s.Fine (fun fuel => performWith (overflow fuel) v reaction) ↔
        v.Fine (fun fuel => performWith (overflow fuel) v reaction)) := by
    intro v reaction same
    constructor
    · rintro ⟨fuel, u, returned, fine⟩
      exact ⟨fuel, u, returned, (same fuel u returned).mpr fine⟩
    · rintro ⟨fuel, u, returned, fine⟩
      exact ⟨fuel, u, returned, (same fuel u returned).mp fine⟩
  cases reacts with
  | changed event v reaction prepared other known ending quiet =>
    have standing' := (prepared.sheds standing.tabled).standing standing
    rw [lift fun fuel u _ => failed_iff prepared.failed prepared.closings fun id => by
      rw [alive_congr standing.tabled prepared.tabled prepared.order, prepared.nextConnID]]
    exact perform_fine standing'.tidy (prepared.terminal.trans running) standing'.bounded reaction
      known ending
  | turnedAway halfCloses code failure =>
    rw [lift fun fuel u _ => failed_iff (s := s) (t := s.closeRaw wire) rfl (fun _ => rfl)
      fun _ => Iff.rfl]
    exact perform_fine (s := s.closeRaw wire)
      ⟨standing.tidy.named, standing.tidy.listed, standing.tidy.nodup⟩ running standing.bounded _
      (fun conn reason same => by cases same) (by simp)
  | registered =>
    have standing' := register_standing standing running wire
    rw [lift fun fuel u queued => failed_iff (s := s) (t := s.register wire) rfl (fun _ => rfl)
      fun id => by
        have winds := queueUpWith_winds (overflow_sinks fuel) standing'.tidy queued
        rw [register_alive standing.tabled running, winds.nextConnID]
        change (_ ∨ s.sup.nextConnID + 1 ≤ id ∧ id < s.sup.nextConnID + 1) ↔
          (_ ∨ s.sup.nextConnID ≤ id ∧ id < s.sup.nextConnID + 1)
        rw [or_assoc]
        refine or_congr_right ?_
        omega]
    exact perform_fine standing'.tidy running standing'.bounded _
      (fun conn reason same => by cases same) (by simp)

theorem handle_ended (standing : Standing s) (ended : s.sup.terminal = true) (wire : Nat)
    {event : FrontEvent} (received : s.Receives event) :
    Total s (fun fuel => s.handle fuel wire event) := by
  have frame : isFrame event = true := by
    rcases received with running | frame
    · rw [ended] at running
      cases running
    · exact frame
  unfold handle
  rw [total_iff]
  have reacts := react_reacts standing.tabled wire event
  generalize s.react wire event = reacted at reacts ⊢
  cases reacts with
  | turnedAway halfCloses code failure => cases frame
  | registered => cases frame
  | changed event v reaction prepared other known ending quiet =>
    have ended' := prepared.terminal.trans ended
    obtain ⟨u, returned, same⟩ := perform_ended ended' (prepared.tabled.ended ended') reaction
      fun conn reason closes => by
        have dead := dead_of_ended prepared.tabled ended' conn.id
        rw [alive, known conn reason closes] at dead
        cases dead
    exact ⟨1, u, returned, .inl (same.trans prepared.failed)⟩

/-! ## Every front that is reached -/

/-- Handling an event and queueing a frame are total exactly where there is room for what they
queue, or a failure by overflow needs no place and leaves the exit code alone. -/
theorem failing_is_total_iff {initialAdmissionEpoch : Nat} {timeoutRefusalBytes : List UInt8}
    (reached : Reached initialAdmissionEpoch timeoutRefusalBytes s) :
    (∀ wire event, s.Receives event →
      (Total s (fun fuel => s.handle fuel wire event) ↔
        s.sup.terminal = true ∨ (s.react wire event).1.MayEnd (s.react wire event).2)) ∧
    ∀ connection payload, Total s (fun fuel => s.queueUp fuel connection payload) ↔
      s.sup.terminal = true ∨ s.MayQueue connection payload := by
  have standing := reached_standing reached
  have queue : ∀ connection payload, Total s (fun fuel => s.queueUp fuel connection payload) ↔
      s.Fine (fun fuel => queueUpWith (overflow fuel) s connection payload) :=
    fun connection payload => total_iff (r := .queue connection payload)
  cases ended : s.sup.terminal with
  | true =>
    refine ⟨fun wire event received => ?_, fun connection payload => ?_⟩
    · exact iff_of_true (handle_ended standing ended wire received) (.inl rfl)
    · obtain ⟨frames, queued⟩ := queueUpWith_ended ended connection payload
      exact iff_of_true ((queue connection payload).mpr ⟨1, _, queued, .inl rfl⟩) (.inl rfl)
  | false =>
    simp only [Bool.false_eq_true, false_or]
    refine ⟨fun wire event _ => handle_total_iff standing ended wire event,
      fun connection payload => (queue connection payload).trans ?_⟩
    exact queue_fine standing.tidy ended standing.bounded connection payload

/-- So it is in the front that `bootstrap` leaves. -/
theorem failing_is_total_iff_start :
    (∀ wire event, (start 0 []).Receives event →
      (Total (start 0 []) (fun fuel => (start 0 []).handle fuel wire event) ↔
        (start 0 []).sup.terminal = true ∨
          ((start 0 []).react wire event).1.MayEnd ((start 0 []).react wire event).2)) ∧
    ∀ connection payload, Total (start 0 []) (fun fuel => (start 0 []).queueUp fuel connection payload) ↔
      (start 0 []).sup.terminal = true ∨ (start 0 []).MayQueue connection payload :=
  failing_is_total_iff (Reached.start : Reached 0 [] (start 0 []))

/-- A front whose `HELLO_ACK` is being written, with `n` pings answered. -/
def unread (n : Nat) : Front :=
  { start 0 [] with
    bootstrapFrames := 1
    sup := { Supervisor.start 0 [] with
      controlUp := ⟨true, []⟩
      upPending := List.replicate n (0, .pong 0) } }

theorem unread_queued (n : Nat) : (unread n).queued = n + 1 := by
  unfold queued unread
  rw [List.length_replicate, Nat.add_comm]

theorem unread_ping (n : Nat) (fuel : Nat) :
    (unread n).handle fuel 0 (.mainControl 0 (.ping 0)) =
      if n + 1 ≥ controlQueueBound then overflow fuel (unread n) else some (unread (n + 1)) := by
  change queueUpWith (overflow fuel) (unread n) 0 (.pong 0) = _
  rw [queueUpWith_new (Supervisor.coalesce_none 0 (.pong 0) (fun _ => rfl) _), unread_queued]
  congr 2
  unfold setPending unread
  simp only [List.replicate_succ']

theorem unread_pump (n : Nat) : (unread n).pump 0 = some (unread n) := rfl

theorem unread_reached (n : Nat) (few : n < controlQueueBound) : Reached 0 [] (unread n) := by
  induction n with
  | zero => exact .pumped .start rfl 0 rfl
  | succ n ih =>
    have pinged := unread_ping n 0
    rw [if_neg (by omega)] at pinged
    exact .pumped (.handled (ih (by omega)) 0 0 _ (.inl rfl) pinged) rfl 0 (unread_pump (n + 1))

theorem unread_unreported (n : Nat) (code : ErrorCode) : ¬(unread n).Reports code := by
  rintro ⟨connection, count, member⟩
  cases List.eq_of_mem_replicate member

/-- The next ping makes the front fail, and the failure calls itself for ever. -/
theorem ping_fails_forever : Reached 0 [] (unread 511) ∧ (unread 511).sup.terminal = false ∧
    (∀ fuel, (unread 511).handle fuel 0 (.mainControl 0 (.ping 0)) = none) ∧
    ¬Total (unread 511) (fun fuel => (unread 511).handle fuel 0 (.mainControl 0 (.ping 0))) := by
  have forever : ∀ fuel, (unread 511).handle fuel 0 (.mainControl 0 (.ping 0)) = none := by
    intro fuel
    rw [unread_ping, if_pos (by decide)]
    refine overflow_stuck fuel (unread 511) rfl (unread_unreported 511 _) ?_
    rw [unread_queued]
    decide
  refine ⟨unread_reached 511 (by decide), rfl, forever, ?_⟩
  rintro ⟨t, ⟨enough, returns⟩, -⟩
  have returned := returns enough le_rfl
  dsimp only at returned
  rw [forever] at returned
  cases returned

end Front

end Vex.Bridge
