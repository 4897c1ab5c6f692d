import Mathlib.Data.List.Count
import Vex.Bridge.FrontReactions
import Vex.Bridge.QueuePlaces

/-!
# The fronts that are reached

What a handler calls, and what the pump does, changes the table and closes connections, each once
(`Sheds`). From that, the invariant of every front that is reached (`Standing`): the table and the
rotation agree, the queue keeps its bound, and a handshake timer runs only for a connection that
has a handle.
-/

namespace Vex.Bridge

open Vex.Library
open Vex.Mcp.PipeFront (PeerClosedReason)

namespace Front

variable {s t u : Front}

/-- What holds of the front between two events. -/
structure Standing (s : Front) : Prop where
  tabled : s.sup.Tabled
  bounded : s.queued ≤ controlQueueBound
  timers : ∀ id ∈ s.timers, s.alive id = true

/-- Connections are closed, each once. -/
structure Sheds (s t : Front) : Prop where
  closes : ∃ ids : List Nat, ids.Nodup ∧
    (∀ id, id ∈ ids ↔ s.alive id = true ∧ t.alive id = false) ∧ t.ops = s.ops ++ s.shuts ids
  closings : ∀ id, t.closings id =
    s.closings id + if s.alive id = true ∧ t.alive id = false then 1 else 0
  fewer : ∀ id, t.alive id = true → s.alive id = true
  tabled : t.sup.Tabled
  wires : t.wires = s.wires
  nextConnID : t.sup.nextConnID = s.sup.nextConnID
  timers : ∀ id ∈ t.timers, id ∈ s.timers
  stopped : ∀ id ∈ t.timers, s.alive id = true → t.alive id = true
  bounded : s.queued ≤ controlQueueBound → t.queued ≤ controlQueueBound

theorem Standing.tidy (standing : Standing s) : Tidy s :=
  ⟨standing.tabled.named, standing.tabled.listed, standing.tabled.nodup⟩

section
variable (tabled : s.sup.Tabled)
include tabled

theorem tidy_of_tabled : Tidy s :=
  ⟨tabled.named, tabled.listed, tabled.nodup⟩

theorem alive_iff_listed (id : Nat) : s.alive id = true ↔ id ∈ s.sup.order := by
  unfold alive
  rw [tabled.live, tabled.listed]

theorem alive_congr (tabled' : t.sup.Tabled) (order : t.sup.order = s.sup.order) (id : Nat) :
    t.alive id = s.alive id := by
  rw [Bool.eq_iff_iff, alive_iff_listed tabled', alive_iff_listed tabled, order]

theorem dead_of_ended (ended : s.sup.terminal = true) (id : Nat) : s.alive id = false := by
  rw [Bool.eq_false_iff, Ne, alive_iff_listed tabled, tabled.ended ended]
  exact List.not_mem_nil

/-! ## What is shed -/

theorem Prepared.sheds (prepared : Prepared s t) : Sheds s t := by
  have same := alive_congr tabled prepared.tabled prepared.order
  refine ⟨⟨[], List.nodup_nil, fun id => ?_, ?_⟩, fun id => ?_, fun id living => ?_, prepared.tabled,
    prepared.wires, prepared.nextConnID, prepared.timers, fun id _ living => ?_,
    prepared.queued.trans⟩
  · rw [same]
    cases s.alive id <;> simp
  · rw [prepared.ops]
    simp [shuts]
  · rw [same, prepared.closings]
    cases s.alive id <;> simp
  · rwa [same] at living
  · rwa [same]

theorem Sheds.refl : Sheds s s := (Prepared.refl tabled).sheds tabled

end

theorem Sheds.trans (first : Sheds s t) (second : Sheds t u) : Sheds s u where
  closes := by
    obtain ⟨ids, nodup, closed, ops⟩ := first.closes
    obtain ⟨ids', nodup', closed', ops'⟩ := second.closes
    refine ⟨ids ++ ids', List.nodup_append.mpr ⟨nodup, nodup', ?_⟩, fun id => ?_, ?_⟩
    · rintro id early other late rfl
      have dead := ((closed id).mp early).2
      rw [((closed' id).mp late).1] at dead
      cases dead
    · rw [List.mem_append, closed, closed']
      have fewer := first.fewer id
      have fewer' := second.fewer id
      cases before : s.alive id <;> cases between : t.alive id <;> cases after : u.alive id <;>
        simp_all
    · have same : t.shuts ids' = s.shuts ids' := by
        unfold shuts
        rw [first.wires]
      rw [ops', ops, same, List.append_assoc]
      unfold shuts
      rw [List.flatMap_append]
  closings id := by
    rw [second.closings, first.closings, Nat.add_assoc]
    have fewer := first.fewer id
    have fewer' := second.fewer id
    cases before : s.alive id <;> cases between : t.alive id <;> cases after : u.alive id <;>
      simp_all
  fewer id living := first.fewer id (second.fewer id living)
  tabled := second.tabled
  wires := second.wires.trans first.wires
  nextConnID := second.nextConnID.trans first.nextConnID
  timers id member := first.timers id (second.timers id member)
  stopped id member living := second.stopped id member
    (first.stopped id (second.timers id member) living)
  bounded room := second.bounded (first.bounded room)

theorem Winds.unclosed (tabled : s.sup.Tabled) (winds : Winds s t) {id : Nat}
    (known : (t.sup.conns id).isSome) : t.alive id = true := by
  by_contra dead
  rw [Bool.not_eq_true] at dead
  cases living : s.alive id with
  | true =>
    rw [winds.gone id living dead] at known
    cases known
  | false =>
    have none_ : s.sup.conns id = none := by
      rwa [alive, tabled.live, Option.isSome_eq_false_iff, Option.isNone_iff_eq_none] at living
    rw [winds.absent id none_] at known
    cases known

theorem Winds.tabled (tabled : s.sup.Tabled) (winds : Winds s t) : t.sup.Tabled := by
  have tidy := winds.tidy (tidy_of_tabled tabled)
  refine ⟨tidy.named, fun id conn known => ?_, tidy.listed, tidy.nodup, fun id listed => ?_,
    fun ended => ?_⟩
  · have living : t.alive id = true := winds.unclosed tabled (by rw [known]; rfl)
    obtain ⟨conn', found⟩ := alive_iff.mp living
    obtain ⟨known', kept⟩ := Option.filter_eq_some_iff.mp found
    obtain rfl := Option.some.inj (known.symm.trans known')
    simpa using kept
  · rw [winds.nextConnID]
    exact tabled.handedOut id (winds.order.subset listed)
  · rcases winds.ended with calm | fell
    · have nobody := winds.order
      rw [tabled.ended (calm.terminal ▸ ended)] at nobody
      exact List.sublist_nil.mp nobody
    · refine List.eq_nil_iff_forall_not_mem.mpr fun id listed => ?_
      have living := winds.unclosed tabled ((tidy.listed id).mp listed)
      rw [fell.dead id] at living
      cases living

theorem Winds.closings (winds : Winds s t) (id : Nat) :
    t.closings id = s.closings id + if s.alive id = true ∧ t.alive id = false then 1 else 0 := by
  obtain ⟨ids, nodup, each, history, -⟩ := winds.closes
  have count : (ids.map HandleEvent.closed).count (.closed id) = ids.count id :=
    List.count_map_of_injective ids HandleEvent.closed
      (fun _ _ same => HandleEvent.closed.inj same) id
  unfold Front.closings
  rw [history, List.count_append, count, nodup.count]
  simp only [each]

theorem Winds.sheds (tabled : s.sup.Tabled) (winds : Winds s t) : Sheds s t := by
  obtain ⟨ids, nodup, each, -, ops⟩ := winds.closes
  exact ⟨⟨ids, nodup, each, ops⟩, winds.closings, winds.fewer, winds.tabled tabled, winds.wires,
    winds.nextConnID, winds.timers, winds.stopped, winds.bounded⟩

theorem Sheds.terminate (sheds : Sheds s t) (dead : ∀ id, t.alive id = false) (exit : ExitCode) :
    Sheds s (t.terminate exit) where
  closes := sheds.closes
  closings := sheds.closings
  fewer := sheds.fewer
  tabled := by
    refine ⟨sheds.tabled.named, sheds.tabled.unclosed, sheds.tabled.listed, sheds.tabled.nodup,
      sheds.tabled.handedOut, fun _ => ?_⟩
    refine List.eq_nil_iff_forall_not_mem.mpr fun id listed => ?_
    have living := (alive_iff_listed sheds.tabled id).mpr listed
    rw [dead id] at living
    cases living
  wires := sheds.wires
  nextConnID := sheds.nextConnID
  timers := sheds.timers
  stopped := sheds.stopped
  bounded := sheds.bounded

theorem Sheds.standing (standing : Standing s) (sheds : Sheds s t) : Standing t where
  tabled := sheds.tabled
  bounded := sheds.bounded standing.bounded
  timers id member := sheds.stopped id member (standing.timers id (sheds.timers id member))

/-! ## The calls that a handler ends with -/

section Calls

variable {overflow : Front → Option Front}

theorem failWith_sheds (sinks : Sinks overflow) (tabled : s.sup.Tabled) {code : ErrorCode}
    {exit : ExitCode} {failure : Failure}
    (failed : failWith overflow s code exit failure = some t) : Sheds s t := by
  cases running : s.sup.terminal with
  | true =>
    unfold failWith at failed
    rw [if_pos running] at failed
    obtain rfl := Option.some.inj failed
    exact .refl tabled
  | false =>
    obtain ⟨u, winds, dead, rfl⟩ := failWith_winds sinks (tidy_of_tabled tabled) running failed
    have called : Sheds s u := by
      have sheds := winds.sheds (s := s.called exit) tabled
      exact ⟨sheds.closes, sheds.closings, sheds.fewer, sheds.tabled, sheds.wires,
        sheds.nextConnID, sheds.timers, sheds.stopped, sheds.bounded⟩
    exact called.terminate dead exit

theorem completeQuitWith_sheds (sinks : Sinks overflow) (tabled : s.sup.Tabled)
    (completed : completeQuitWith overflow s = some t) : Sheds s t := by
  obtain ⟨⟨u, count⟩, closed, rest⟩ := Option.bind_eq_some_iff.mp completed
  obtain ⟨v, queued, rfl⟩ := Option.map_eq_some_iff.mp rest
  obtain ⟨first, dead⟩ := closeAllWith_winds sinks (tidy_of_tabled tabled) closed
  have second := queueUpWith_winds sinks (first.tidy (tidy_of_tabled tabled)) queued
  refine ((first.trans second).sheds tabled).terminate (fun id => ?_) .clean
  refine Bool.eq_false_iff.mpr fun late => ?_
  have early := second.fewer id late
  rw [dead id] at early
  cases early

theorem performWith_sheds (sinks : Sinks overflow) (tabled : s.sup.Tabled)
    (bounded : s.queued ≤ controlQueueBound) {reaction : Reaction}
    (known : ∀ conn reason, reaction = .close conn reason → s.sup.live conn.id = some conn)
    (performed : performWith overflow s reaction = some t) : Sheds s t := by
  have tidy := tidy_of_tabled tabled
  cases reaction with
  | rest =>
    obtain rfl := Option.some.inj performed
    exact .refl tabled
  | queue connection payload => exact (queueUpWith_winds sinks tidy performed).sheds tabled
  | close conn reason =>
    exact (closeConnWith_winds sinks tidy (known conn reason rfl) performed).1.sheds tabled
  | fail code exit failure => exact failWith_sheds sinks tabled performed
  | finish exit =>
    change finishWith overflow s exit = some t at performed
    unfold finishWith at performed
    split at performed
    · obtain rfl := Option.some.inj performed
      exact .refl tabled
    · obtain ⟨⟨u, count⟩, closed, rfl⟩ := Option.map_eq_some_iff.mp performed
      obtain ⟨winds, dead⟩ := closeAllWith_winds sinks tidy closed
      exact (winds.sheds tabled).terminate dead exit
  | lock => exact ((lockWith_takes tidy bounded).winds sinks performed).sheds tabled
  | completeQuit => exact completeQuitWith_sheds sinks tabled performed

end Calls

/-! ## An event -/

/-- The state in which a handler leaves the front before the call it ends with. -/
def Receipt (s : Front) (wire : Nat) (event : FrontEvent) (t : Front) : Prop :=
  match event with
  | .accepted _ => t = s.closeRaw wire ∨ t = s.register wire
  | _ => Prepared s t

theorem register_tabled (tabled : s.sup.Tabled) (running : s.sup.terminal = false) (wire : Nat) :
    (s.register wire).sup.Tabled := by
  have new : s.sup.nextConnID ∉ s.sup.order := fun listed =>
    Nat.lt_irrefl _ (tabled.handedOut _ listed)
  have conns : ∀ id, (s.register wire).sup.conns id =
      if id = s.sup.nextConnID then some (Conn.new s.sup.nextConnID).openSent
      else s.sup.conns id := by
    intro id
    simp only [register, Supervisor.setConn, Function.update_apply]
  refine ⟨fun id conn known => ?_, fun id conn known => ?_, fun id => ?_, ?_, fun id listed => ?_,
    fun ended => ?_⟩
  · rw [conns] at known
    split at known
    · rename_i own
      obtain rfl := Option.some.inj known
      exact own.symm
    · exact tabled.named id conn known
  · rw [conns] at known
    split at known
    · obtain rfl := Option.some.inj known
      unfold Conn.openSent
      split <;> simp [Conn.new]
    · exact tabled.unclosed id conn known
  · rw [conns]
    change id ∈ s.sup.order ++ [s.sup.nextConnID] ↔ _
    rw [List.mem_append, List.mem_singleton, tabled.listed]
    split
    · rename_i own
      simp [own]
    · rename_i other
      simp [other]
  · refine List.nodup_append.mpr ⟨tabled.nodup, List.pairwise_singleton _ _, ?_⟩
    rintro id listed other member rfl
    exact new (List.mem_singleton.mp member ▸ listed)
  · change id ∈ s.sup.order ++ [s.sup.nextConnID] at listed
    change id < s.sup.nextConnID + 1
    rcases List.mem_append.mp listed with listed | last
    · exact Nat.lt_succ_of_lt (tabled.handedOut id listed)
    · exact Nat.lt_succ_of_le (List.mem_singleton.mp last).le
  · change s.sup.terminal = true at ended
    rw [running] at ended
    cases ended

theorem register_alive (tabled : s.sup.Tabled) (running : s.sup.terminal = false) (wire id : Nat) :
    (s.register wire).alive id = true ↔ s.alive id = true ∨ id = s.sup.nextConnID := by
  rw [alive_iff_listed (register_tabled tabled running wire), alive_iff_listed tabled]
  change id ∈ s.sup.order ++ [s.sup.nextConnID] ↔ _
  rw [List.mem_append, List.mem_singleton]

theorem register_standing (standing : Standing s) (running : s.sup.terminal = false) (wire : Nat) :
    Standing (s.register wire) := by
  refine ⟨register_tabled standing.tabled running wire, standing.bounded, fun id member => ?_⟩
  rw [register_alive standing.tabled running]
  change id ∈ s.timers ++ [s.sup.nextConnID] at member
  rcases List.mem_append.mp member with member | last
  · exact .inl (standing.timers id member)
  · exact .inr (List.mem_singleton.mp last)

variable {fuel : Nat} {event : FrontEvent}

theorem handle_sheds (standing : Standing s) {wire : Nat} (received : s.Receives event)
    (returned : s.handle fuel wire event = some t) :
    ∃ u, s.Receipt wire event u ∧ Standing u ∧ Sheds u t := by
  unfold handle at returned
  have sinks := overflow_sinks fuel
  have reacts := react_reacts standing.tabled wire event
  generalize s.react wire event = reacted at reacts returned
  cases reacts with
  | changed event u reaction prepared other known ending quiet =>
    have standing' := (prepared.sheds standing.tabled).standing standing
    refine ⟨u, ?_, standing', performWith_sheds sinks standing'.tabled standing'.bounded known
      returned⟩
    cases event with
    | accepted halfCloses => exact absurd rfl (other halfCloses)
    | _ => exact prepared
  | turnedAway halfCloses code failure =>
    have standing' : Standing (s.closeRaw wire) :=
      ⟨standing.tabled, standing.bounded, standing.timers⟩
    exact ⟨_, .inl rfl, standing', failWith_sheds sinks standing'.tabled returned⟩
  | registered =>
    have running : s.sup.terminal = false := by
      rcases received with running | frame
      · exact running
      · cases frame
    have standing' := register_standing standing running wire
    exact ⟨_, .inr rfl, standing',
      (queueUpWith_winds sinks standing'.tidy returned).sheds standing'.tabled⟩

theorem handle_standing (standing : Standing s) {wire : Nat} (received : s.Receives event)
    (returned : s.handle fuel wire event = some t) : Standing t := by
  obtain ⟨u, -, standing', sheds⟩ := handle_sheds standing received returned
  exact sheds.standing standing'

/-! ## The pump -/

theorem pumpRead_prepared (tabled : s.sup.Tabled) (id : Nat) :
    Prepared s { s with sup := s.sup.pumpRead id } := by
  unfold Supervisor.pumpRead
  rw [tabled.live id]
  cases known : s.sup.conns id with
  | none => exact .refl tabled
  | some conn =>
    dsimp only
    split
    · exact .refl tabled
    · have unclosed : conn.readIssued.state ≠ .closed := by
        change (if conn.state = .admitted then _ else _) ≠ _
        split
        · simp
        · exact tabled.unclosed id conn known
      have first := prepared_setConn tabled known conn.readIssued rfl unclosed
      exact first.trans (prepared_sup first.tabled
        ((s.sup.setConn id conn.readIssued).startConnRead conn.id conn.readBudget) rfl rfl rfl rfl
        le_rfl fun id => count_record _ _ id (by simp))

theorem pumpWrite_prepared (tabled : s.sup.Tabled) (id : Nat) :
    Prepared s { s with sup := s.sup.pumpWrite id } := by
  unfold Supervisor.pumpWrite
  rw [tabled.live id]
  cases known : s.sup.conns id with
  | none => exact .refl tabled
  | some conn =>
    dsimp only
    cases next : conn.nextDown with
    | none => exact .refl tabled
    | some found =>
      obtain ⟨⟨sequence, item⟩, conn'⟩ := found
      obtain ⟨rest, -, -, rfl⟩ := Supervisor.nextDown_kept next
      have first := prepared_setConn tabled known
        { conn with pendingDown := rest, writeInFlight := true } rfl
        (tabled.unclosed id conn known)
      exact first.trans (prepared_sup first.tabled
        (Supervisor.startConnWrite _ conn.id sequence item) rfl rfl rfl rfl le_rfl
        fun id => count_record _ _ id (by simp))

theorem pumpConnIO_prepared (tabled : s.sup.Tabled) :
    Prepared s { s with sup := s.sup.pumpConnIO } := by
  unfold Supervisor.pumpConnIO
  generalize s.sup.order = ids
  induction ids generalizing s with
  | nil => exact .refl tabled
  | cons id rest ih =>
    have first := pumpRead_prepared tabled id
    have second := first.trans (pumpWrite_prepared first.tabled id)
    exact second.trans (ih second.tabled)

theorem pumpControlUp_prepared (tabled : s.sup.Tabled) : Prepared s s.pumpControlUp := by
  have written : Prepared s { s with sup := s.sup.pumpControlUp } := by
    unfold Supervisor.pumpControlUp
    cases pending : s.sup.upPending with
    | nil => exact .refl tabled
    | cons next rest =>
      dsimp only
      split
      · exact .refl tabled
      · refine prepared_sup tabled _ rfl rfl rfl rfl ?_ fun _ => rfl
        rw [pending]
        exact Nat.le_succ _
  unfold pumpControlUp
  split
  · exact written
  · split
    · exact .refl tabled
    · split
      · exact ⟨tabled.congr rfl rfl rfl rfl, rfl, rfl, rfl,
          Nat.add_le_add_right (Nat.sub_le _ _) _, rfl, rfl, rfl, rfl, fun _ => rfl,
          fun _ member => member⟩
      · exact ⟨written.tabled, written.order, written.nextConnID, written.terminal, written.queued,
          rfl, rfl, rfl, rfl, written.closings, fun _ member => member⟩

theorem pumpDataUp_prepared (tabled : s.sup.Tabled) : Prepared s (pumpDataUp s).1 ∧
    ((pumpDataUp s).2 = .rest ∨ ∃ error, (pumpDataUp s).2 = failFlow error) := by
  have idle : Prepared s s := .refl tabled
  unfold pumpDataUp
  split
  · exact ⟨idle, .inl rfl⟩
  · split
    · exact ⟨idle, .inl rfl⟩
    · split
      · exact ⟨idle, .inl rfl⟩
      · split
        · exact ⟨idle, .inl rfl⟩
        · rename_i conn known
          split
          · exact ⟨idle, .inr ⟨_, rfl⟩⟩
          · rename_i item conn' took
            obtain ⟨named, state⟩ : conn'.id = conn.id ∧ conn'.state = conn.state := by
              unfold Conn.takeUpward at took
              split at took
              · cases took
              · obtain ⟨-, rfl⟩ := Prod.mk.inj (Except.ok.inj took)
                exact ⟨rfl, rfl⟩
            have first := prepared_setConn tabled known conn' named
              (state ▸ tabled.unclosed _ conn known)
            refine ⟨first.trans (prepared_sup first.tabled _ rfl rfl rfl rfl le_rfl fun _ => rfl),
              .inl rfl⟩

theorem pump_sheds (standing : Standing s) (returned : s.pump fuel = some t) : Sheds s t := by
  have sinks := overflow_sinks fuel
  have io := pumpConnIO_prepared standing.tabled
  have control := io.trans (pumpControlUp_prepared io.tabled)
  obtain ⟨data, fails⟩ := pumpDataUp_prepared control.tabled
  have all := control.trans data
  unfold pump at returned
  generalize pumpDataUp _ = pumped at all fails returned
  obtain ⟨v, reaction⟩ := pumped
  obtain ⟨u, performed, quit⟩ := Option.bind_eq_some_iff.mp returned
  have closing : ∀ conn reason, reaction ≠ .close conn reason := by
    rintro conn reason rfl
    rcases fails with rest | ⟨error, fails⟩
    · cases rest
    · cases error <;> cases fails
  have second := performWith_sheds sinks all.tabled (all.queued.trans standing.bounded)
    (fun conn reason same => absurd same (closing conn reason)) performed
  have both := (all.sheds standing.tabled).trans second
  unfold maybeFinishQuit at quit
  split at quit
  · exact both.trans (completeQuitWith_sheds sinks both.tabled quit)
  · obtain rfl := Option.some.inj quit
    exact both

/-! ## Every front that is reached -/

theorem start_standing (initialAdmissionEpoch : Nat) (timeoutRefusalBytes : List UInt8) :
    Standing (start initialAdmissionEpoch timeoutRefusalBytes) := by
  refine ⟨?_, ?_, fun id member => absurd member List.not_mem_nil⟩
  · exact Supervisor.start_tabled initialAdmissionEpoch timeoutRefusalBytes
  · change 2 + (Supervisor.start _ _).upPending.length ≤ controlQueueBound
    unfold Supervisor.start controlQueueBound
    split <;> simp

theorem reached_standing {initialAdmissionEpoch : Nat} {timeoutRefusalBytes : List UInt8}
    (reached : Reached initialAdmissionEpoch timeoutRefusalBytes s) : Standing s := by
  induction reached with
  | start => exact start_standing initialAdmissionEpoch timeoutRefusalBytes
  | handled reached fuel wire event received returned ih => exact handle_standing ih received returned
  | pumped reached running fuel returned ih => exact (pump_sheds ih returned).standing ih

end Front

end Vex.Bridge
