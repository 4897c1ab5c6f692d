import Vex.Bridge.Front

/-!
# What a front does when it closes

What the call that ends a handler does is followed through a queue that has room, where it is the
call of the supervisor, and through one that overflows.
-/

namespace Vex.Bridge

open Vex.Library
open Vex.Mcp.PipeFront (PeerClosedReason)

namespace Front

variable {s t u : Front}

/-! ## What closing does -/

def alive (s : Front) (id : Nat) : Bool := (s.sup.live id).isSome

/-- An `ERROR` of the code is queued. -/
def Reports (s : Front) (code : ErrorCode) : Prop :=
  ∃ connection count, (connection, .error code count) ∈ s.sup.upPending

/-- What is done to the handles of connections that are closed, in order. -/
def shuts (s : Front) (ids : List Nat) : List RawOp :=
  ids.flatMap fun id => [.closed (s.wires id), .released (s.wires id)]

/-- The table and the rotation agree; a connection that is closed may still be listed. -/
structure Tidy (s : Front) : Prop where
  named : ∀ id conn, s.sup.conns id = some conn → conn.id = id
  listed : ∀ id, id ∈ s.sup.order ↔ (s.sup.conns id).isSome
  nodup : s.sup.order.Nodup

structure Calm (s t : Front) : Prop where
  failed : t.failed = s.failed
  terminal : t.sup.terminal = s.sup.terminal
  exit : t.exit = s.exit

/-- The front has failed: every handle is closed, and the exit code is that of the failure. -/
structure Fell (code : ExitCode) (s t : Front) : Prop where
  served : s.sup.terminal = false
  terminal : t.sup.terminal = true
  exit : t.exit = code
  failed : ∃ more, t.failed = s.failed ++ code :: more
  dead : ∀ id, t.alive id = false

/-- Connections are closed, each once, and frames are queued. -/
structure Winds (s t : Front) : Prop where
  closes : ∃ ids : List Nat, ids.Nodup ∧ (∀ id, id ∈ ids ↔ s.alive id = true ∧ t.alive id = false) ∧
    t.sup.history = s.sup.history ++ ids.map .closed ∧ t.ops = s.ops ++ s.shuts ids
  fewer : ∀ id, t.alive id = true → s.alive id = true
  gone : ∀ id, s.alive id = true → t.alive id = false → t.sup.conns id = none
  absent : ∀ id, s.sup.conns id = none → t.sup.conns id = none
  tidy : Tidy s → Tidy t
  wires : t.wires = s.wires
  nextConnID : t.sup.nextConnID = s.sup.nextConnID
  order : t.sup.order.Sublist s.sup.order
  timers : ∀ id ∈ t.timers, id ∈ s.timers
  stopped : ∀ id ∈ t.timers, s.alive id = true → t.alive id = true
  reports : ∀ code, s.Reports code → t.Reports code
  grows : s.queued ≤ t.queued
  bounded : s.queued ≤ controlQueueBound → t.queued ≤ controlQueueBound
  ended : Calm s t ∨ Fell .internalInvariant s t

theorem Calm.refl (s : Front) : Calm s s := ⟨rfl, rfl, rfl⟩

theorem Calm.trans (first : Calm s t) (second : Calm t u) : Calm s u :=
  ⟨second.failed.trans first.failed, second.terminal.trans first.terminal,
    second.exit.trans first.exit⟩

namespace Winds

theorem trans (first : Winds s t) (second : Winds t u) : Winds s u where
  closes := by
    obtain ⟨ids, nodup, closed, history, ops⟩ := first.closes
    obtain ⟨ids', nodup', closed', history', ops'⟩ := second.closes
    refine ⟨ids ++ ids', List.nodup_append.mpr ⟨nodup, nodup', ?_⟩, fun id => ?_, ?_, ?_⟩
    · rintro id early other late rfl
      have dead := ((closed id).mp early).2
      rw [((closed' id).mp late).1] at dead
      cases dead
    · rw [List.mem_append, closed, closed']
      constructor
      · rintro (⟨living, dead⟩ | ⟨living, dead⟩)
        · refine ⟨living, Bool.eq_false_iff.mpr fun late => ?_⟩
          rw [second.fewer id late] at dead
          cases dead
        · exact ⟨first.fewer id living, dead⟩
      · rintro ⟨living, dead⟩
        cases middle : t.alive id with
        | true => exact .inr ⟨rfl, dead⟩
        | false => exact .inl ⟨living, rfl⟩
    · rw [history', history, List.map_append, List.append_assoc]
    · have same : t.shuts ids' = s.shuts ids' := by
        unfold shuts
        rw [first.wires]
      rw [ops', ops, same, List.append_assoc]
      unfold shuts
      rw [List.flatMap_append]
  fewer id living := first.fewer id (second.fewer id living)
  gone id living dead := by
    cases middle : t.alive id with
    | true => exact second.gone id middle dead
    | false => exact second.absent id (first.gone id living middle)
  absent id none_ := second.absent id (first.absent id none_)
  tidy tidy := second.tidy (first.tidy tidy)
  wires := second.wires.trans first.wires
  nextConnID := second.nextConnID.trans first.nextConnID
  order := second.order.trans first.order
  timers id member := first.timers id (second.timers id member)
  stopped id member living := second.stopped id member
    (first.stopped id (second.timers id member) living)
  reports code reported := second.reports code (first.reports code reported)
  grows := first.grows.trans second.grows
  bounded room := second.bounded (first.bounded room)
  ended := by
    rcases first.ended with calm | fell
    · rcases second.ended with calm' | fell
      · exact .inl (calm.trans calm')
      · exact .inr ⟨calm.terminal ▸ fell.served, fell.terminal, fell.exit,
          calm.failed ▸ fell.failed, fell.dead⟩
    · rcases second.ended with calm | fell'
      · refine .inr ⟨fell.served, calm.terminal.trans fell.terminal, calm.exit.trans fell.exit,
          calm.failed.symm ▸ fell.failed, fun id => ?_⟩
        · cases living : u.alive id with
          | false => rfl
          | true =>
            have early := second.fewer id living
            rw [fell.dead id] at early
            cases early
      · have never := fell'.served
        rw [fell.terminal] at never
        cases never

theorem of_queue (conns : t.sup.conns = s.sup.conns) (order : t.sup.order = s.sup.order)
    (history : t.sup.history = s.sup.history) (nextConnID : t.sup.nextConnID = s.sup.nextConnID)
    (ops : t.ops = s.ops) (wires : t.wires = s.wires) (timers : t.timers = s.timers)
    (calm : Calm s t) (reports : ∀ code, s.Reports code → t.Reports code)
    (grows : s.queued ≤ t.queued)
    (bounded : s.queued ≤ controlQueueBound → t.queued ≤ controlQueueBound) : Winds s t where
  closes := by
    have same : ∀ id, t.alive id = s.alive id := fun id => by
      unfold alive Supervisor.live
      rw [conns]
    refine ⟨[], List.nodup_nil, fun id => ?_, by simp [history], by simp [ops, shuts]⟩
    rw [same]
    cases s.alive id <;> simp
  fewer id living := by
    unfold alive Supervisor.live at living ⊢
    rwa [conns] at living
  gone id living dead := by
    unfold alive Supervisor.live at living dead
    rw [conns, living] at dead
    cases dead
  absent id none_ := by rw [conns, none_]
  tidy tidy := ⟨fun id conn known => tidy.named id conn (conns ▸ known),
    fun id => by rw [order, conns, tidy.listed], order ▸ tidy.nodup⟩
  wires := wires
  nextConnID := nextConnID
  order := order ▸ List.Sublist.refl _
  timers id member := timers ▸ member
  stopped id _ living := by
    unfold alive Supervisor.live at living ⊢
    rwa [conns]
  reports := reports
  grows := grows
  bounded := bounded
  ended := .inl calm

theorem refl (s : Front) : Winds s s :=
  of_queue rfl rfl rfl rfl rfl rfl rfl (.refl s) (fun _ reported => reported) le_rfl id

end Winds

/-! ## The queue -/

variable {code : ErrorCode}

theorem coalesce_error {tag : Nat} {n : Nat} (frames : List ControlUpFrame) :
    Supervisor.coalesce tag (.error code n) frames ≠ none ↔
      ∃ connection count', (connection, .error code count') ∈ frames := by
  induction frames with
  | nil => simp [Supervisor.coalesce]
  | cons frame frames ih =>
    obtain ⟨connection, payload⟩ := frame
    have skipped : Supervisor.merged tag (.error code n) (connection, payload) = none →
        (∀ count', payload ≠ .error code count') →
        (Supervisor.coalesce tag (.error code n) ((connection, payload) :: frames) ≠ none ↔
          ∃ connection' count',
            (connection', .error code count') ∈ (connection, payload) :: frames) := by
      intro apart other
      rw [Supervisor.coalesce, apart]
      simp only [ne_eq, Option.map_eq_none_iff, List.mem_cons, Prod.mk.injEq]
      rw [← ne_eq, ih]
      constructor
      · rintro ⟨connection', count', member⟩
        exact ⟨connection', count', .inr member⟩
      · rintro ⟨connection', count', ⟨-, same⟩ | member⟩
        · exact absurd same.symm (other count')
        · exact ⟨connection', count', member⟩
    cases payload with
    | error code' count' =>
      by_cases same : code' = code
      · subst same
        refine iff_of_true ?_ ⟨connection, count', List.mem_cons_self⟩
        rw [Supervisor.coalesce]
        simp [Supervisor.merged]
      · refine skipped (by simp [Supervisor.merged, same]) fun count'' joined => ?_
        exact same (ControlUp.error.inj joined).1
    | _ => exact skipped rfl fun count' => by simp

variable {connection : Nat} {payload : ControlUp}

theorem coalesce_reports {frames frames' : List ControlUpFrame}
    (coalesced : Supervisor.coalesce connection payload frames = some frames')
    (reported : ∃ connection' count, (connection', ControlUp.error code count) ∈ frames) :
    ∃ connection' count, (connection', ControlUp.error code count) ∈ frames' := by
  obtain ⟨before, old, new, after, rfl, rfl, joined⟩ := Supervisor.coalesce_spec coalesced
  obtain ⟨connection', count, member⟩ := reported
  simp only [List.mem_append, List.mem_cons] at member ⊢
  rcases member with member | rfl | member
  · exact ⟨connection', count, .inl member⟩
  · cases payload with
    | error code' count' =>
      simp only [Supervisor.merged] at joined
      split at joined
      · obtain rfl := Option.some.inj joined
        rename_i same
        exact ⟨connection', count + count', .inr (.inl (by rw [same]))⟩
      · cases joined
    | _ => cases joined
  · exact ⟨connection', count, .inr (.inr member)⟩

theorem coalesce_length {frames frames' : List ControlUpFrame}
    (coalesced : Supervisor.coalesce connection payload frames = some frames') :
    frames'.length = frames.length := by
  obtain ⟨before, old, new, after, rfl, rfl, -⟩ := Supervisor.coalesce_spec coalesced
  simp

theorem queued_append (s : Front) (frame : ControlUpFrame) :
    (s.setPending (s.sup.upPending ++ [frame])).queued = s.queued + 1 := by
  simp [queued, setPending, Nat.add_assoc]

section Overflow

variable {overflow : Front → Option Front}

/-- What a full queue calls winds the front down: a front that serves fails. -/
def Sinks (overflow : Front → Option Front) : Prop :=
  ∀ s t, Tidy s → overflow s = some t → Winds s t ∧
    (s.sup.terminal = false → Fell .internalInvariant s t) ∧ (s.sup.terminal = true → t = s)

theorem queueUpWith_winds (sinks : Sinks overflow) (tidy : Tidy s) {connection : Nat}
    {payload : ControlUp} (queued : queueUpWith overflow s connection payload = some t) : Winds s t := by
  unfold queueUpWith at queued
  cases coalesced : Supervisor.coalesce connection payload s.sup.upPending with
  | some frames =>
    rw [coalesced] at queued
    obtain rfl := Option.some.inj queued
    have same : (s.setPending frames).queued = s.queued :=
      congrArg (s.bootstrapFrames + ·) (coalesce_length coalesced)
    exact .of_queue rfl rfl rfl rfl rfl rfl rfl ⟨rfl, rfl, rfl⟩
      (fun code => coalesce_reports coalesced) same.ge (fun room => same.le.trans room)
  | none =>
    rw [coalesced] at queued
    dsimp only at queued
    split at queued
    · exact (sinks s t tidy queued).1
    · rename_i room
      obtain rfl := Option.some.inj queued
      have longer := queued_append s (connection, payload)
      refine .of_queue rfl rfl rfl rfl rfl rfl rfl ⟨rfl, rfl, rfl⟩ ?_ (by omega) fun _ => by omega
      rintro code ⟨connection', count, member⟩
      exact ⟨connection', count, List.mem_append_left _ member⟩

/-! ## A connection -/

theorem alive_shut (s : Front) (conn : Conn) (id : Nat) :
    (s.shut conn).alive id = if id = conn.id then false else s.alive id := by
  by_cases same : id = conn.id
  · simp [alive, shut, Supervisor.live, Supervisor.setConn, Supervisor.record, same,
      Conn.markClosed, Option.filter]
  · simp [alive, shut, Supervisor.live, Supervisor.setConn, Supervisor.record, same, stopTimer,
      closeRaw]

theorem alive_forget (s : Front) (id other : Nat) :
    (s.forget id).alive other = if other = id then false else s.alive other := by
  by_cases same : other = id
  · simp [alive, forget, Supervisor.forget, Supervisor.live, same, Option.filter]
  · simp [alive, forget, Supervisor.forget, Supervisor.live, same]

variable {conn : Conn}

theorem tidy_shut (tidy : Tidy s) (living : s.sup.live conn.id = some conn) :
    Tidy (s.shut conn) := by
  have known : s.sup.conns conn.id = some conn := (Option.filter_eq_some_iff.mp living).1
  refine ⟨fun id conn' found => ?_, fun id => ?_, tidy.nodup⟩
  · by_cases own : id = conn.id
    · subst own
      obtain rfl : conn.markClosed = conn' := by
        simpa [shut, Supervisor.setConn, Supervisor.record] using found
      rfl
    · exact tidy.named id conn' (by
        simpa [shut, Supervisor.setConn, Supervisor.record, own, stopTimer, closeRaw] using found)
  · by_cases own : id = conn.id
    · subst own
      have listed : conn.id ∈ s.sup.order := (tidy.listed _).mpr (by simp [known])
      simp [shut, Supervisor.setConn, Supervisor.record, stopTimer, closeRaw, listed]
    · have listed := tidy.listed id
      simpa [shut, Supervisor.setConn, Supervisor.record, own, stopTimer, closeRaw] using listed

variable {reason : PeerClosedReason}

theorem closeConnWith_winds (sinks : Sinks overflow) (tidy : Tidy s)
    (living : s.sup.live conn.id = some conn)
    (closed : closeConnWith overflow s conn reason = some t) :
    Winds s t ∧ t.alive conn.id = false := by
  have unclosed : conn.state ≠ .closed := by
    have kept := Option.filter_eq_some_iff.mp living
    simpa using kept.2
  have known : s.sup.conns conn.id = some conn := (Option.filter_eq_some_iff.mp living).1
  unfold closeConnWith at closed
  rw [if_neg unclosed] at closed
  obtain ⟨u, queued, rfl⟩ := Option.map_eq_some_iff.mp closed
  have marked := tidy_shut tidy living
  have winds := queueUpWith_winds sinks marked queued
  have dead : u.alive conn.id = false := by
    refine Bool.eq_false_iff.mpr fun late => ?_
    have early := winds.fewer conn.id late
    rw [alive_shut, if_pos rfl] at early
    cases early
  have same : ∀ id, (u.forget conn.id).alive id = u.alive id := by
    intro id
    rw [alive_forget]
    split
    · rename_i own
      rw [own, dead]
    · rfl
  have before : ∀ id, (s.shut conn).alive id = true ↔ id ≠ conn.id ∧ s.alive id = true := by
    intro id
    rw [alive_shut]
    split <;> simp_all
  have started : s.alive conn.id = true := by
    unfold alive
    rw [living]
    rfl
  refine ⟨?_, (same conn.id).trans dead⟩
  constructor
  · obtain ⟨ids, nodup, each, history, ops⟩ := winds.closes
    refine ⟨conn.id :: ids, List.nodup_cons.mpr ⟨fun member => ?_, nodup⟩, fun id => ?_, ?_, ?_⟩
    · exact ((before conn.id).mp ((each conn.id).mp member).1).1 rfl
    · rw [List.mem_cons, each, before, same]
      by_cases own : id = conn.id
      · subst own
        simp [started, dead]
      · simp [own]
    · change u.sup.history = _
      rw [history]
      simp [shut, Supervisor.record, Supervisor.setConn, stopTimer, closeRaw]
    · change u.ops = _
      rw [ops]
      simp [shut, shuts, stopTimer, closeRaw]
  · intro id late
    rw [same] at late
    exact ((before id).mp (winds.fewer id late)).2
  · intro id early late
    rw [same] at late
    by_cases own : id = conn.id
    · simp [forget, Supervisor.forget, own]
    · have out := winds.gone id ((before id).mpr ⟨own, early⟩) late
      simp [forget, Supervisor.forget, own, out]
  · intro id none_
    have own : id ≠ conn.id := by
      rintro rfl
      rw [known] at none_
      cases none_
    have out := winds.absent id (by simp [shut, Supervisor.setConn, Supervisor.record, own, none_,
      stopTimer, closeRaw])
    simp [forget, Supervisor.forget, own, out]
  · intro _
    have tidy' := winds.tidy marked
    refine ⟨fun id conn' found => ?_, fun id => ?_, tidy'.nodup.erase _⟩
    · by_cases own : id = conn.id
      · simp [forget, Supervisor.forget, own] at found
      · exact tidy'.named id conn' (by simpa [forget, Supervisor.forget, own] using found)
    · change id ∈ u.sup.order.erase conn.id ↔ _
      rw [tidy'.nodup.mem_erase_iff, tidy'.listed]
      by_cases own : id = conn.id
      · simp [forget, Supervisor.forget, own]
      · simp [forget, Supervisor.forget, own]
  · exact winds.wires
  · exact winds.nextConnID
  · exact (List.erase_sublist).trans winds.order
  · intro id member
    have kept : id ∈ (s.shut conn).timers := winds.timers id member
    exact (List.mem_filter.mp kept).1
  · intro id member living'
    have kept : id ∈ (s.shut conn).timers := winds.timers id member
    have other : id ≠ conn.id := by simpa using (List.mem_filter.mp kept).2
    rw [same]
    exact winds.stopped id member ((before id).mpr ⟨other, living'⟩)
  · exact winds.reports
  · exact winds.grows
  · exact winds.bounded
  · rcases winds.ended with calm | fell
    · exact .inl ⟨calm.failed, calm.terminal, calm.exit⟩
    · exact .inr ⟨fell.served, fell.terminal, fell.exit, fell.failed, fun id => (same id).trans (fell.dead id)⟩

/-! ## All connections -/

variable {id : Nat}

theorem alive_iff : s.alive id = true ↔ ∃ conn, s.sup.live id = some conn :=
  Option.isSome_iff_exists

theorem live_named (tidy : Tidy s) (living : s.sup.live id = some conn) :
    s.sup.live conn.id = some conn := by
  rwa [tidy.named id conn (Option.filter_eq_some_iff.mp living).1]

variable {closed : Nat}

theorem closeEachWith_winds (sinks : Sinks overflow) {ids : List Nat} (tidy : Tidy s)
    (ends : closeEachWith overflow reason ids s = some (t, closed)) :
    Winds s t ∧ ∀ id ∈ ids, t.alive id = false := by
  induction ids generalizing s closed with
  | nil =>
    obtain ⟨rfl, -⟩ := Prod.mk.inj (Option.some.inj ends)
    exact ⟨.refl s, by simp⟩
  | cons id rest ih =>
    rw [closeEachWith] at ends
    cases living : s.sup.live id with
    | none =>
      rw [living] at ends
      obtain ⟨winds, dead⟩ := ih tidy ends
      refine ⟨winds, fun other member => ?_⟩
      rcases List.mem_cons.mp member with rfl | member
      · refine Bool.eq_false_iff.mpr fun late => ?_
        obtain ⟨conn, early⟩ := alive_iff.mp (winds.fewer other late)
        rw [living] at early
        cases early
      · exact dead other member
    | some conn =>
      rw [living] at ends
      obtain ⟨u, one, ends⟩ := Option.bind_eq_some_iff.mp ends
      obtain ⟨⟨v, count⟩, others, same⟩ := Option.map_eq_some_iff.mp ends
      obtain ⟨rfl, -⟩ := Prod.mk.inj same
      have named := tidy.named id conn (Option.filter_eq_some_iff.mp living).1
      obtain ⟨first, shut_⟩ := closeConnWith_winds sinks tidy (live_named tidy living) one
      obtain ⟨winds, dead⟩ := ih (first.tidy tidy) others
      refine ⟨first.trans winds, fun other member => ?_⟩
      rcases List.mem_cons.mp member with rfl | member
      · refine Bool.eq_false_iff.mpr fun late => ?_
        rw [named, Bool.eq_false_iff] at shut_
        exact shut_ (winds.fewer other late)
      · exact dead other member

theorem closeAllWith_winds (sinks : Sinks overflow) (tidy : Tidy s)
    (ends : closeAllWith overflow s reason = some (t, closed)) :
    Winds s t ∧ ∀ id, t.alive id = false := by
  obtain ⟨winds, dead⟩ := closeEachWith_winds sinks tidy ends
  refine ⟨winds, fun id => Bool.eq_false_iff.mpr fun late => ?_⟩
  obtain ⟨conn, living⟩ := alive_iff.mp (winds.fewer id late)
  have known := (Option.filter_eq_some_iff.mp living).1
  have listed : id ∈ s.sup.order := (tidy.listed id).mpr (by rw [known]; rfl)
  rw [dead id listed] at late
  cases late

theorem winds_logged (s : Front) (failure : Failure) : Winds s (s.logged failure) :=
  .of_queue rfl rfl rfl rfl rfl rfl rfl ⟨rfl, rfl, rfl⟩ (fun _ reported => reported) le_rfl id

variable {code : ErrorCode} {exit : ExitCode} {failure : Failure}

theorem failWith_winds (sinks : Sinks overflow) (tidy : Tidy s) (running : s.sup.terminal = false)
    (failed : failWith overflow s code exit failure = some t) :
    ∃ u, Winds (s.called exit) u ∧ (∀ id, u.alive id = false) ∧ t = u.terminate exit := by
  unfold failWith at failed
  rw [if_neg (by simp [running])] at failed
  obtain ⟨u, reported, failed⟩ := Option.bind_eq_some_iff.mp failed
  obtain ⟨⟨v, closed⟩, closing, rfl⟩ := Option.map_eq_some_iff.mp failed
  have tidy' : Tidy (s.called exit) := ⟨tidy.named, tidy.listed, tidy.nodup⟩
  have first := (queueUpWith_winds sinks tidy' reported).trans (winds_logged u failure)
  obtain ⟨second, dead⟩ := closeAllWith_winds sinks (first.tidy tidy') closing
  exact ⟨v, first.trans second, dead, rfl⟩

theorem Winds.failed (winds : Winds s t) : ∃ more, t.failed = s.failed ++ more := by
  rcases winds.ended with calm | fell
  · exact ⟨[], by rw [calm.failed, List.append_nil]⟩
  · obtain ⟨more, longer⟩ := fell.failed
    exact ⟨_, longer⟩

theorem failWith_fell (sinks : Sinks overflow) (tidy : Tidy s) (running : s.sup.terminal = false)
    (failed : failWith overflow s code exit failure = some t) : Fell exit s t := by
  obtain ⟨u, winds, dead, rfl⟩ := failWith_winds sinks tidy running failed
  obtain ⟨more, longer⟩ := winds.failed
  exact ⟨running, rfl, rfl, ⟨more, by simpa [terminate, called] using longer⟩, dead⟩

theorem overflow_sinks (fuel : Nat) : Sinks (Front.overflow fuel) := by
  induction fuel with
  | zero =>
    intro s t tidy failed
    cases failed
  | succ fuel ih =>
    intro s t tidy failed
    change failWith (Front.overflow fuel) s .internalInvariant .internalInvariant
      .controlQueueOverflow = some t at failed
    cases done_ : s.sup.terminal with
    | true =>
      unfold failWith at failed
      rw [if_pos done_] at failed
      obtain rfl := Option.some.inj failed
      exact ⟨.refl s, fun running => by simp at running, fun _ => rfl⟩
    | false =>
      have fell := failWith_fell ih tidy done_ failed
      obtain ⟨u, winds, dead, rfl⟩ := failWith_winds ih tidy done_ failed
      have tidied : Tidy s → Tidy (u.terminate .internalInvariant) := by
        intro tidy
        have tidy' := winds.tidy ⟨tidy.named, tidy.listed, tidy.nodup⟩
        exact ⟨tidy'.named, tidy'.listed, tidy'.nodup⟩
      exact ⟨⟨winds.closes, winds.fewer, winds.gone, winds.absent, tidied, winds.wires,
        winds.nextConnID, winds.order, winds.timers, winds.stopped, winds.reports, winds.grows,
        winds.bounded, .inr fell⟩, fun _ => fell, fun never => by simp at never⟩

end Overflow

end Front

end Vex.Bridge
