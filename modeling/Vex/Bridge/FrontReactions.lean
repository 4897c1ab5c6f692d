import Vex.Bridge.FrontClosing

/-!
# What a handler does before the call it ends with

An event other than an accepted handle changes connections of the table, and stops timers
(`Prepared`). An accepted handle is registered, or closed at once where it cannot be
(`Reacts`).
-/

namespace Vex.Bridge

open Vex.Library
open Vex.Mcp.PipeFront (PeerClosedReason)

/-- How often the handle of a connection was closed. -/
def Front.closings (s : Front) (id : Nat) : Nat := s.sup.history.count (.closed id)

namespace Front

variable {s t u : Front}

/-- Connections of the table are changed, frames are written and timers stopped. -/
structure Prepared (s t : Front) : Prop where
  tabled : t.sup.Tabled
  order : t.sup.order = s.sup.order
  nextConnID : t.sup.nextConnID = s.sup.nextConnID
  terminal : t.sup.terminal = s.sup.terminal
  queued : t.queued ≤ s.queued
  exit : t.exit = s.exit
  failed : t.failed = s.failed
  wires : t.wires = s.wires
  ops : t.ops = s.ops
  closings : ∀ id, t.closings id = s.closings id
  timers : ∀ id ∈ t.timers, id ∈ s.timers

/-- A handle is registered: what `handleAccepted` does before it queues `OPEN`. -/
def register (s : Front) (wire : Nat) : Front :=
  { s with
    sup := { s.sup with
      nextConnID := s.sup.nextConnID + 1
      order := s.sup.order ++ [s.sup.nextConnID] }.setConn s.sup.nextConnID
        (Conn.new s.sup.nextConnID).openSent
    wires := Function.update s.wires s.sup.nextConnID wire
    timers := s.timers ++ [s.sup.nextConnID] }

inductive Reacts (s : Front) (wire : Nat) : FrontEvent → Front × Reaction → Prop
  | changed (event : FrontEvent) (t : Front) (reaction : Reaction) (prepared : Prepared s t)
      (other : ∀ halfCloses, event ≠ .accepted halfCloses)
      (known : ∀ conn reason, reaction = .close conn reason → t.sup.live conn.id = some conn)
      (ending : reaction ≠ .finish .internalInvariant)
      (quiet : ∀ connection count, reaction ≠ .queue connection (.error .internalInvariant count)) :
      Reacts s wire event (t, reaction)
  | turnedAway (halfCloses : Bool) (code : ErrorCode) (failure : Failure) :
      Reacts s wire (.accepted halfCloses) (s.closeRaw wire, .fail code .internalInvariant failure)
  | registered : Reacts s wire (.accepted true)
      (s.register wire, .queue s.sup.nextConnID .open)

theorem Prepared.refl (tabled : s.sup.Tabled) : Prepared s s :=
  ⟨tabled, rfl, rfl, rfl, le_rfl, rfl, rfl, rfl, rfl, fun _ => rfl, fun _ member => member⟩

theorem Prepared.trans (first : Prepared s t) (second : Prepared t u) : Prepared s u where
  tabled := second.tabled
  order := second.order.trans first.order
  nextConnID := second.nextConnID.trans first.nextConnID
  terminal := second.terminal.trans first.terminal
  queued := second.queued.trans first.queued
  exit := second.exit.trans first.exit
  failed := second.failed.trans first.failed
  wires := second.wires.trans first.wires
  ops := second.ops.trans first.ops
  closings id := (second.closings id).trans (first.closings id)
  timers id member := first.timers id (second.timers id member)

variable {id : Nat} {conn : Conn}

theorem prepared_setConn (tabled : s.sup.Tabled) (known : s.sup.conns id = some conn) (conn' : Conn)
    (named : conn'.id = conn.id) (unclosed : conn'.state ≠ .closed) :
    Prepared s (s.setConn id conn') :=
  ⟨Supervisor.setConn_tabled tabled known conn' named unclosed, rfl, rfl, rfl, le_rfl, rfl, rfl, rfl,
    rfl, fun _ => rfl, fun _ member => member⟩

theorem prepared_stopTimer (tabled : s.sup.Tabled) (id : Nat) : Prepared s (s.stopTimer id) :=
  ⟨tabled, rfl, rfl, rfl, le_rfl, rfl, rfl, rfl, rfl, fun _ => rfl,
    fun _ member => (List.mem_filter.mp member).1⟩

theorem prepared_sup (tabled : s.sup.Tabled) (sup : Supervisor) (conns : sup.conns = s.sup.conns)
    (order : sup.order = s.sup.order) (nextConnID : sup.nextConnID = s.sup.nextConnID)
    (terminal : sup.terminal = s.sup.terminal)
    (upPending : sup.upPending.length ≤ s.sup.upPending.length)
    (history : ∀ id, sup.history.count (.closed id) = s.sup.history.count (.closed id)) :
    Prepared s { s with sup := sup } :=
  ⟨tabled.congr conns order nextConnID terminal, order, nextConnID, terminal,
    Nat.add_le_add_left upPending s.bootstrapFrames, rfl, rfl, rfl, rfl, history,
    fun _ member => member⟩

theorem count_record (history : List HandleEvent) (event : HandleEvent) (id : Nat)
    (other : event ≠ .closed id) :
    (history ++ [event]).count (.closed id) = history.count (.closed id) := by
  rw [List.count_append, List.count_singleton, if_neg (by simpa using other), Nat.add_zero]

namespace Reacts

variable {wire : Nat}

variable {event : FrontEvent}

theorem plain {reaction : Reaction} (prepared : Prepared s t)
    (other : ∀ halfCloses, event ≠ .accepted halfCloses)
    (quiet : reaction = .rest ∨ (∃ code exit failure, reaction = .fail code exit failure) ∨
      reaction = .lock ∨ reaction = .completeQuit ∨ reaction = .finish .clean ∨
      reaction = .finish .parentGone) : Reacts s wire event (t, reaction) := by
  refine .changed event t reaction prepared other ?_ ?_ ?_
  · rintro conn reason rfl
    simp at quiet
  · rintro rfl
    simp at quiet
  · rintro connection count rfl
    simp at quiet

theorem ofFlow (prepared : Prepared s t) (other : ∀ halfCloses, event ≠ .accepted halfCloses)
    (error : FlowError) : Reacts s wire event (t, failFlow error) := by
  refine .plain prepared other (.inr (.inl ?_))
  cases error <;> exact ⟨_, _, _, rfl⟩

theorem closing (prepared : Prepared s t) (other : ∀ halfCloses, event ≠ .accepted halfCloses)
    {conn : Conn} (known : t.sup.conns conn.id = some conn) (reason : PeerClosedReason) :
    Reacts s wire event (t, .close conn reason) := by
  refine .changed event t _ prepared other ?_ (by simp) (by simp)
  rintro conn' reason' same
  obtain ⟨rfl, -⟩ := Reaction.close.inj same
  rw [prepared.tabled.live, known]

end Reacts

variable {wire : Nat} {event : FrontEvent}

theorem refuseWith_reacts (first : Prepared s t)
    (other : ∀ halfCloses, event ≠ .accepted halfCloses) (known : t.sup.conns id = some conn)
    (bytes : List UInt8) : Reacts s wire event (t.refuseWith id conn bytes) := by
  have refused := first.trans
    (prepared_setConn first.tabled known conn.refuse rfl (by simp [Conn.refuse]))
  obtain rfl := first.tabled.named id conn known
  unfold refuseWith
  dsimp only
  split
  · exact .closing refused other (by simp [setConn, Supervisor.setConn, Conn.refuse]) _
  · refine .plain (refused.trans (prepared_sup refused.tabled
      ((t.setConn conn.id conn.refuse).sup.startConnWrite conn.id refusalSequence (.chunk bytes))
      rfl rfl rfl rfl le_rfl fun id => ?_)) other (.inl rfl)
    exact count_record _ _ id (by simp)

theorem handleControl_reacts (tabled : s.sup.Tabled) (wire connection : Nat) (payload : ControlDown) :
    Reacts s wire (.mainControl connection payload) (s.handleControl connection payload) := by
  have other : ∀ halfCloses, FrontEvent.mainControl connection payload ≠ .accepted halfCloses :=
    fun _ => by simp
  have idle : Reacts s wire (.mainControl connection payload) (s, .rest) :=
    .plain (.refl tabled) other (.inl rfl)
  cases payload with
  | hello => exact .plain (.refl tabled) other (.inr (.inl ⟨_, _, _, rfl⟩))
  | admission admissionEpoch =>
    refine .plain ?_ other (.inl rfl)
    unfold Supervisor.handleAdmit
    split
    · exact .refl tabled
    · rw [tabled.live connection]
      cases known : s.sup.conns connection with
      | none => exact .refl tabled
      | some conn =>
        refine prepared_setConn tabled known conn.admit_ ?_ ?_
        · unfold Conn.admit_
          split <;> rfl
        · unfold Conn.admit_
          split
          · simp
          · exact tabled.unclosed connection conn known
  | refuse bytes =>
    change Reacts s wire _ (s.handleRefuse connection bytes)
    unfold handleRefuse
    rw [tabled.live connection]
    cases known : s.sup.conns connection with
    | none => exact idle
    | some conn =>
      exact refuseWith_reacts (t := s.stopTimer connection)
        (prepared_stopTimer tabled connection) other known bytes
  | credit bytes =>
    change Reacts s wire _ (s.handleCredit connection bytes)
    unfold handleCredit
    rw [tabled.live connection]
    cases known : s.sup.conns connection with
    | none => exact idle
    | some conn =>
      dsimp only
      cases granted : conn.grantCredit bytes with
      | error error => exact .ofFlow (.refl tabled) other error
      | ok conn' =>
        refine .plain (prepared_setConn tabled known conn' ?_ ?_) other (.inl rfl)
        all_goals
          obtain ⟨_, rfl⟩ := Conn.grantCredit_spec granted
          first | rfl | exact tabled.unclosed connection conn known
  | pause =>
    unfold handleControl
    dsimp only
    rw [tabled.live connection]
    cases known : s.sup.conns connection with
    | none => exact idle
    | some conn =>
      exact .plain (prepared_setConn tabled known conn.pause rfl
        (tabled.unclosed connection conn known)) other (.inl rfl)
  | resume =>
    unfold handleControl
    dsimp only
    rw [tabled.live connection]
    cases known : s.sup.conns connection with
    | none => exact idle
    | some conn =>
      exact .plain (prepared_setConn tabled known conn.resume rfl
        (tabled.unclosed connection conn known)) other (.inl rfl)
  | close =>
    unfold handleControl
    dsimp only
    rw [tabled.live connection]
    cases known : s.sup.conns connection with
    | none => exact idle
    | some conn =>
      obtain rfl := tabled.named connection conn known
      exact .closing (.refl tabled) other known _
  | lock admissionEpoch =>
    exact .plain (prepared_sup tabled { s.sup with epoch := admissionEpoch } rfl rfl rfl rfl le_rfl
      fun _ => rfl) other (.inr (.inr (.inl rfl)))
  | quit deadlineMs =>
    refine .plain ?_ other (.inl rfl)
    unfold Supervisor.handleQuit
    split
    · exact .refl tabled
    · exact prepared_sup tabled { s.sup with quitting := true } rfl rfl rfl rfl le_rfl fun _ => rfl
  | ping nonce =>
    exact .changed _ s _ (.refl tabled) other (by simp) (by simp) (by simp)

theorem handleDown_reacts (tabled : s.sup.Tabled) (wire id sequence : Nat) (item : StreamItem UInt8) :
    Reacts s wire (.mainData id sequence item) (s.handleDown id sequence item) := by
  have other : ∀ halfCloses, FrontEvent.mainData id sequence item ≠ .accepted halfCloses :=
    fun _ => by simp
  unfold handleDown
  rw [tabled.live id]
  cases known : s.sup.conns id with
  | none => exact .plain (.refl tabled) other (.inl rfl)
  | some conn =>
    have unclosed := tabled.unclosed id conn known
    cases item with
    | chunk payload =>
      dsimp only
      cases queued : conn.queueDown sequence payload with
      | error error => exact .ofFlow (.refl tabled) other error
      | ok conn' =>
        obtain ⟨named, state⟩ : conn'.id = conn.id ∧ conn'.state = conn.state := by
          obtain ⟨_, rfl⟩ := Conn.queueDown_spec queued
          exact ⟨rfl, rfl⟩
        exact .plain (prepared_setConn tabled known conn' named (state ▸ unclosed)) other (.inl rfl)
    | fin =>
      dsimp only
      cases queued : conn.queueDownEnd sequence with
      | error error => exact .ofFlow (.refl tabled) other error
      | ok conn' =>
        obtain ⟨named, state⟩ : conn'.id = conn.id ∧ conn'.state = conn.state := by
          obtain rfl := Conn.queueDownEnd_spec queued
          exact ⟨rfl, rfl⟩
        exact .plain (prepared_setConn tabled known conn' named (state ▸ unclosed)) other (.inl rfl)

theorem handleAccepted_reacts (wire : Nat) (halfCloses : Bool) :
    Reacts s wire (.accepted halfCloses) (s.handleAccepted wire halfCloses) := by
  unfold handleAccepted
  split
  · exact .turnedAway _ _ _
  · rename_i kept
    split
    · exact .turnedAway _ _ _
    · obtain rfl : halfCloses = true := by simpa using kept
      exact .registered

theorem handleReadError_reacts (first : Prepared s t)
    (other : ∀ halfCloses, event ≠ .accepted halfCloses) (known : t.sup.conns id = some conn)
    (failed : Option ReadError) : Reacts s wire event (t.handleReadError id conn failed) := by
  obtain rfl := first.tabled.named id conn known
  cases failed with
  | none => exact .plain first other (.inl rfl)
  | some error =>
    cases error with
    | eof =>
      unfold handleReadError
      dsimp only
      cases ended : conn.peerEnded with
      | error error => exact .ofFlow first other error
      | ok conn' =>
        obtain ⟨named, state⟩ : conn'.id = conn.id ∧ conn'.state = conn.state := by
          obtain rfl := Conn.peerEnded_spec ended
          exact ⟨rfl, rfl⟩
        exact .plain (first.trans (prepared_setConn first.tabled known conn' named
          (state ▸ first.tabled.unclosed conn.id conn known))) other (.inl rfl)
    | peerGone | other => exact .closing first other known _

theorem handleConnRead_reacts (tabled : s.sup.Tabled) (wire id : Nat) (bytes : List UInt8)
    (failed : Option ReadError) :
    Reacts s wire (.connRead id bytes failed) (s.handleConnRead id bytes failed) := by
  have other : ∀ halfCloses, FrontEvent.connRead id bytes failed ≠ .accepted halfCloses :=
    fun _ => by simp
  have first : Prepared s { s with sup := s.sup.readDone id } :=
    prepared_sup tabled _ rfl rfl rfl rfl le_rfl fun _ => rfl
  unfold handleConnRead
  dsimp only
  rw [first.tabled.live id]
  cases known : (s.sup.readDone id).conns id with
  | none => exact .plain first other (.inl rfl)
  | some conn =>
    have unclosed := first.tabled.unclosed id conn known
    dsimp only
    split
    · cases accepted : conn.acceptRead bytes with
      | error error => exact .ofFlow first other error
      | ok pair =>
        obtain ⟨completed, conn'⟩ := pair
        obtain ⟨named, state⟩ : conn'.id = conn.id ∧ conn'.state = conn.state := by
          obtain ⟨_, _, rfl⟩ := Conn.acceptRead_spec accepted
          exact ⟨rfl, rfl⟩
        have stopped : ∀ v, v = (if completed then
            stopTimer { s with sup := s.sup.readDone id } id
            else { s with sup := s.sup.readDone id }) → Prepared s v ∧ v.sup = s.sup.readDone id := by
          rintro v rfl
          split
          · exact ⟨first.trans (prepared_stopTimer first.tabled id), rfl⟩
          · exact ⟨first, rfl⟩
        obtain ⟨second, same⟩ := stopped _ rfl
        have known' := known
        rw [← same] at known'
        have third := second.trans (prepared_setConn second.tabled known' conn' named
          (state ▸ unclosed))
        have fourth := third.trans (prepared_sup third.tabled
          ((setConn _ id conn').sup.record (.bytesRead id bytes)) rfl rfl rfl rfl le_rfl
          fun id => count_record _ _ id (by simp))
        refine handleReadError_reacts fourth other ?_ failed
        simp [setConn, Supervisor.setConn, Supervisor.record]
    · refine handleReadError_reacts (first.trans (prepared_setConn first.tabled known
        conn.readFailed rfl unclosed)) other ?_ failed
      simp [setConn, Supervisor.setConn]

theorem handleConnWrote_reacts (tabled : s.sup.Tabled) (wire id sequence : Nat)
    (item : StreamItem UInt8) (failed : Bool) :
    Reacts s wire (.connWrote id sequence item failed)
      (s.handleConnWrote id sequence item failed) := by
  have other : ∀ halfCloses, FrontEvent.connWrote id sequence item failed ≠ .accepted halfCloses :=
    fun _ => by simp
  have first : Prepared s { s with sup := s.sup.writeDone id (sequence, item) } :=
    prepared_sup tabled _ rfl rfl rfl rfl le_rfl fun _ => rfl
  unfold handleConnWrote
  dsimp only
  rw [first.tabled.live id]
  cases known : (s.sup.writeDone id (sequence, item)).conns id with
  | none => exact .plain first other (.inl rfl)
  | some conn =>
    have unclosed := first.tabled.unclosed id conn known
    obtain rfl := first.tabled.named id conn known
    dsimp only
    split
    · exact .closing first other known _
    · split
      · refine .closing (first.trans (prepared_setConn first.tabled known conn.writeFailed rfl
          unclosed)) other ?_ _
        simp [setConn, Supervisor.setConn, Conn.writeFailed]
      · have wrote := first.trans (prepared_sup first.tabled
          ((s.sup.writeDone conn.id (sequence, item)).record (.wrote conn.id sequence item))
          rfl rfl rfl rfl le_rfl fun id => count_record _ _ id (by simp))
        split
        · exact .plain (wrote.trans (prepared_setConn wrote.tabled known conn.endCompleted rfl
            unclosed)) other (.inl rfl)
        · cases completed : conn.writeCompleted sequence with
          | error error => exact .ofFlow first other error
          | ok pair =>
            obtain ⟨ackThrough, conn'⟩ := pair
            obtain ⟨named, state⟩ : conn'.id = conn.id ∧ conn'.state = conn.state := by
              obtain ⟨_, rfl⟩ := Conn.writeCompleted_spec completed
              exact ⟨rfl, rfl⟩
            exact .changed _ _ _ (wrote.trans (prepared_setConn wrote.tabled known conn' named
              (state ▸ unclosed))) other (by simp) (by simp) (by simp)

theorem react_reacts (tabled : s.sup.Tabled) (wire : Nat) (event : FrontEvent) :
    Reacts s wire event (s.react wire event) := by
  have failing : ∀ (event : FrontEvent) code exit failure,
      (∀ halfCloses, event ≠ .accepted halfCloses) →
      Reacts s wire event (s, .fail code exit failure) := fun event code exit failure other =>
    .plain (.refl tabled) other (.inr (.inl ⟨code, exit, failure, rfl⟩))
  cases event with
  | mainControl connection payload => exact handleControl_reacts tabled wire connection payload
  | mainData connection sequence item => exact handleDown_reacts tabled wire connection sequence item
  | mainMalformed => exact failing _ _ _ _ (by simp)
  | planeEOF | parentGone | quitExpired => exact .plain (.refl tabled) (by simp) (by simp)
  | planeReadFailed => exact failing _ _ _ _ (by simp)
  | controlWritten failed =>
    refine .plain (prepared_sup tabled
      { s.sup with controlUp := { s.sup.controlUp with busy := false } } rfl rfl rfl rfl le_rfl
      fun _ => rfl) (by simp) ?_
    cases failed <;> simp
  | dataWritten failed =>
    refine .plain (prepared_sup tabled
      { s.sup with dataUp := { s.sup.dataUp with busy := false } } rfl rfl rfl rfl le_rfl
      fun _ => rfl) (by simp) ?_
    cases failed <;> simp
  | accepted halfCloses => exact handleAccepted_reacts wire halfCloses
  | acceptOverflow | acceptFailed => exact .plain (.refl tabled) (by simp) (.inl rfl)
  | connRead id bytes failed => exact handleConnRead_reacts tabled wire id bytes failed
  | connWrote id sequence item failed =>
    exact handleConnWrote_reacts tabled wire id sequence item failed
  | handshakeExpired id =>
    change Reacts s wire _ (s.handleHandshakeExpired id)
    have first := prepared_stopTimer tabled id
    unfold handleHandshakeExpired
    dsimp only
    rw [first.tabled.live id]
    cases known : (s.stopTimer id).sup.conns id with
    | none => exact .plain first (by simp) (.inl rfl)
    | some conn =>
      dsimp only
      split
      · exact .plain first (by simp) (.inl rfl)
      · exact refuseWith_reacts first (by simp) known _

end Front

end Vex.Bridge
