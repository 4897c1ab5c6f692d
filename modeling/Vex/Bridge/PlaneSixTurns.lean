import Vex.Bridge.AdmissionFence
import Vex.Bridge.Refusal
import Vex.Library.Rotation

/-!
# Turns on plane 6

The connections stand in the order in which they were registered, and a cursor says where the next
turn on plane 6 is looked for. What an event does to this rotation is one of four things:
nothing, a connection joins at its end, one leaves it, or all do (`Shifts`); what follows an event
gives at most one turn (`Serves`). From its turn on a connection is the last in the rotation, so
the others that wait have theirs before it has the next, unless a connection leaves from before the
cursor: the rest shift under the cursor, and the connection that was next is passed over.
-/

namespace Vex.Bridge

open Vex.Library
open Vex.Mcp.PipeFront (PeerClosedReason)

namespace Supervisor

/-- The connection is open and a frame of it waits for plane 6. -/
def Waits (s : Supervisor) (id : Nat) : Bool := (s.conns id).any Conn.HasUpward

/-- The connection has a turn on plane 6 in the step. -/
def HasTurn (s : Supervisor) (event : FrontEvent) (id : Nat) : Prop :=
  id ∈ ((s.step event).dataUp.wire.drop s.dataUp.wire.length).map Prod.fst

instance (s : Supervisor) (event : FrontEvent) (id : Nat) : Decidable (s.HasTurn event id) :=
  inferInstanceAs (Decidable (_ ∈ _))

/-- Between two turns of a connection, every other one that was open and waiting all the while has
a turn. -/
def Fair (s : Supervisor) (events : List FrontEvent) : Prop :=
  ∀ before first between second after x y,
    events = before ++ first :: (between ++ second :: after) → x ≠ y →
    (run step s before).HasTurn first x →
    (run step s (before ++ first :: between)).HasTurn second x →
    (∀ part, part <+: between ++ [second] → (run step s (before ++ first :: part)).Waits y = true) →
    ∃ earlier event later, between = earlier ++ event :: later ∧
      (run step s (before ++ first :: earlier)).HasTurn event y

/-- The connection whose handle the event ends, for an event that ends one handle. -/
def ends (s : Supervisor) : FrontEvent → Option Nat
  | .mainControl id .close => (s.live id).map fun _ => id
  | .mainControl id (.refuse []) => (s.live id).map fun _ => id
  | .connRead id bytes (some error) =>
    ((s.live id).filter fun conn =>
      error ≠ .eof ∧ (bytes = [] ∨ (conn.acceptRead bytes).toBool)).map fun _ => id
  | .connWrote id sequence item failed =>
    ((s.live id).filter fun _ => sequence = refusalSequence ∧ ¬item.isFin ∨ failed).map fun _ => id
  | .handshakeExpired id =>
    ((s.live id).filter fun conn =>
      ¬conn.handshakeSeen ∧ s.timeoutRefusalBytes = []).map fun _ => id
  | _ => none

/-- No connection leaves from before the cursor while the one at the cursor waits. -/
def Steady (s : Supervisor) (event : FrontEvent) : Prop :=
  ∀ id ∈ s.ends event, s.upPending.length < controlQueueBound →
    id ∈ s.order.take s.roundRobin → ∀ next ∈ s.order[s.roundRobin]?, s.Waits next = false

instance (s : Supervisor) (event : FrontEvent) : Decidable (s.Steady event) := by
  unfold Steady
  infer_instance

variable {s t u : Supervisor}

/-! ## What can happen to the rotation -/

/-- The cursor stands at a connection, if there are any. -/
def Placed (s : Supervisor) : Prop :=
  s.roundRobin < s.order.length ∨ s.order = [] ∧ s.roundRobin = 0

theorem Placed.within (placed : Placed s) : s.roundRobin ≤ s.order.length := by
  rcases placed with inside | ⟨-, zero⟩
  · exact inside.le
  · omega

structure Keeps (s t : Supervisor) : Prop where
  order : t.order = s.order
  roundRobin : t.roundRobin = s.roundRobin
  nextConnID : t.nextConnID = s.nextConnID
  wire : t.dataUp.wire = s.dataUp.wire
  waits : ∀ id, s.Waits id = true → t.Waits id = true

def Emptied (s : Supervisor) : Prop := s.order = [] ∧ s.roundRobin = 0

structure Leaves (s t : Supervisor) (id : Nat) : Prop where
  room : s.upPending.length < controlQueueBound
  order : t.order = s.order.erase id
  roundRobin : t.roundRobin =
    if (s.order.erase id).length = 0 then 0 else s.roundRobin % (s.order.erase id).length
  nextConnID : t.nextConnID = s.nextConnID
  waits : ∀ other, other ≠ id → s.Waits other = true → t.Waits other = true

inductive Shifts (s : Supervisor) (event : FrontEvent) (t : Supervisor) : Prop
  | kept (keeps : Keeps s t)
  | emptied (emptied : Emptied t)
  | joined (order : t.order = s.order ++ [s.nextConnID]) (roundRobin : t.roundRobin = s.roundRobin)
      (waits : ∀ id, s.Waits id = true → t.Waits id = true)
  | left (id : Nat) (ended : s.ends event = some id) (member : id ∈ s.order)
      (leaves : Leaves s t id)

/-- What follows an event gives at most one turn. -/
inductive Serves (s t : Supervisor) : Prop
  | kept (keeps : Keeps s t)
  | emptied (emptied : Emptied t) (wire : t.dataUp.wire = s.dataUp.wire)
  | turned (front : List Nat) (z : Nat) (behind : List Nat)
      (rotation : s.order.rotate s.roundRobin = front ++ z :: behind)
      (idle : ∀ y ∈ front, s.Waits y = false) (order : t.order = s.order)
      (inside : t.roundRobin < t.order.length)
      (turned : t.order.rotate t.roundRobin = behind ++ (front ++ [z]))
      (nextConnID : t.nextConnID = s.nextConnID) (busy : t.dataUp.busy = true) (sequence : Nat)
      (item : StreamItem UInt8) (wire : t.dataUp.wire = s.dataUp.wire ++ [(z, sequence, item)])

theorem Keeps.refl (s : Supervisor) : Keeps s s := ⟨rfl, rfl, rfl, rfl, fun _ waits => waits⟩

theorem Keeps.trans (first : Keeps s t) (second : Keeps t u) : Keeps s u where
  order := second.order.trans first.order
  roundRobin := second.roundRobin.trans first.roundRobin
  nextConnID := second.nextConnID.trans first.nextConnID
  wire := second.wire.trans first.wire
  waits id waiting := second.waits id (first.waits id waiting)

variable {id : Nat} {conn : Conn}

theorem keeps_setConn (known : s.conns id = some conn) (conn' : Conn)
    (frames : conn.pendingUp <+: conn'.pendingUp) : Keeps s (s.setConn id conn') where
  order := rfl
  roundRobin := rfl
  nextConnID := rfl
  wire := rfl
  waits other waiting := by
    by_cases same : other = id
    · subst same
      obtain ⟨more, longer⟩ := frames
      have nonempty : conn.HasUpward = true := by simpa [Waits, known] using waiting
      have still : conn'.HasUpward = true := by
        unfold Conn.HasUpward at nonempty ⊢
        rw [← longer]
        cases waiting : conn.pendingUp with
        | nil => simp [waiting] at nonempty
        | cons item rest => rfl
      simpa [Waits, setConn] using still
    · simpa [Waits, setConn, same] using waiting

theorem mem_order_of_waits (tabled : Tabled s) (waits : s.Waits id = true) : id ∈ s.order := by
  rw [tabled.listed]
  cases known : s.conns id with
  | none => simp [Waits, known] at waits
  | some conn => rfl

/-! ## Closing -/

theorem collapse_emptied (s : Supervisor) : Emptied s.collapse := ⟨rfl, rfl⟩

theorem queueUp_keeps (s : Supervisor) (connection : Nat) (payload : ControlUp) :
    Keeps s (s.queueUp connection payload) ∨ Emptied (s.queueUp connection payload) := by
  unfold queueUp
  split
  · exact .inl ⟨rfl, rfl, rfl, rfl, fun _ waits => waits⟩
  · split
    · exact .inr (collapse_emptied s)
    · exact .inl ⟨rfl, rfl, rfl, rfl, fun _ waits => waits⟩

theorem queueUp_placed (placed : Placed s) (connection : Nat) (payload : ControlUp) :
    Placed (s.queueUp connection payload) := by
  rcases queueUp_keeps s connection payload with keeps | emptied
  · unfold Placed
    rw [keeps.order, keeps.roundRobin]
    exact placed
  · exact .inr emptied

theorem forget_placed (s : Supervisor) (id : Nat) : Placed (s.forget id) := by
  unfold Placed forget
  dsimp only
  by_cases empty : (s.order.erase id).length = 0
  · exact .inr ⟨List.length_eq_zero_iff.mp empty, if_pos empty⟩
  · rw [if_neg empty]
    exact .inl (Nat.mod_lt _ (Nat.pos_of_ne_zero empty))

theorem closeConn_placed (placed : Placed s) (conn : Conn) (reason : PeerClosedReason) :
    Placed (s.closeConn conn reason) := by
  unfold closeConn
  split
  · exact placed
  · exact forget_placed _ _

theorem closeEach_placed (reason : PeerClosedReason) (ids : List Nat) (placed : Placed s) :
    Placed (closeEach reason ids s).1 := by
  induction ids generalizing s with
  | nil => exact placed
  | cons id rest ih =>
    rw [closeEach]
    split
    · exact ih placed
    · rename_i conn _
      exact ih (closeConn_placed placed conn reason)

theorem emptied_of_gone (tabled : Tabled s) (placed : Placed s) (gone : ∀ id, s.conns id = none) :
    Emptied s := by
  have empty : s.order = [] := by
    refine List.eq_nil_iff_forall_not_mem.mpr fun id member => ?_
    have there := (tabled.listed id).mp member
    rw [gone id] at there
    cases there
  rcases placed with inside | nothing
  · rw [empty] at inside
    cases inside
  · exact nothing

theorem closeAll_emptied (tabled : Tabled s) (placed : Placed s) (reason : PeerClosedReason) :
    Emptied (s.closeAll reason).1 := by
  obtain ⟨-, tabled', gone⟩ := closeAll_spec tabled reason
  exact emptied_of_gone tabled' (closeEach_placed reason s.order placed) gone

theorem Emptied.queueUp (emptied : Emptied s) (connection : Nat) (payload : ControlUp) :
    Emptied (s.queueUp connection payload) := by
  rcases queueUp_keeps s connection payload with keeps | emptied'
  · exact ⟨keeps.order.trans emptied.1, keeps.roundRobin.trans emptied.2⟩
  · exact emptied'

theorem fail_emptied (tabled : Tabled s) (placed : Placed s) (running : s.terminal = false)
    (code : ErrorCode) (failure : Failure) : Emptied (s.fail code failure) := by
  unfold fail
  rw [if_neg (by simp [running])]
  exact closeAll_emptied (queueUp_tabled tabled _ _) (queueUp_placed placed _ _) .commandedClose

theorem failFlow_emptied (tabled : Tabled s) (placed : Placed s) (running : s.terminal = false)
    (error : FlowError) : Emptied (s.failFlow error) := by
  cases error with
  | violation name | dataAfterEnd | internalInvariant =>
    exact fail_emptied tabled placed running _ _

theorem finish_emptied (tabled : Tabled s) (placed : Placed s) (running : s.terminal = false) :
    Emptied s.finish := by
  unfold finish
  rw [if_neg (by simp [running])]
  exact closeAll_emptied tabled placed .commandedClose

theorem completeQuit_emptied (tabled : Tabled s) (placed : Placed s) : Emptied s.completeQuit :=
  (closeAll_emptied tabled placed .commandedClose).queueUp 0 .quitAck

theorem noteEpoch_placed (placed : Placed s) : Placed s.noteEpoch := by
  unfold noteEpoch
  split
  · exact queueUp_placed (s := { s with epochExhaustionLogged := true }) placed _ _
  · exact placed

theorem handleLock_emptied (tabled : Tabled s) (placed : Placed s) (admissionEpoch : Nat) :
    Emptied (s.handleLock admissionEpoch) := by
  have noted := noteEpoch_spec
    (tabled.congr (t := { s with epoch := admissionEpoch }) rfl rfl rfl rfl)
  have placed' := noteEpoch_placed (s := { s with epoch := admissionEpoch }) placed
  exact (closeAll_emptied noted.2 placed' .commandedClose).queueUp _ _

theorem closeConn_leaves (unclosed : conn.state ≠ .closed) (reason : PeerClosedReason) :
    Emptied (s.closeConn conn reason) ∨ Leaves s (s.closeConn conn reason) conn.id := by
  unfold closeConn
  rw [if_neg unclosed]
  dsimp only
  have fresh := coalesce_none conn.id (.peerClosed reason conn.throughDataSeq) (fun _ => rfl)
    ((s.setConn conn.id conn.markClosed).record (.closed conn.id)).upPending
  unfold queueUp
  rw [fresh]
  dsimp only
  split
  · exact .inl ⟨rfl, rfl⟩
  · rename_i room
    refine .inr ⟨Nat.lt_of_not_le room, rfl, rfl, rfl, fun other different waiting => ?_⟩
    simpa [Waits, forget, setConn, record, different] using waiting

/-! ## Events -/

theorem Leaves.of_setConn (leaves : Leaves (s.setConn id conn) t id) : Leaves s t id where
  room := leaves.room
  order := leaves.order
  roundRobin := leaves.roundRobin
  nextConnID := leaves.nextConnID
  waits other different waiting :=
    leaves.waits other different (by simpa [Waits, setConn, different] using waiting)

variable {event : FrontEvent}

theorem shifts_close (member : id ∈ s.order) (ended : s.ends event = some id) (named : conn.id = id)
    (unclosed : conn.state ≠ .closed) (reason : PeerClosedReason)
    (same : ∀ v, Leaves t v id → Leaves s v id) : Shifts s event (t.closeConn conn reason) := by
  rcases closeConn_leaves (s := t) unclosed reason with emptied | leaves
  · exact .emptied emptied
  · rw [named] at leaves
    exact .left id ended member (same _ leaves)

theorem refuseWith_shifts (tabled : Tabled s) (known : s.conns id = some conn) (bytes : List UInt8)
    (ended : bytes = [] → s.ends event = some id) :
    Shifts s event (s.refuseWith id conn bytes) := by
  unfold refuseWith
  dsimp only
  split
  · rename_i empty
    exact shifts_close ((tabled.listed id).mpr (by simp [known])) (ended empty)
      (show conn.refuse.id = id from tabled.named id conn known) (by simp [Conn.refuse]) _
      fun _ => Leaves.of_setConn
  · have changed : Keeps s (s.setConn id conn.refuse) :=
      keeps_setConn known conn.refuse (List.prefix_refl _)
    exact .kept ⟨changed.order, changed.roundRobin, changed.nextConnID, changed.wire, changed.waits⟩

variable {conn' : Conn} {bytes : List UInt8}

theorem acceptRead_frames {completed : Bool}
    (accepted : conn.acceptRead bytes = .ok (completed, conn')) :
    conn.pendingUp <+: conn'.pendingUp ∧ conn'.id = conn.id ∧ conn'.state = conn.state := by
  obtain ⟨_, _, rfl⟩ := Conn.acceptRead_spec accepted
  exact ⟨List.prefix_append _ _, rfl, rfl⟩

theorem peerEnded_frames (ended : conn.peerEnded = .ok conn') :
    conn.pendingUp <+: conn'.pendingUp := by
  obtain rfl := Conn.peerEnded_spec ended
  exact List.prefix_append _ _

theorem handleReadError_shifts (placed : Placed u) (running : u.terminal = false)
    (tabled : Tabled u) (keeps : Keeps s u) (pending : u.upPending = s.upPending)
    (known' : u.conns id = some conn')
    (others : ∀ other, other ≠ id → u.conns other = s.conns other) (failed : Option ReadError)
    (ended : ∀ error, error ≠ ReadError.eof → s.ends (.connRead id bytes (some error)) = some id) :
    Shifts s (.connRead id bytes failed) (u.handleReadError id conn' failed) := by
  have member : id ∈ s.order := by
    rw [← keeps.order, tabled.listed, known']
    rfl
  have closing : ∀ error, error ≠ ReadError.eof → Shifts s (.connRead id bytes (some error))
      (u.closeConn conn' (readFailureReason error)) := by
    intro error notEof
    refine shifts_close member (ended error notEof) (tabled.named id conn' known')
      (tabled.unclosed id conn' known') _ fun v leaves => ⟨?_, ?_, ?_, ?_, ?_⟩
    · exact pending ▸ leaves.room
    · rw [leaves.order, keeps.order]
    · rw [leaves.roundRobin, keeps.order, keeps.roundRobin]
    · exact leaves.nextConnID.trans keeps.nextConnID
    · intro other different waiting
      refine leaves.waits other different ?_
      unfold Waits at waiting ⊢
      rwa [others other different]
  cases failed with
  | none => exact .kept keeps
  | some error =>
    cases error with
    | eof =>
      unfold handleReadError
      dsimp only
      cases ended : conn'.peerEnded with
      | error error => exact .emptied (failFlow_emptied tabled placed running error)
      | ok conn'' =>
        exact .kept (keeps.trans (keeps_setConn known' conn'' (peerEnded_frames ended)))
    | peerGone => exact closing .peerGone (by decide)
    | other => exact closing .other (by decide)

section
variable (tabled : Tabled s)
include tabled

theorem handleConnRead_shifts (placed : Placed s) (running : s.terminal = false) (id : Nat)
    (bytes : List UInt8) (failed : Option ReadError) :
    Shifts s (.connRead id bytes failed) (s.handleConnRead id bytes failed) := by
  have tabled' : Tabled (s.readDone id) := tabled.congr rfl rfl rfl rfl
  have found : (s.readDone id).live id = s.conns id := tabled'.live id
  unfold readDone at found
  unfold handleConnRead
  dsimp only
  rw [found]
  cases known : s.conns id with
  | none => exact .kept ⟨rfl, rfl, rfl, rfl, fun _ waits => waits⟩
  | some conn =>
    dsimp only
    split
    · cases accepted : conn.acceptRead bytes with
      | error error => exact .emptied (failFlow_emptied tabled' placed running error)
      | ok pair =>
        obtain ⟨completed, conn'⟩ := pair
        obtain ⟨frames, named, state⟩ := acceptRead_frames accepted
        have unclosed : conn'.state ≠ .closed := state ▸ tabled.unclosed id conn known
        have keeps := keeps_setConn known conn' frames
        refine handleReadError_shifts (s := s)
          (u := ((s.readDone id).setConn id conn').record (.bytesRead id bytes))
          placed running ?_ ?_ rfl ?_ ?_ failed ?_
        · exact (setConn_tabled tabled known conn' named unclosed).congr rfl rfl rfl rfl
        · exact ⟨rfl, rfl, rfl, rfl, keeps.waits⟩
        · simp [setConn, record]
        · intro other different
          simp [setConn, record, readDone, different]
        · intro error notEof
          have fine : (conn.acceptRead bytes).toBool = true := by rw [accepted]; rfl
          simp [ends, tabled.live id, known, notEof, fine]
    · rename_i nothing
      have empty : bytes = [] := List.eq_nil_of_length_eq_zero (by omega)
      have keeps := keeps_setConn known conn.readFailed (List.prefix_refl _)
      refine handleReadError_shifts (s := s) (u := (s.readDone id).setConn id conn.readFailed)
        placed running ?_ ?_ rfl ?_ ?_ failed ?_
      · exact (setConn_tabled tabled known conn.readFailed rfl
          (tabled.unclosed id conn known)).congr rfl rfl rfl rfl
      · exact ⟨rfl, rfl, rfl, rfl, keeps.waits⟩
      · simp [setConn]
      · intro other different
        simp [setConn, readDone, different]
      · intro error notEof
        simp [ends, tabled.live id, known, notEof, empty]

theorem handleConnWrote_shifts (placed : Placed s) (running : s.terminal = false)
    (id sequence : Nat) (item : StreamItem UInt8) (failed : Bool) :
    Shifts s (.connWrote id sequence item failed) (s.handleConnWrote id sequence item failed) := by
  have tabled' : Tabled (s.writeDone id (sequence, item)) := tabled.congr rfl rfl rfl rfl
  have done_ : Keeps s (s.writeDone id (sequence, item)) :=
    ⟨rfl, rfl, rfl, rfl, fun _ waits => waits⟩
  have found : (s.writeDone id (sequence, item)).live id = s.conns id := tabled'.live id
  unfold writeDone at found
  unfold handleConnWrote
  dsimp only
  rw [found]
  cases known : s.conns id with
  | none => exact .kept done_
  | some conn =>
    have member : id ∈ s.order := (tabled.listed id).mpr (by simp [known])
    have named := tabled.named id conn known
    have unclosed := tabled.unclosed id conn known
    dsimp only
    split
    · rename_i refusal
      refine shifts_close member ?_ named unclosed _ fun v leaves =>
        ⟨leaves.room, leaves.order, leaves.roundRobin, leaves.nextConnID, leaves.waits⟩
      simp [ends, tabled.live id, known, refusal]
    · rename_i chunk
      split
      · rename_i broken
        refine shifts_close member ?_ (t := (s.writeDone id (sequence, item)).setConn id
          conn.writeFailed) named unclosed _ fun v leaves => ?_
        · simp [ends, tabled.live id, known, broken]
        · have other : Leaves (s.setConn id conn.writeFailed) v id :=
            ⟨leaves.room, leaves.order, leaves.roundRobin, leaves.nextConnID, leaves.waits⟩
          exact other.of_setConn
      · have wrote : Keeps s ((s.writeDone id (sequence, item)).record (.wrote id sequence item)) :=
          ⟨rfl, rfl, rfl, rfl, fun _ waits => waits⟩
        have known' : ((s.writeDone id (sequence, item)).record (.wrote id sequence item)).conns id =
            some conn := known
        split
        · exact .kept (wrote.trans (keeps_setConn known' conn.endCompleted (List.prefix_refl _)))
        · cases completed : conn.writeCompleted sequence with
          | error error => exact .emptied (failFlow_emptied tabled' placed running error)
          | ok pair =>
            obtain ⟨ackThrough, conn'⟩ := pair
            have frames : conn.pendingUp <+: conn'.pendingUp := by
              obtain ⟨_, rfl⟩ := Conn.writeCompleted_spec completed
              exact List.prefix_refl _
            have changed := wrote.trans (keeps_setConn known' conn' frames)
            dsimp only
            rcases queueUp_keeps (((s.writeDone id (sequence, item)).record
              (.wrote id sequence item)).setConn id conn') id (.writeDone ackThrough) with
              keeps | emptied
            · exact .kept (changed.trans keeps)
            · exact .emptied emptied

theorem handleDown_shifts (placed : Placed s) (running : s.terminal = false) (id sequence : Nat)
    (item : StreamItem UInt8) :
    Shifts s (.mainData id sequence item) (s.handleDown id sequence item) := by
  unfold handleDown
  rw [tabled.live id]
  cases known : s.conns id with
  | none => exact .kept (.refl s)
  | some conn =>
    have kept : ∀ conn' : Conn, conn'.pendingUp = conn.pendingUp →
        Shifts s (.mainData id sequence item) (s.setConn id conn') := fun conn' same =>
      .kept (keeps_setConn known conn' (same ▸ List.prefix_refl _))
    cases item with
    | chunk payload =>
      dsimp only
      cases queued : conn.queueDown sequence payload with
      | error error => exact .emptied (failFlow_emptied tabled placed running error)
      | ok conn' =>
        refine kept conn' ?_
        obtain ⟨_, rfl⟩ := Conn.queueDown_spec queued
        rfl
    | fin =>
      dsimp only
      cases queued : conn.queueDownEnd sequence with
      | error error => exact .emptied (failFlow_emptied tabled placed running error)
      | ok conn' =>
        refine kept conn' ?_
        obtain rfl := Conn.queueDownEnd_spec queued
        rfl

theorem handleControl_shifts (placed : Placed s) (running : s.terminal = false) (connection : Nat)
    (payload : ControlDown) :
    Shifts s (.mainControl connection payload) (s.handleControl connection payload) := by
  have changed {conn : Conn} (known : s.live connection = some conn) (conn' : Conn)
      (same : conn'.pendingUp = conn.pendingUp) :
      Shifts s (.mainControl connection payload) (s.setConn connection conn') := by
    rw [tabled.live connection] at known
    exact .kept (keeps_setConn known conn' (same ▸ List.prefix_refl _))
  cases payload with
  | hello => exact .emptied (fail_emptied tabled placed running _ _)
  | admission admissionEpoch =>
    change Shifts s _ (s.handleAdmit connection admissionEpoch)
    unfold handleAdmit
    split
    · exact .kept (.refl s)
    · split
      · exact .kept (.refl s)
      · refine changed ‹_› _ ?_
        unfold Conn.admit_
        split <;> rfl
  | refuse bytes =>
    change Shifts s _ (s.handleRefuse connection bytes)
    unfold handleRefuse
    rw [tabled.live connection]
    cases known : s.conns connection with
    | none => exact .kept (.refl s)
    | some conn =>
      refine refuseWith_shifts tabled known bytes ?_
      rintro rfl
      simp [ends, tabled.live connection, known]
  | credit bytes =>
    change Shifts s _ (s.handleCredit connection bytes)
    unfold handleCredit
    rw [tabled.live connection]
    cases known : s.conns connection with
    | none => exact .kept (.refl s)
    | some conn =>
      dsimp only
      cases granted : conn.grantCredit bytes with
      | error error => exact .emptied (failFlow_emptied tabled placed running error)
      | ok conn' =>
        refine .kept (keeps_setConn known conn' ?_)
        obtain ⟨_, rfl⟩ := Conn.grantCredit_spec granted
        exact List.prefix_refl _
  | pause | resume =>
    rw [handleControl]
    split
    · exact .kept (.refl s)
    · rename_i known
      exact changed known _ rfl
  | close =>
    rw [handleControl, tabled.live connection]
    cases known : s.conns connection with
    | none => exact .kept (.refl s)
    | some conn =>
      refine shifts_close ((tabled.listed connection).mpr (by simp [known])) ?_
        (tabled.named connection conn known) (tabled.unclosed connection conn known) _
        fun _ leaves => leaves
      simp [ends, tabled.live connection, known]
  | lock admissionEpoch => exact .emptied (handleLock_emptied tabled placed admissionEpoch)
  | quit deadlineMs =>
    change Shifts s _ s.handleQuit
    unfold handleQuit
    split
    · exact .kept (.refl s)
    · exact .kept ⟨rfl, rfl, rfl, rfl, fun _ waits => waits⟩
  | ping nonce =>
    rcases queueUp_keeps s 0 (.pong nonce) with keeps | emptied
    · exact .kept keeps
    · exact .emptied emptied

theorem handleAccepted_shifts (placed : Placed s) (running : s.terminal = false) (halfCloses : Bool)
    :
    Shifts s (.accepted halfCloses) (s.handleAccepted halfCloses) := by
  unfold handleAccepted
  split
  · exact .emptied (fail_emptied tabled placed running _ _)
  · split
    · exact .emptied (fail_emptied tabled placed running _ _)
    · dsimp only
      rcases queueUp_keeps ({ s with
          nextConnID := s.nextConnID + 1
          order := s.order ++ [s.nextConnID] }.setConn s.nextConnID
            (Conn.new s.nextConnID).openSent) s.nextConnID .open with keeps | emptied
      · refine .joined keeps.order keeps.roundRobin fun id waiting => keeps.waits id ?_
        have old : id ≠ s.nextConnID := by
          rintro rfl
          have known := tabled.new (Nat.le_refl s.nextConnID)
          simp [Waits, known] at waiting
        simpa [Waits, setConn, old] using waiting
      · exact .emptied emptied

theorem handle_shifts (placed : Placed s) (running : s.terminal = false) (event : FrontEvent) :
    Shifts s event (s.handle event) := by
  have written : ∀ (v : Supervisor) (failed : Bool), Keeps s v → Tabled v → v.terminal = false →
      Shifts s event (if failed then v.fail .planeWriteFailed .planeWriteFailed else v) := by
    intro v failed keeps tabled' running'
    have placed' : Placed v := by
      unfold Placed
      rw [keeps.order, keeps.roundRobin]
      exact placed
    cases failed with
    | true => exact .emptied (fail_emptied tabled' placed' running' _ _)
    | false => exact .kept keeps
  cases event with
  | mainControl connection payload => exact handleControl_shifts tabled placed running connection payload
  | mainData connection sequence item =>
    exact handleDown_shifts tabled placed running connection sequence item
  | mainMalformed | planeReadFailed => exact .emptied (fail_emptied tabled placed running _ _)
  | planeEOF | parentGone => exact .emptied (finish_emptied tabled placed running)
  | controlWritten failed =>
    exact written { s with controlUp := { s.controlUp with busy := false } } failed
      ⟨rfl, rfl, rfl, rfl, fun _ waits => waits⟩ (tabled.congr rfl rfl rfl rfl) running
  | dataWritten failed =>
    exact written { s with dataUp := { s.dataUp with busy := false } } failed
      ⟨rfl, rfl, rfl, rfl, fun _ waits => waits⟩ (tabled.congr rfl rfl rfl rfl) running
  | accepted halfCloses => exact handleAccepted_shifts tabled placed running halfCloses
  | acceptOverflow => exact .kept (.refl s)
  | acceptFailed => exact .kept (.refl s)
  | connRead id bytes failed => exact handleConnRead_shifts tabled placed running id bytes failed
  | connWrote id sequence item failed =>
    exact handleConnWrote_shifts tabled placed running id sequence item failed
  | handshakeExpired id =>
    change Shifts s _ (s.handleHandshakeExpired id)
    unfold handleHandshakeExpired
    rw [tabled.live id]
    cases known : s.conns id with
    | none => exact .kept (.refl s)
    | some conn =>
      dsimp only
      split
      · exact .kept (.refl s)
      · rename_i unseen
        refine refuseWith_shifts tabled known _ fun empty => ?_
        simp [ends, tabled.live id, known, empty, unseen]
  | quitExpired => exact .emptied (completeQuit_emptied tabled placed)

end

/-! ## What follows an event -/

@[simp] theorem queueUp_dataUp (s : Supervisor) (connection : Nat) (payload : ControlUp) :
    (s.queueUp connection payload).dataUp = s.dataUp := by
  unfold queueUp
  split
  · rfl
  · split <;> rfl

theorem Handled.wire (handled : Handled s event t) : t.dataUp.wire = s.dataUp.wire := by
  have took : ∀ {id bytes conn v}, ReadTaken s id bytes conn v → v.dataUp.wire = s.dataUp.wire := by
    intro id bytes conn v taken
    cases taken <;> rfl
  cases handled with
  | closes _ _ closes tabled => exact closes.wire
  | violated _ _ v _ breaks closes tabled =>
    refine closes.wire.trans ?_
    cases breaks with
    | eof id bytes conn _ _ taken refused => exact (took taken :)
    | _ => rfl
  | accepted => simp [registered, setConn]
  | dismissed _ _ _ _ _ closes tabled gone => exact closes.wire
  | locked _ _ _ closes gone tabled => exact closes.wire
  | read _ _ _ _ taken => exact took taken
  | readEnd _ _ _ _ _ taken ended => exact (took taken :)
  | readFailed _ _ _ _ _ _ taken closes tabled gone => exact closes.wire.trans (took taken)
  | wroteLast _ _ _ _ _ _ _ closes tabled gone => exact closes.wire
  | wrote id sequence bytes conn conn' ackThrough known chunk completed =>
    simp [setConn, record, writeDone]
  | _ => rfl

theorem pumpRead_keeps (tabled : Tabled s) (id : Nat) : Keeps s (s.pumpRead id) := by
  unfold pumpRead
  rw [tabled.live id]
  cases known : s.conns id with
  | none => exact .refl s
  | some conn =>
    dsimp only
    split
    · exact .refl s
    · have keeps := keeps_setConn known conn.readIssued (List.prefix_refl _)
      exact ⟨rfl, rfl, rfl, rfl, keeps.waits⟩

theorem pumpWrite_keeps (tabled : Tabled s) (id : Nat) : Keeps s (s.pumpWrite id) := by
  unfold pumpWrite
  rw [tabled.live id]
  cases known : s.conns id with
  | none => exact .refl s
  | some conn =>
    dsimp only
    cases next : conn.nextDown with
    | none => exact .refl s
    | some found =>
      obtain ⟨item, conn'⟩ := found
      obtain ⟨rest, -, -, rfl⟩ := nextDown_kept next
      have keeps := keeps_setConn known
        { conn with pendingDown := rest, writeInFlight := true } (List.prefix_refl _)
      exact ⟨rfl, rfl, rfl, rfl, keeps.waits⟩

theorem pumpConnIO_keeps (tabled : Tabled s) : Keeps s s.pumpConnIO ∧ Tabled s.pumpConnIO := by
  unfold pumpConnIO
  generalize s.order = ids
  induction ids generalizing s with
  | nil => exact ⟨.refl s, tabled⟩
  | cons id rest ih =>
    rw [List.foldl_cons]
    have tabled' := (pumpRead_pumps tabled id).tabled tabled
    have tabled'' := (pumpWrite_pumps tabled' id).tabled tabled'
    obtain ⟨keeps, last⟩ := ih tabled''
    exact ⟨((pumpRead_keeps tabled id).trans (pumpWrite_keeps tabled' id)).trans keeps, last⟩

theorem pumpControlUp_keeps (s : Supervisor) : Keeps s s.pumpControlUp := by
  unfold pumpControlUp
  split
  · exact .refl s
  · split
    · exact .refl s
    · exact ⟨rfl, rfl, rfl, rfl, fun _ waits => waits⟩

theorem nextTurn_eq (s : Supervisor) : s.nextTurn =
    ((List.range s.order.length).map fun i => (s.roundRobin + i) % s.order.length).find?
      fun index => s.order[index]?.any s.Waits := by
  unfold nextTurn
  congr 1
  funext index
  cases s.order[index]? <;> rfl

theorem pumpDataUp_serves (tabled : Tabled s) : Serves s s.pumpDataUp := by
  unfold pumpDataUp
  split
  · exact .kept (.refl s)
  · split
    · exact .kept (.refl s)
    · rename_i index found
      rw [nextTurn_eq] at found
      obtain ⟨front, z, behind, rotation, listed, waits, idle, turned⟩ := rotate_turn
        (l := s.order) (n := s.roundRobin) (p := s.Waits) found
      have inside : index < s.order.length := (List.getElem?_eq_some_iff.mp listed).1
      rw [listed]
      dsimp only
      cases known : s.conns z with
      | none => simp [Waits, known] at waits
      | some conn =>
        cases frames : conn.pendingUp with
        | nil => simp [Waits, known, Conn.HasUpward, frames] at waits
        | cons item rest =>
          have took : conn.takeUpward s.dataUp.sequence = .ok (item, { conn with
              pendingUp := rest
              throughDataSeq := s.dataUp.sequence }) := by
            unfold Conn.takeUpward
            rw [frames]
          obtain rfl := tabled.named z conn known
          dsimp only
          rw [took]
          refine .turned front conn.id behind rotation idle rfl ?_ ?_ rfl rfl s.dataUp.sequence item rfl
          · exact Nat.mod_lt _ (Nat.zero_lt_of_lt inside)
          · exact (List.rotate_mod s.order (index + 1)).trans turned

theorem maybeFinishQuit_serves (tabled : Tabled s) (placed : Placed s) :
    s.maybeFinishQuit = s ∨ s.dataUp.busy = false ∧ Emptied s.maybeFinishQuit ∧
      s.maybeFinishQuit.dataUp.wire = s.dataUp.wire := by
  unfold maybeFinishQuit
  split
  · rename_i drained
    obtain ⟨closes, -⟩ := completeQuit_spec tabled
    exact .inr ⟨by simpa using drained.2.2.2.1, completeQuit_emptied tabled placed, closes.wire⟩
  · exact .inl rfl

theorem Placed.keeps (placed : Placed s) (keeps : Keeps s t) : Placed t := by
  unfold Placed
  rw [keeps.order, keeps.roundRobin]
  exact placed

theorem Serves.after (keeps : Keeps s t) (serves : Serves t u) : Serves s u := by
  cases serves with
  | kept rest => exact .kept (keeps.trans rest)
  | emptied emptied wire => exact .emptied emptied (wire.trans keeps.wire)
  | turned front z behind rotation idle order inside turned nextConnID busy sequence item wire =>
    refine .turned front z behind (by rw [← rotation, keeps.order, keeps.roundRobin])
      (fun y member => ?_) (order.trans keeps.order) inside turned
      (nextConnID.trans keeps.nextConnID) busy sequence item (by rw [wire, keeps.wire])
    cases waits : s.Waits y with
    | false => rfl
    | true =>
      have still := keeps.waits y waits
      rw [idle y member] at still
      cases still

theorem Serves.placed (placed : Placed s) (serves : Serves s t) : Placed t := by
  cases serves with
  | kept keeps => exact placed.keeps keeps
  | emptied emptied wire => exact .inr emptied
  | turned front z behind rotation idle order inside => exact .inl inside

theorem pump_serves (tabled : Tabled s) (placed : Placed s) : Serves s s.pump := by
  obtain ⟨keeps, tabled'⟩ := pumpConnIO_keeps tabled
  obtain ⟨-, tabled''⟩ := pumpControlUp_spec tabled'
  have handed := keeps.trans (pumpControlUp_keeps s.pumpConnIO)
  have serves := (pumpDataUp_serves tabled'').after handed
  have tabled''' := (pumpDataUp_pumps tabled'').tabled tabled''
  rcases maybeFinishQuit_serves tabled''' (serves.placed placed) with same | ⟨idle, emptied, wire⟩
  · unfold pump
    rw [same]
    exact serves
  · cases serves with
    | kept rest => exact .emptied emptied (wire.trans rest.wire)
    | emptied _ rest => exact .emptied emptied (wire.trans rest)
    | turned front z behind rotation last order inside turned nextConnID busy =>
      rw [idle] at busy
      cases busy

theorem Serves.trans_keeps (serves : Serves s t) (keeps : Keeps t u)
    (busy : u.dataUp.busy = t.dataUp.busy) : Serves s u := by
  cases serves with
  | kept rest => exact .kept (rest.trans keeps)
  | emptied emptied wire =>
    exact .emptied ⟨keeps.order.trans emptied.1, keeps.roundRobin.trans emptied.2⟩
      (keeps.wire.trans wire)
  | turned front z behind rotation idle order inside turned nextConnID busy' sequence item wire =>
    exact .turned front z behind rotation idle (keeps.order.trans order)
      (by rw [keeps.order, keeps.roundRobin]; exact inside)
      (by rw [keeps.order, keeps.roundRobin]; exact turned)
      (keeps.nextConnID.trans nextConnID) (busy.trans busy') sequence item
      (keeps.wire.trans wire)

theorem pumpControlUp_dataUp (s : Supervisor) : s.pumpControlUp.dataUp = s.dataUp := by
  unfold pumpControlUp
  split
  · rfl
  · split <;> rfl

theorem Shifts.placed (placed : Placed s) (shifts : Shifts s event t) : Placed t := by
  cases shifts with
  | kept keeps => exact placed.keeps keeps
  | emptied emptied => exact .inr emptied
  | joined order roundRobin waits =>
    refine .inl ?_
    rw [order, roundRobin, List.length_append]
    exact Nat.lt_succ_of_le placed.within
  | left id ended member leaves =>
    unfold Placed
    rw [leaves.roundRobin, leaves.order]
    by_cases empty : (s.order.erase id).length = 0
    · exact .inr ⟨List.length_eq_zero_iff.mp empty, if_pos empty⟩
    · rw [if_neg empty]
      exact .inl (Nat.mod_lt _ (Nat.pos_of_ne_zero empty))

theorem step_serves (tabled : Tabled s) (placed : Placed s) (event : FrontEvent) :
    ∃ u, Shifts s event u ∧ u.dataUp.wire = s.dataUp.wire ∧ Tabled u ∧ Serves u (s.step event) := by
  unfold step
  cases done_ : s.terminal with
  | true =>
    rw [if_pos rfl]
    refine ⟨s, .kept (.refl s), rfl, tabled, .kept ?_⟩
    unfold flushControlUp
    split
    · have idle : Keeps s { s with controlUp := { s.controlUp with busy := false } } :=
        ⟨rfl, rfl, rfl, rfl, fun _ waits => waits⟩
      exact idle.trans (pumpControlUp_keeps _)
    · exact .refl s
  | false =>
    have handled := handle_handled tabled done_ event
    have shifts := handle_shifts tabled placed done_ event
    have tabled' := handled.tabled tabled done_
    rw [if_neg (by decide)]
    refine ⟨s.handle event, shifts, handled.wire, tabled', ?_⟩
    dsimp only
    split
    · exact .kept (pumpControlUp_keeps _)
    · have serves := pump_serves tabled' (shifts.placed placed)
      split
      · exact serves.trans_keeps (pumpControlUp_keeps _)
          (congrArg DataWriter.busy (pumpControlUp_dataUp _))
      · exact serves

theorem step_placed (tabled : Tabled s) (placed : Placed s) (event : FrontEvent) :
    Placed (s.step event) := by
  obtain ⟨u, shifts, -, -, serves⟩ := step_serves tabled placed event
  exact serves.placed (shifts.placed placed)

/-! ## Who is ahead of whom -/

def rotation (s : Supervisor) : List Nat := s.order.rotate s.roundRobin

theorem mem_rotation : id ∈ s.rotation ↔ id ∈ s.order := List.mem_rotate

theorem Keeps.rotation (keeps : Keeps s t) : t.rotation = s.rotation := by
  unfold Supervisor.rotation
  rw [keeps.order, keeps.roundRobin]

theorem not_hasTurn (wire : (s.step event).dataUp.wire = s.dataUp.wire) : ¬s.HasTurn event id := by
  unfold HasTurn
  rw [wire, List.drop_length]
  exact List.not_mem_nil

theorem hasTurn_iff {z sequence : Nat} {item : StreamItem UInt8}
    (wire : (s.step event).dataUp.wire = s.dataUp.wire ++ [(z, sequence, item)]) :
    s.HasTurn event id ↔ id = z := by
  unfold HasTurn
  rw [wire, List.drop_append_length]
  simp

variable {x : Nat}

section
variable (tabled : Tabled s)
include tabled

section
variable (placed : Placed s)
include placed

theorem ahead_of_turn {y : Nat} (different : x ≠ y) (turn : s.HasTurn event x)
    (waits : (s.step event).Waits y = true) : Ahead y x (s.step event).rotation := by
  obtain ⟨u, shifts, wire, tabled', serves⟩ := step_serves tabled placed event
  have member := mem_order_of_waits (step_tabled tabled event) waits
  cases serves with
  | kept keeps => exact absurd turn (not_hasTurn (keeps.wire.trans wire))
  | emptied emptied same => exact absurd turn (not_hasTurn (same.trans wire))
  | turned front z behind rotation idle order inside turned nextConnID busy sequence item same =>
    obtain rfl : x = z := (hasTurn_iff (same.trans (by rw [wire]))).mp turn
    have listed : y ∈ (s.step event).rotation := mem_rotation.mpr member
    unfold Supervisor.rotation at listed ⊢
    rw [turned, ← List.append_assoc] at listed ⊢
    refine ahead_last ?_
    simpa [different.symm] using listed

theorem Shifts.ahead (steady : s.Steady event) (shifts : Shifts s event u) {y : Nat}
    (ahead : Ahead y x s.rotation) (waits : s.Waits y = true) (listed : y ∈ u.order) :
    u.Waits y = true ∧ (Ahead y x u.rotation ∨ x ∉ u.order ∧ u.nextConnID = s.nextConnID) := by
  cases shifts with
  | kept keeps => exact ⟨keeps.waits y waits, .inl (keeps.rotation ▸ ahead)⟩
  | emptied emptied =>
    rw [emptied.1] at listed
    cases listed
  | joined order roundRobin still =>
    refine ⟨still y waits, .inl ?_⟩
    unfold Supervisor.rotation
    rw [order, roundRobin]
    exact ahead.join placed.within _
  | left id ended member leaves =>
    rw [leaves.order] at listed
    have notFirst : y ≠ id := (tabled.nodup.mem_erase_iff.mp listed).1
    refine ⟨leaves.waits y notFirst waits, ?_⟩
    by_cases notSecond : x = id
    · refine .inr ⟨?_, leaves.nextConnID⟩
      rw [leaves.order, notSecond]
      exact tabled.nodup.not_mem_erase
    · refine .inl ?_
      have inside : s.roundRobin < s.order.length :=
        placed.resolve_right fun empty => by simp [empty.1] at member
      have kept : id ∈ s.order.take s.roundRobin → s.order[s.roundRobin]? ≠ some y := by
        intro before cursor
        have idle := steady id ended leaves.room before y cursor
        rw [waits] at idle
        cases idle
      have nonempty : (s.order.erase id).length ≠ 0 :=
        Nat.ne_of_gt (List.length_pos_of_mem listed)
      unfold Supervisor.rotation
      rw [leaves.order, leaves.roundRobin, if_neg nonempty]
      exact Ahead.leave ahead tabled.nodup inside member notFirst notSecond kept

theorem ahead_step (steady : s.Steady event) {y : Nat} (ahead : Ahead y x s.rotation)
    (waits : s.Waits y = true) (still : (s.step event).Waits y = true)
    (unserved : ¬s.HasTurn event y) :
    ¬s.HasTurn event x ∧ (Ahead y x (s.step event).rotation ∨ (s.step event).Gone x) := by
  obtain ⟨u, shifts, wire, tabled', serves⟩ := step_serves tabled placed event
  have listed := mem_order_of_waits (step_tabled tabled event) still
  have old : x < s.nextConnID := tabled.handedOut x (mem_rotation.mp (ahead.subset (by simp)))
  have leaving : x ∉ (s.step event).order → (s.step event).nextConnID = s.nextConnID →
      (s.step event).Gone x := by
    intro absent same
    refine ⟨?_, same ▸ old⟩
    rw [(step_tabled tabled event).listed] at absent
    simpa using absent
  cases serves with
  | emptied emptied same =>
    rw [emptied.1] at listed
    cases listed
  | kept keeps =>
    rw [keeps.order] at listed
    obtain ⟨-, later⟩ := shifts.ahead tabled placed steady ahead waits listed
    refine ⟨not_hasTurn (keeps.wire.trans wire), ?_⟩
    rcases later with ahead' | ⟨absent, same⟩
    · exact .inl (keeps.rotation ▸ ahead')
    · exact .inr (leaving (keeps.order ▸ absent) (keeps.nextConnID.trans same))
  | turned front z behind rotation idle order inside turned nextConnID busy sequence item same =>
    rw [order] at listed
    obtain ⟨waits', later⟩ := shifts.ahead tabled placed steady ahead waits listed
    have served : ∀ id, s.HasTurn event id ↔ id = z := fun id =>
      hasTurn_iff (same.trans (by rw [wire]))
    have other : y ≠ z := fun own => unserved ((served y).mpr own)
    have ready : y ∉ front := by
      intro member
      have idle' := idle y member
      rw [waits'] at idle'
      cases idle'
    have chosen : z ∈ u.order := by
      rw [← mem_rotation]
      unfold Supervisor.rotation
      rw [rotation]
      simp
    rcases later with ahead' | ⟨absent, unchanged⟩
    · unfold Supervisor.rotation at ahead' ⊢
      rw [rotation] at ahead'
      have behind_ : Ahead y x behind :=
        Ahead.of_append (f := [z]) (ahead'.of_append ready) (by simpa using other)
      have nodup : (front ++ z :: behind).Nodup := by
        rw [← rotation]
        exact List.nodup_rotate.mpr tabled'.nodup
      have later : z ∉ behind := (List.nodup_cons.mp (List.Nodup.of_append_right nodup)).1
      refine ⟨fun own => ?_, .inl (turned ▸ ahead'.turn ready other)⟩
      obtain rfl := (served x).mp own
      exact later (behind_.subset (by simp))
    · refine ⟨fun own => ?_, .inr (leaving (order ▸ absent) (nextConnID.trans unchanged))⟩
      obtain rfl := (served x).mp own
      exact absent chosen

theorem Gone.no_turn (gone : s.Gone x) (event : FrontEvent) : ¬s.HasTurn event x := by
  obtain ⟨u, shifts, wire, tabled', serves⟩ := step_serves tabled placed event
  have unlisted : x ∉ s.order := by
    rw [tabled.listed, gone.1]
    simp
  have absent : x ∉ u.order := by
    cases shifts with
    | kept keeps => exact keeps.order ▸ unlisted
    | emptied emptied =>
      rw [emptied.1]
      exact List.not_mem_nil
    | joined order =>
      rw [order, List.mem_append, List.mem_singleton]
      rintro (old | new)
      · exact unlisted old
      · exact Nat.ne_of_lt gone.2 new
    | left id ended member leaves =>
      rw [leaves.order]
      exact fun member => unlisted (List.mem_of_mem_erase member)
  cases serves with
  | kept keeps => exact not_hasTurn (keeps.wire.trans wire)
  | emptied emptied same => exact not_hasTurn (same.trans wire)
  | turned front z behind rotation idle order inside turned nextConnID busy sequence item same =>
    intro turn
    obtain rfl := (hasTurn_iff (same.trans (by rw [wire]))).mp turn
    refine absent (mem_rotation.mp ?_)
    unfold Supervisor.rotation
    rw [rotation]
    simp

theorem turn_unique {y : Nat} (first : s.HasTurn event x) (second : s.HasTurn event y) : x = y := by
  obtain ⟨u, shifts, wire, tabled', serves⟩ := step_serves tabled placed event
  cases serves with
  | kept keeps => exact absurd first (not_hasTurn (keeps.wire.trans wire))
  | emptied emptied same => exact absurd first (not_hasTurn (same.trans wire))
  | turned front z behind rotation idle order inside turned nextConnID busy sequence item same =>
    have served : ∀ id, s.HasTurn event id ↔ id = z := fun id =>
      hasTurn_iff (same.trans (by rw [wire]))
    rw [(served x).mp first, (served y).mp second]

/-! ## Runs -/

theorem unserved_run {y : Nat} (ahead : Ahead y x s.rotation ∨ s.Gone x) {events : List FrontEvent}
    (steady : Along step Steady s events)
    (waits : ∀ part, part <+: events → (run step s part).Waits y = true)
    (unserved : ∀ earlier event later, events = earlier ++ event :: later →
      ¬(run step s earlier).HasTurn event y) :
    ∀ earlier event later, events = earlier ++ event :: later →
      ¬(run step s earlier).HasTurn event x := by
  induction events generalizing s with
  | nil =>
    intro earlier event later split
    exact absurd split (by simp)
  | cons event events ih =>
    have now : s.Waits y = true := waits [] List.nil_prefix
    have next : (s.step event).Waits y = true :=
      waits [event] (by simp)
    have silent : ¬s.HasTurn event y := unserved [] event events rfl
    have both : ¬s.HasTurn event x ∧
        (Ahead y x (s.step event).rotation ∨ (s.step event).Gone x) := by
      rcases ahead with ahead | gone
      · exact ahead_step tabled placed steady.1 ahead now next silent
      · exact ⟨gone.no_turn tabled placed event, .inr (step_gone tabled event gone).1⟩
    have rest := ih (step_tabled tabled event) (step_placed tabled placed event) both.2 steady.2
      (fun part short => waits (event :: part) (List.cons_prefix_cons.mpr ⟨rfl, short⟩))
      (fun earlier other later split => unserved (event :: earlier) other later (by rw [split]; rfl))
    intro earlier other later split
    cases earlier with
    | nil =>
      obtain ⟨rfl, -⟩ : event = other ∧ events = later := by simpa using split
      exact both.1
    | cons head earlier =>
      obtain ⟨rfl, cut⟩ : event = head ∧ events = earlier ++ other :: later := by
        simpa using split
      exact rest earlier other later cut

theorem run_placed (events : List FrontEvent) : Placed (run step s events) := by
  have both : Tabled (run step s events) ∧ Placed (run step s events) := by
    refine run_induction (motive := fun t => Tabled t ∧ Placed t) ?_ ⟨tabled, placed⟩ events
    rintro t event ⟨tabled', placed'⟩
    exact ⟨step_tabled tabled' event, step_placed tabled' placed' event⟩
  exact both.2

end

end

/-- As long as no connection leaves from before the cursor while the one at the cursor waits, a
connection that waits has its turn before another has two. -/
theorem turns_are_fair (initialAdmissionEpoch : Nat) (timeoutRefusalBytes : List UInt8)
    (events : List FrontEvent)
    (steady : Along step Steady (start initialAdmissionEpoch timeoutRefusalBytes) events) :
    Fair (start initialAdmissionEpoch timeoutRefusalBytes) events := by
  intro before first between second after x y split different turn again waits
  have reached : ∀ part, run step (start initialAdmissionEpoch timeoutRefusalBytes)
      (before ++ first :: part) =
        run step ((run step (start initialAdmissionEpoch timeoutRefusalBytes) before).step first) part :=
    fun part => by rw [run_append, run_cons]
  rw [split, Along.append] at steady
  obtain ⟨-, -, steady⟩ := steady
  have regrouped : between ++ second :: after = (between ++ [second]) ++ after := by simp
  rw [regrouped, Along.append] at steady
  have steady' := steady.1
  simp only [reached] at again waits ⊢
  have tabled := run_tabled (start_tabled initialAdmissionEpoch timeoutRefusalBytes) before
  have placed := run_placed (start_tabled initialAdmissionEpoch timeoutRefusalBytes)
    (.inr ⟨rfl, rfl⟩) before
  have tabled' := step_tabled tabled first
  have placed' := step_placed tabled placed first
  by_contra never
  refine unserved_run tabled' placed'
    (.inl (ahead_of_turn tabled placed different turn (waits [] List.nil_prefix))) steady' waits ?_
    between second [] rfl again
  intro earlier event later where_ served
  rcases List.eq_nil_or_concat later with rfl | ⟨rest, last, rfl⟩
  · obtain ⟨rfl, rfl⟩ : between = earlier ∧ second = event := by
      simpa using List.append_inj' where_ rfl
    exact different (turn_unique (run_tabled tabled' between) (run_placed tabled' placed' between)
      again served)
  · refine never ⟨earlier, event, rest, ?_, served⟩
    have longer : between ++ [second] = (earlier ++ event :: rest) ++ [last] := by
      rw [where_, List.concat_eq_append, List.append_assoc, List.cons_append]
    exact (List.append_inj' longer rfl).1

/-- Three connections are admitted, and the second of them has sent twice when it has its turn. -/
def threeWaiting : List FrontEvent :=
  [.accepted true, .accepted true, .accepted true] ++
    [1, 2, 3].map (.mainControl · (.admission 0)) ++ [1, 2, 3].map (.mainControl · (.credit 100)) ++
    [.connRead 1 [1] none, .connRead 2 [2] none, .connRead 3 [3] none, .connRead 2 [4] none]

/-- The third of three connections is closed after the second had its turn. -/
theorem turns_are_fair_behind : Fair (start 0 [])
    (threeWaiting ++ [.dataWritten false, .mainControl 3 .close, .dataWritten false]) :=
  turns_are_fair 0 [] (threeWaiting ++ [.dataWritten false, .mainControl 3 .close,
    .dataWritten false]) (by decide)

/-- The first of them is closed instead, and the second has its next turn before the third. -/
theorem close_before_cursor_passes_over :
    ¬∀ (initialAdmissionEpoch : Nat) (timeoutRefusalBytes : List UInt8) (events : List FrontEvent),
      Along step Genuine (start initialAdmissionEpoch timeoutRefusalBytes) events →
      Fair (start initialAdmissionEpoch timeoutRefusalBytes) events := by
  intro always
  have fair := always 0 []
    (threeWaiting ++ [.dataWritten false, .mainControl 1 .close, .dataWritten false])
    (by decide)
  obtain ⟨earlier, event, later, split, turn⟩ := fair threeWaiting (.dataWritten false)
    [.mainControl 1 .close] (.dataWritten false) [] 2 3 rfl (by decide) (by decide)
    (by decide) (by
      intro part short
      rw [← List.mem_inits] at short
      revert part
      decide)
  obtain ⟨rfl, rfl⟩ : earlier = [] ∧ event = .mainControl 1 .close := by
    cases earlier with
    | nil => exact ⟨rfl, (List.cons.inj split).1.symm⟩
    | cons head rest => simp at split
  revert turn
  decide

end Supervisor

end Vex.Bridge
