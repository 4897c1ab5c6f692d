import Vex.Bridge.SupervisorSteps

/-!
# The front, and how it fails

`Supervisor` with what it does to raw handles, its handshake timers, its exit code and the length
of the queue of plane 4. A full queue makes the front fail; a front that fails queues an `ERROR`,
and a `PEER_CLOSED` for each connection it closes, before it is terminal. So `queueUp`, `fail` and
`closeAll` call each other, and what they return depends on the queue: they are given fuel, which
is spent where `queueUp` calls `fail`, and return nothing when it does not suffice.

A handler of an event changes the state and ends with at most one call that queues a frame, closes
a connection or ends the front. `react` is the handler up to that call, `perform` the call.
-/

namespace Vex.Bridge

open Vex.Library
open Vex.Mcp.PipeFront (PeerClosedReason)

inductive ExitCode where
  | clean
  | malformedFrame
  | planeIo
  | creditViolation
  | internalInvariant
  | parentGone
  deriving DecidableEq

/-- What is done to a raw handle: it is closed, and its slot is released. -/
inductive RawOp where
  | closed (handle : Nat)
  | released (handle : Nat)
  deriving DecidableEq

/-- `Supervisor`, with its raw handles, its timers and its exit code. -/
structure Front where
  sup : Supervisor
  /-- `HELLO_ACK` and `BOUND`, while they are queued for plane 4. -/
  bootstrapFrames : Nat
  /-- The frames of `upPending` that were queued before `HELLO_ACK`. -/
  aheadOfBootstrap : Nat
  /-- `Conn.Wire`: the handle of each connection. -/
  wires : Nat → Nat
  timers : List Nat
  exit : ExitCode
  /-- The exit codes of the calls of `fail` that found the front serving. -/
  failed : List ExitCode
  ops : List RawOp

inductive Reaction where
  | rest
  | queue (connection : Nat) (payload : ControlUp)
  | close (conn : Conn) (reason : PeerClosedReason)
  | fail (code : ErrorCode) (exit : ExitCode) (failure : Failure)
  | finish (exit : ExitCode)
  | lock
  | completeQuit

/-- What the call does to a supervisor whose queue has room. -/
def Supervisor.settle (s : Supervisor) : Reaction → Supervisor
  | .rest => s
  | .queue connection payload => s.queueUp connection payload
  | .close conn reason => s.closeConn conn reason
  | .fail code _ failure => s.fail code failure
  | .finish _ => s.finish
  | .lock =>
    let (s, closed) := s.noteEpoch.closeAll .commandedClose
    s.queueUp 0 (.lockAck s.epoch closed)
  | .completeQuit => s.completeQuit

namespace Front

/-- What `bootstrap` leaves. -/
def start (initialAdmissionEpoch : Nat) (timeoutRefusalBytes : List UInt8) : Front where
  sup := .start initialAdmissionEpoch timeoutRefusalBytes
  bootstrapFrames := 2
  aheadOfBootstrap := (Supervisor.start initialAdmissionEpoch timeoutRefusalBytes).upPending.length
  wires _ := 0
  timers := []
  exit := .clean
  failed := []
  ops := []

def queued (s : Front) : Nat := s.bootstrapFrames + s.sup.upPending.length

def setConn (s : Front) (id : Nat) (conn : Conn) : Front := { s with sup := s.sup.setConn id conn }

/-- The handshake deadline of a connection is stopped, if it runs. -/
def stopTimer (s : Front) (id : Nat) : Front :=
  { s with timers := s.timers.filter fun other => other ≠ id }

def closeRaw (s : Front) (handle : Nat) : Front :=
  { s with ops := s.ops ++ [.closed handle, .released handle] }

/-! ## Queueing, closing and failing -/

def setPending (s : Front) (upPending : List ControlUpFrame) : Front :=
  { s with sup := { s.sup with upPending := upPending } }

/-- `Supervisor.queueUp`, given the `fail` that a full queue calls. -/
def queueUpWith (overflow : Front → Option Front) (s : Front) (connection : Nat)
    (payload : ControlUp) : Option Front :=
  match Supervisor.coalesce connection payload s.sup.upPending with
  | some upPending => some (s.setPending upPending)
  | none =>
    if s.queued ≥ controlQueueBound then overflow s
    else some (s.setPending (s.sup.upPending ++ [(connection, payload)]))

/-- `Supervisor.reportError`. -/
def reportErrorWith (overflow : Front → Option Front) (s : Front) (code : ErrorCode) :
    Option Front := queueUpWith overflow s 0 (.error code 1)

def forget (s : Front) (id : Nat) : Front := { s with sup := s.sup.forget id }

def shut (s : Front) (conn : Conn) : Front :=
  let s := (s.stopTimer conn.id).closeRaw (s.wires conn.id)
  { s with sup := (s.sup.setConn conn.id conn.markClosed).record (.closed conn.id) }

/-- `Supervisor.closeConn`. -/
def closeConnWith (overflow : Front → Option Front) (s : Front) (conn : Conn)
    (reason : PeerClosedReason) : Option Front :=
  if conn.state = .closed then some s
  else
    (queueUpWith overflow (s.shut conn) conn.id (.peerClosed reason conn.throughDataSeq)).map
      fun s => s.forget conn.id

/-- The loop of `closeAll` over a snapshot of the rotation. -/
def closeEachWith (overflow : Front → Option Front) (reason : PeerClosedReason) :
    List Nat → Front → Option (Front × Nat)
  | [], s => some (s, 0)
  | id :: rest, s =>
    match s.sup.live id with
    | none => closeEachWith overflow reason rest s
    | some conn =>
      (closeConnWith overflow s conn reason).bind fun s =>
        (closeEachWith overflow reason rest s).map fun (s, closed) => (s, closed + 1)

/-- `Supervisor.closeAll`. -/
def closeAllWith (overflow : Front → Option Front) (s : Front) (reason : PeerClosedReason) :
    Option (Front × Nat) := closeEachWith overflow reason s.sup.order s

def terminate (s : Front) (exit : ExitCode) : Front :=
  { s with sup := { s.sup with terminal := true }, exit := exit }

/-- `fail` is called while the front serves. -/
def called (s : Front) (exit : ExitCode) : Front := { s with failed := s.failed ++ [exit] }

def logged (s : Front) (failure : Failure) : Front :=
  { s with sup := { s.sup with failures := s.sup.failures ++ [failure] } }

/-- `Supervisor.fail`, given the `fail` that a full queue calls. -/
def failWith (overflow : Front → Option Front) (s : Front) (code : ErrorCode) (exit : ExitCode)
    (failure : Failure) : Option Front :=
  if s.sup.terminal then some s
  else
    (reportErrorWith overflow (s.called exit) code).bind fun s =>
      (closeAllWith overflow (s.logged failure) .commandedClose).map fun (s, _) => s.terminate exit

/-- The `fail` that a full queue calls: it needs a place in the same queue. -/
def overflow : Nat → Front → Option Front
  | 0, _ => none
  | fuel + 1, s =>
    failWith (overflow fuel) s .internalInvariant .internalInvariant .controlQueueOverflow

/-- `Supervisor.finish`. -/
def finishWith (overflow : Front → Option Front) (s : Front) (exit : ExitCode) : Option Front :=
  if s.sup.terminal then some s
  else (closeAllWith overflow s .commandedClose).map fun (s, _) => s.terminate exit

/-- A spent epoch is marked as reported. -/
def flagged (s : Front) : Front := { s with sup := { s.sup with epochExhaustionLogged := true } }

/-- `Supervisor.noteEpoch`. -/
def noteEpochWith (overflow : Front → Option Front) (s : Front) : Option Front :=
  if s.sup.epoch = maxUint32 ∧ ¬s.sup.epochExhaustionLogged then
    reportErrorWith overflow s.flagged .admissionEpochExhausted
  else some s

/-- What `Supervisor.handleLock` does when the epoch is set. -/
def lockWith (overflow : Front → Option Front) (s : Front) : Option Front :=
  (noteEpochWith overflow s).bind fun s =>
    (closeAllWith overflow s .commandedClose).bind fun (s, closed) =>
      queueUpWith overflow s 0 (.lockAck s.sup.epoch closed)

/-- `Supervisor.completeQuit`. -/
def completeQuitWith (overflow : Front → Option Front) (s : Front) : Option Front :=
  (closeAllWith overflow s .commandedClose).bind fun (s, _) =>
    (queueUpWith overflow s 0 .quitAck).map fun s => s.terminate .clean

def performWith (overflow : Front → Option Front) (s : Front) : Reaction → Option Front
  | .rest => some s
  | .queue connection payload => queueUpWith overflow s connection payload
  | .close conn reason => closeConnWith overflow s conn reason
  | .fail code exit failure => failWith overflow s code exit failure
  | .finish exit => finishWith overflow s exit
  | .lock => lockWith overflow s
  | .completeQuit => completeQuitWith overflow s

/-! ## Events -/

def failFlow : FlowError → Reaction
  | .violation name => .fail .creditViolation .creditViolation (.flow (.violation name))
  | .dataAfterEnd => .fail .creditViolation .creditViolation (.flow .dataAfterEnd)
  | .internalInvariant => .fail .internalInvariant .internalInvariant (.flow .internalInvariant)

/-- The refusal bytes are written once, and the handle is closed when they are. -/
def refuseWith (s : Front) (id : Nat) (conn : Conn) (bytes : List UInt8) : Front × Reaction :=
  let s := s.setConn id conn.refuse
  if bytes = [] then (s, .close conn.refuse .commandedClose)
  else ({ s with sup := s.sup.startConnWrite id refusalSequence (.chunk bytes) }, .rest)

def handleRefuse (s : Front) (id : Nat) (bytes : List UInt8) : Front × Reaction :=
  match s.sup.live id with
  | none => (s, .rest)
  | some conn => (s.stopTimer id).refuseWith id conn bytes

def handleCredit (s : Front) (id bytes : Nat) : Front × Reaction :=
  match s.sup.live id with
  | none => (s, .rest)
  | some conn =>
    match conn.grantCredit bytes with
    | .error error => (s, failFlow error)
    | .ok conn => (s.setConn id conn, .rest)

/-- `Supervisor.handleDownData` and `Supervisor.handleDownEnd`. -/
def handleDown (s : Front) (id sequence : Nat) (item : StreamItem UInt8) : Front × Reaction :=
  match s.sup.live id with
  | none => (s, .rest)
  | some conn =>
    let queued :=
      match item with
      | .chunk payload => conn.queueDown sequence payload
      | .fin => conn.queueDownEnd sequence
    match queued with
    | .error error => (s, failFlow error)
    | .ok conn => (s.setConn id conn, .rest)

/-- The cases of `Supervisor.handleFrame` for frames of plane 3. -/
def handleControl (s : Front) (connection : Nat) : ControlDown → Front × Reaction
  | .hello => (s, .fail .malformedMainFrame .malformedFrame .duplicateHello)
  | .admission admissionEpoch =>
    ({ s with sup := s.sup.handleAdmit connection admissionEpoch }, .rest)
  | .refuse bytes => s.handleRefuse connection bytes
  | .credit bytes => s.handleCredit connection bytes
  | .pause =>
    match s.sup.live connection with
    | none => (s, .rest)
    | some conn => (s.setConn connection conn.pause, .rest)
  | .resume =>
    match s.sup.live connection with
    | none => (s, .rest)
    | some conn => (s.setConn connection conn.resume, .rest)
  | .close =>
    match s.sup.live connection with
    | none => (s, .rest)
    | some conn => (s, .close conn .commandedClose)
  | .lock admissionEpoch => ({ s with sup := { s.sup with epoch := admissionEpoch } }, .lock)
  | .quit _ => ({ s with sup := s.sup.handleQuit }, .rest)
  | .ping nonce => (s, .queue 0 (.pong nonce))

def handleAccepted (s : Front) (wire : Nat) (halfCloses : Bool) : Front × Reaction :=
  if ¬halfCloses then
    (s.closeRaw wire, .fail .internalInvariant .internalInvariant .handleWithoutHalfClose)
  else if s.sup.nextConnID = maxUint32 then
    (s.closeRaw wire, .fail .connectionIdsExhausted .internalInvariant .connectionIdsExhausted)
  else
    let id := s.sup.nextConnID
    let sup := { s.sup with nextConnID := id + 1, order := s.sup.order ++ [id] }
    ({ s with
      sup := sup.setConn id (Conn.new id).openSent
      wires := Function.update s.wires id wire
      timers := s.timers ++ [id] }, .queue id .open)

/-- What `handleConnRead` does with the error of a read. -/
def handleReadError (s : Front) (id : Nat) (conn : Conn) : Option ReadError → Front × Reaction
  | none => (s, .rest)
  | some .eof =>
    match conn.peerEnded with
    | .error error => (s, failFlow error)
    | .ok conn => (s.setConn id conn, .rest)
  | some error => (s, .close conn (Supervisor.readFailureReason error))

/-- `Supervisor.handleConnRead`. The first newline stops the handshake deadline. -/
def handleConnRead (s : Front) (id : Nat) (bytes : List UInt8) (failed : Option ReadError) :
    Front × Reaction :=
  let s := { s with sup := s.sup.readDone id }
  match s.sup.live id with
  | none => (s, .rest)
  | some conn =>
    if bytes.length > 0 then
      match conn.acceptRead bytes with
      | .error error => (s, failFlow error)
      | .ok (completed, conn) =>
        let s := if completed then s.stopTimer id else s
        handleReadError { s with sup := (s.sup.setConn id conn).record (.bytesRead id bytes) }
          id conn failed
    else (s.setConn id conn.readFailed).handleReadError id conn.readFailed failed

def handleConnWrote (s : Front) (id sequence : Nat) (item : StreamItem UInt8) (failed : Bool) :
    Front × Reaction :=
  let s := { s with sup := s.sup.writeDone id (sequence, item) }
  match s.sup.live id with
  | none => (s, .rest)
  | some conn =>
    if sequence = refusalSequence ∧ ¬item.isFin then (s, .close conn .commandedClose)
    else if failed then (s.setConn id conn.writeFailed, .close conn.writeFailed .ioError)
    else
      let wrote := { s with sup := s.sup.record (.wrote id sequence item) }
      if item.isFin then (wrote.setConn id conn.endCompleted, .rest)
      else
        match conn.writeCompleted sequence with
        | .error error => (s, failFlow error)
        | .ok (ackThrough, conn) => (wrote.setConn id conn, .queue id (.writeDone ackThrough))

def handleHandshakeExpired (s : Front) (id : Nat) : Front × Reaction :=
  let s := s.stopTimer id
  match s.sup.live id with
  | none => (s, .rest)
  | some conn =>
    if conn.handshakeSeen then (s, .rest) else s.refuseWith id conn s.sup.timeoutRefusalBytes

/-- `Supervisor.handle` up to the call it ends with. `wire` is the handle of an `accepted`. -/
def react (s : Front) (wire : Nat) : FrontEvent → Front × Reaction
  | .mainControl connection payload => s.handleControl connection payload
  | .mainData connection sequence item => s.handleDown connection sequence item
  | .mainMalformed => (s, .fail .malformedMainFrame .malformedFrame .malformedMainFrame)
  | .planeEOF => (s, .finish .clean)
  | .planeReadFailed => (s, .fail .planeReadFailed .planeIo .planeReadFailed)
  | .controlWritten failed =>
    ({ s with sup := { s.sup with controlUp := { s.sup.controlUp with busy := false } } },
      if failed then .fail .planeWriteFailed .planeIo .planeWriteFailed else .rest)
  | .dataWritten failed =>
    ({ s with sup := { s.sup with dataUp := { s.sup.dataUp with busy := false } } },
      if failed then .fail .planeWriteFailed .planeIo .planeWriteFailed else .rest)
  | .accepted halfCloses => s.handleAccepted wire halfCloses
  | .acceptOverflow => (s, .rest)
  | .acceptFailed => (s, .rest)
  | .connRead id bytes failed => s.handleConnRead id bytes failed
  | .connWrote id sequence item failed => s.handleConnWrote id sequence item failed
  | .handshakeExpired id => s.handleHandshakeExpired id
  | .parentGone => (s, .finish .parentGone)
  | .quitExpired => (s, .completeQuit)

def handle (s : Front) (fuel wire : Nat) (event : FrontEvent) : Option Front :=
  performWith (overflow fuel) (s.react wire event).1 (s.react wire event).2

def queueUp (s : Front) (fuel connection : Nat) (payload : ControlUp) : Option Front :=
  queueUpWith (overflow fuel) s connection payload

/-! ## The loop -/

def pumpControlUp (s : Front) : Front :=
  if s.bootstrapFrames = 0 then { s with sup := s.sup.pumpControlUp }
  else if s.sup.controlUp.busy then s
  else if s.aheadOfBootstrap = 0 then
    { s with
      bootstrapFrames := s.bootstrapFrames - 1
      sup := { s.sup with controlUp := { s.sup.controlUp with busy := true } } }
  else { s with sup := s.sup.pumpControlUp, aheadOfBootstrap := s.aheadOfBootstrap - 1 }

/-- `Supervisor.pumpDataUp` up to the call of `failFlow`. -/
def pumpDataUp (s : Front) : Front × Reaction :=
  if s.sup.dataUp.busy then (s, .rest)
  else
    match s.sup.nextTurn with
    | none => (s, .rest)
    | some index =>
      match s.sup.order[index]? with
      | none => (s, .rest)
      | some id =>
        match s.sup.conns id with
        | none => (s, .rest)
        | some conn =>
          match conn.takeUpward s.sup.dataUp.sequence with
          | .error error => (s, failFlow error)
          | .ok (item, conn) =>
            ({ s with sup := { s.sup.setConn id conn with
              dataUp := {
                sequence := s.sup.dataUp.sequence + 1
                busy := true
                wire := s.sup.dataUp.wire ++ [(conn.id, s.sup.dataUp.sequence, item)] }
              roundRobin := (index + 1) % s.sup.order.length } }, .rest)

def maybeFinishQuit (s : Front) (fuel : Nat) : Option Front :=
  if s.sup.quitting ∧ ¬s.sup.terminal ∧ s.sup.order.all s.sup.drained ∧ ¬s.sup.dataUp.busy ∧
      ¬s.sup.controlUp.busy ∧ s.queued = 0 then
    completeQuitWith (overflow fuel) s
  else some s

def pump (s : Front) (fuel : Nat) : Option Front :=
  let (s, reaction) := pumpDataUp (pumpControlUp { s with sup := s.sup.pumpConnIO })
  (performWith (overflow fuel) s reaction).bind fun s => s.maybeFinishQuit fuel

def isFrame : FrontEvent → Bool
  | .mainControl _ _ => true
  | _ => false

/-- The front handles the event: it serves, or the event is a frame that came with `HELLO`, which
is replayed whether the front still serves or not. -/
def Receives (s : Front) (event : FrontEvent) : Prop :=
  s.sup.terminal = false ∨ isFrame event = true

/-- The states that `Run` reaches: it replays frames, and then pumps and handles in turn. -/
inductive Reached (initialAdmissionEpoch : Nat) (timeoutRefusalBytes : List UInt8) : Front → Prop
  | start : Reached initialAdmissionEpoch timeoutRefusalBytes
      (start initialAdmissionEpoch timeoutRefusalBytes)
  | handled {s t : Front} (reached : Reached initialAdmissionEpoch timeoutRefusalBytes s)
      (fuel wire : Nat) (event : FrontEvent) (received : s.Receives event)
      (returned : s.handle fuel wire event = some t) :
      Reached initialAdmissionEpoch timeoutRefusalBytes t
  | pumped {s t : Front} (reached : Reached initialAdmissionEpoch timeoutRefusalBytes s)
      (running : s.sup.terminal = false) (fuel : Nat) (returned : s.pump fuel = some t) :
      Reached initialAdmissionEpoch timeoutRefusalBytes t

end Front

end Vex.Bridge
