import Vex.Bridge.Conn
import Vex.Bridge.Frames

/-!
# The supervisor of the front

One goroutine owns the state of the front: the admission epoch, the connections, what waits for
the two planes to main. It handles one event at a time, and after each event does everything it
can do without waiting: it issues reads and writes on the handles and hands each plane its next
frame. The reads and writes run on goroutines of their own, which report back with events.

What is done to the handles is kept in a history. The time a quit may take and the deadline of a
handshake are events that come when they come.
-/

namespace Vex.Bridge

open Vex.Library
open Vex.Mcp.PipeFront (PeerClosedReason)

/-- What ends the front, by the name it is logged under. -/
inductive Failure where
  | duplicateHello
  | malformedMainFrame
  | planeReadFailed
  | planeWriteFailed
  | handleWithoutHalfClose
  | connectionIdsExhausted
  | controlQueueOverflow
  | flow (error : FlowError)
  deriving DecidableEq

/-- A failure that says main broke the flow control. -/
def Failure.accuses : Failure → Bool
  | .flow (.violation _) => true
  | .flow .dataAfterEnd => true
  | _ => false

/-- `planeWriter` of plane 4. -/
structure ControlWriter where
  busy : Bool
  /-- Frames that were handed over and that main has not received. -/
  wire : List ControlUpFrame

/-- `planeWriter` of plane 6. -/
structure DataWriter where
  sequence : Nat
  busy : Bool
  wire : List DataFrame
  deriving DecidableEq

inductive HandleEvent where
  | readIssued (id budget : Nat)
  | bytesRead (id : Nat) (bytes : List UInt8)
  | writeIssued (id sequence : Nat) (item : StreamItem UInt8)
  | wrote (id sequence : Nat) (item : StreamItem UInt8)
  | closed (id : Nat)
  deriving DecidableEq

def refusalSequence : Nat := 0

def controlQueueBound : Nat := 512

def maxUint32 : Nat := 4294967295

structure Supervisor where
  timeoutRefusalBytes : List UInt8
  epoch : Nat
  epochExhaustionLogged : Bool
  conns : Nat → Option Conn
  order : List Nat
  roundRobin : Nat
  nextConnID : Nat
  controlUp : ControlWriter
  dataUp : DataWriter
  upPending : List ControlUpFrame
  quitting : Bool
  terminal : Bool
  /-- The failures that were logged. -/
  failures : List Failure
  /-- The budget of the read that a goroutine is at, for each connection. -/
  reads : Nat → Option Nat
  /-- The writes that goroutines are at. -/
  writes : Nat → List DownItem
  history : List HandleEvent

/-- How a read failed: the end of the stream, the peer gone, or the handle itself. -/
inductive ReadError where
  | eof
  | peerGone
  | other
  deriving DecidableEq

/-- `event`. A report of a write names what was written, of which the source's report says only
whether it was the half-close. -/
inductive FrontEvent where
  | mainControl (connection : Nat) (payload : ControlDown)
  | mainData (connection sequence : Nat) (item : StreamItem UInt8)
  | mainMalformed
  | planeEOF
  | planeReadFailed
  | controlWritten (failed : Bool)
  | dataWritten (failed : Bool)
  | accepted (halfCloses : Bool)
  | acceptOverflow
  | acceptFailed
  | connRead (id : Nat) (bytes : List UInt8) (failed : Option ReadError)
  | connWrote (id sequence : Nat) (item : StreamItem UInt8) (failed : Bool)
  | handshakeExpired (id : Nat)
  | parentGone
  | quitExpired

namespace Supervisor

/-- What `bootstrap` leaves: the epoch is the one `HELLO` carries. -/
def start (initialAdmissionEpoch : Nat) (timeoutRefusalBytes : List UInt8) : Supervisor where
  timeoutRefusalBytes := timeoutRefusalBytes
  epoch := initialAdmissionEpoch
  epochExhaustionLogged := initialAdmissionEpoch = maxUint32
  conns _ := none
  order := []
  roundRobin := 0
  nextConnID := 1
  controlUp := ⟨false, []⟩
  dataUp := ⟨1, false, []⟩
  upPending :=
    if initialAdmissionEpoch = maxUint32 then [(0, .error .admissionEpochExhausted 1)] else []
  quitting := false
  terminal := false
  failures := []
  reads _ := none
  writes _ := []
  history := []

def setConn (s : Supervisor) (id : Nat) (conn : Conn) : Supervisor :=
  { s with conns := Function.update s.conns id (some conn) }

def record (s : Supervisor) (event : HandleEvent) : Supervisor :=
  { s with history := s.history ++ [event] }

def live (s : Supervisor) (id : Nat) : Option Conn :=
  (s.conns id).filter fun conn => conn.state ≠ .closed

/-! ## Plane 4 -/

/-- What a queued frame becomes when the new one replaces or joins it. -/
def merged (connection : Nat) : ControlUp → ControlUpFrame → Option ControlUpFrame
  | .writeDone ack, (queued, .writeDone _) =>
    if queued = connection then some (queued, .writeDone ack) else none
  | .error code count, (queued, .error code' count') =>
    if code' = code then some (queued, .error code (count' + count)) else none
  | _, _ => none

/-- The queue in which the frame has been coalesced, if it can be. -/
def coalesce (connection : Nat) (payload : ControlUp) :
    List ControlUpFrame → Option (List ControlUpFrame)
  | [] => none
  | queued :: rest =>
    match merged connection payload queued with
    | some frame => some (frame :: rest)
    | none => (coalesce connection payload rest).map (queued :: ·)

/-- The queue is full. The front fails, but the report of that failure needs a place in the same
queue, so `fail` calls itself until the stack of the process is used up. -/
def collapse (s : Supervisor) : Supervisor :=
  { s with
    conns := fun _ => none
    order := []
    roundRobin := 0
    terminal := true
    failures := s.failures ++ [.controlQueueOverflow] }

def queueUp (s : Supervisor) (connection : Nat) (payload : ControlUp) : Supervisor :=
  match coalesce connection payload s.upPending with
  | some upPending => { s with upPending := upPending }
  | none =>
    if s.upPending.length ≥ controlQueueBound then s.collapse
    else { s with upPending := s.upPending ++ [(connection, payload)] }

def reportError (s : Supervisor) (code : ErrorCode) : Supervisor := s.queueUp 0 (.error code 1)

def noteEpoch (s : Supervisor) : Supervisor :=
  if s.epoch = maxUint32 ∧ ¬s.epochExhaustionLogged then
    ({ s with epochExhaustionLogged := true }).reportError .admissionEpochExhausted
  else s

/-! ## Closing -/

def forget (s : Supervisor) (id : Nat) : Supervisor :=
  let order := s.order.erase id
  { s with
    conns := Function.update s.conns id none
    order := order
    roundRobin := if order.length = 0 then 0 else s.roundRobin % order.length }

def closeConn (s : Supervisor) (conn : Conn) (reason : PeerClosedReason) : Supervisor :=
  if conn.state = .closed then s
  else
    let s := (s.setConn conn.id conn.markClosed).record (.closed conn.id)
    (s.queueUp conn.id (.peerClosed reason conn.throughDataSeq)).forget conn.id

/-- The loop of `closeAll` over a snapshot of the rotation. -/
def closeEach (reason : PeerClosedReason) : List Nat → Supervisor → Supervisor × Nat
  | [], s => (s, 0)
  | id :: rest, s =>
    match s.live id with
    | none => closeEach reason rest s
    | some conn =>
      let (s, closed) := closeEach reason rest (s.closeConn conn reason)
      (s, closed + 1)

def closeAll (s : Supervisor) (reason : PeerClosedReason) : Supervisor × Nat :=
  closeEach reason s.order s

def fail (s : Supervisor) (code : ErrorCode) (failure : Failure) : Supervisor :=
  if s.terminal then s
  else
    let (s, _) := (s.reportError code).closeAll .commandedClose
    { s with terminal := true, failures := s.failures ++ [failure] }

def finish (s : Supervisor) : Supervisor :=
  if s.terminal then s
  else { (s.closeAll .commandedClose).1 with terminal := true }

def failFlow (s : Supervisor) (error : FlowError) : Supervisor :=
  match error with
  | .violation _ => s.fail .creditViolation (.flow error)
  | .dataAfterEnd => s.fail .creditViolation (.flow error)
  | .internalInvariant => s.fail .internalInvariant (.flow error)

def completeQuit (s : Supervisor) : Supervisor :=
  { (s.closeAll .commandedClose).1.queueUp 0 .quitAck with terminal := true }

/-! ## Reads and writes -/

def startConnRead (s : Supervisor) (id budget : Nat) : Supervisor :=
  ({ s with reads := Function.update s.reads id (some budget) }).record (.readIssued id budget)

def startConnWrite (s : Supervisor) (id sequence : Nat) (item : StreamItem UInt8) : Supervisor :=
  ({ s with writes := Function.update s.writes id (s.writes id ++ [(sequence, item)]) }).record
    (.writeIssued id sequence item)

/-- The half of `pumpConnIO` that issues a read. -/
def pumpRead (s : Supervisor) (id : Nat) : Supervisor :=
  match s.live id with
  | none => s
  | some conn =>
    if s.quitting ∨ conn.readBudget = 0 then s
    else (s.setConn id conn.readIssued).startConnRead conn.id conn.readBudget

/-- The half of `pumpConnIO` that issues a write. -/
def pumpWrite (s : Supervisor) (id : Nat) : Supervisor :=
  match s.live id with
  | none => s
  | some conn =>
    match conn.nextDown with
    | none => s
    | some ((sequence, item), conn) => (s.setConn id conn).startConnWrite conn.id sequence item

def pumpConnIO (s : Supervisor) : Supervisor :=
  s.order.foldl (fun s id => (s.pumpRead id).pumpWrite id) s

def pumpControlUp (s : Supervisor) : Supervisor :=
  match s.upPending with
  | [] => s
  | next :: rest =>
    if s.controlUp.busy then s
    else { s with upPending := rest, controlUp := ⟨true, s.controlUp.wire ++ [next]⟩ }

/-- The position in the rotation, from where the last turn ended, of the connection that has the
next turn on plane 6. -/
def nextTurn (s : Supervisor) : Option Nat :=
  ((List.range s.order.length).map fun i => (s.roundRobin + i) % s.order.length).find? fun index =>
    match s.order[index]? with
    | none => false
    | some id => (s.conns id).any Conn.HasUpward

def pumpDataUp (s : Supervisor) : Supervisor :=
  if s.dataUp.busy then s
  else
    match s.nextTurn with
    | none => s
    | some index =>
      match s.order[index]? with
      | none => s
      | some id =>
        match s.conns id with
        | none => s
        | some conn =>
          match conn.takeUpward s.dataUp.sequence with
          | .error error => s.failFlow error
          | .ok (item, conn) =>
            { s.setConn id conn with
              dataUp := {
                sequence := s.dataUp.sequence + 1
                busy := true
                wire := s.dataUp.wire ++ [(conn.id, s.dataUp.sequence, item)] }
              roundRobin := (index + 1) % s.order.length }

/-- A connection has nothing to write, nothing being written and nothing for plane 6. -/
def drained (s : Supervisor) (id : Nat) : Bool :=
  match s.live id with
  | none => true
  | some conn => conn.pendingDown.isEmpty && !conn.writeInFlight && conn.pendingUp.isEmpty

def maybeFinishQuit (s : Supervisor) : Supervisor :=
  if s.quitting ∧ ¬s.terminal ∧ s.order.all s.drained ∧ ¬s.dataUp.busy ∧ ¬s.controlUp.busy ∧
      s.upPending.isEmpty then
    s.completeQuit
  else s

def pump (s : Supervisor) : Supervisor :=
  s.pumpConnIO.pumpControlUp.pumpDataUp.maybeFinishQuit

/-! ## Events -/

/-- `Supervisor.handleAdmit`: the epoch is compared before the connection is looked up. -/
def handleAdmit (s : Supervisor) (id admissionEpoch : Nat) : Supervisor :=
  if admissionEpoch ≠ s.epoch then s
  else
    match s.live id with
    | none => s
    | some conn => s.setConn id conn.admit_

/-- The refusal bytes are written once, and the handle is closed when they are. -/
def refuseWith (s : Supervisor) (id : Nat) (conn : Conn) (bytes : List UInt8) : Supervisor :=
  let s := s.setConn id conn.refuse
  if bytes = [] then s.closeConn conn.refuse .commandedClose
  else s.startConnWrite id refusalSequence (.chunk bytes)

def handleRefuse (s : Supervisor) (id : Nat) (bytes : List UInt8) : Supervisor :=
  match s.live id with
  | none => s
  | some conn => s.refuseWith id conn bytes

def handleCredit (s : Supervisor) (id bytes : Nat) : Supervisor :=
  match s.live id with
  | none => s
  | some conn =>
    match conn.grantCredit bytes with
    | .error error => s.failFlow error
    | .ok conn => s.setConn id conn

def handleLock (s : Supervisor) (admissionEpoch : Nat) : Supervisor :=
  let (s, closed) := ({ s with epoch := admissionEpoch }).noteEpoch.closeAll .commandedClose
  s.queueUp 0 (.lockAck s.epoch closed)

def handleQuit (s : Supervisor) : Supervisor :=
  if s.quitting then s else { s with quitting := true }

/-- `Supervisor.handleDownData` and `Supervisor.handleDownEnd`. -/
def handleDown (s : Supervisor) (id sequence : Nat) (item : StreamItem UInt8) : Supervisor :=
  match s.live id with
  | none => s
  | some conn =>
    let queued :=
      match item with
      | .chunk payload => conn.queueDown sequence payload
      | .fin => conn.queueDownEnd sequence
    match queued with
    | .error error => s.failFlow error
    | .ok conn => s.setConn id conn

/-- The cases of `Supervisor.handleFrame` for frames of plane 3. -/
def handleControl (s : Supervisor) (connection : Nat) : ControlDown → Supervisor
  | .hello => s.fail .malformedMainFrame .duplicateHello
  | .admission admissionEpoch => s.handleAdmit connection admissionEpoch
  | .refuse bytes => s.handleRefuse connection bytes
  | .credit bytes => s.handleCredit connection bytes
  | .pause =>
    match s.live connection with
    | none => s
    | some conn => s.setConn connection conn.pause
  | .resume =>
    match s.live connection with
    | none => s
    | some conn => s.setConn connection conn.resume
  | .close =>
    match s.live connection with
    | none => s
    | some conn => s.closeConn conn .commandedClose
  | .lock admissionEpoch => s.handleLock admissionEpoch
  | .quit _ => s.handleQuit
  | .ping nonce => s.queueUp 0 (.pong nonce)

def handleAccepted (s : Supervisor) (halfCloses : Bool) : Supervisor :=
  if ¬halfCloses then s.fail .internalInvariant .handleWithoutHalfClose
  else if s.nextConnID = maxUint32 then s.fail .connectionIdsExhausted .connectionIdsExhausted
  else
    let id := s.nextConnID
    let s := { s with nextConnID := id + 1, order := s.order ++ [id] }
    (s.setConn id (Conn.new id).openSent).queueUp id .open

def readFailureReason : ReadError → PeerClosedReason
  | .eof => .peerEof
  | .peerGone => .peerEof
  | .other => .ioError

/-- What `handleConnRead` does with the error of a read. -/
def handleReadError (s : Supervisor) (id : Nat) (conn : Conn) : Option ReadError → Supervisor
  | none => s
  | some .eof =>
    match conn.peerEnded with
    | .error error => s.failFlow error
    | .ok conn => s.setConn id conn
  | some error => s.closeConn conn (readFailureReason error)

/-- `Supervisor.handleConnRead`. The goroutine of the read is done in any case. -/
def handleConnRead (s : Supervisor) (id : Nat) (bytes : List UInt8) (failed : Option ReadError) :
    Supervisor :=
  let s := { s with reads := Function.update s.reads id none }
  match s.live id with
  | none => s
  | some conn =>
    if bytes.length > 0 then
      match conn.acceptRead bytes with
      | .error error => s.failFlow error
      | .ok (_, conn) =>
        ((s.setConn id conn).record (.bytesRead id bytes)).handleReadError id conn failed
    else (s.setConn id conn.readFailed).handleReadError id conn.readFailed failed

/-- `Supervisor.handleConnWrote`. The goroutine of the write is done in any case. -/
def handleConnWrote (s : Supervisor) (id sequence : Nat) (item : StreamItem UInt8)
    (failed : Bool) : Supervisor :=
  let s := { s with writes := Function.update s.writes id ((s.writes id).erase (sequence, item)) }
  match s.live id with
  | none => s
  | some conn =>
    if sequence = refusalSequence ∧ ¬item.isFin then s.closeConn conn .commandedClose
    else if failed then (s.setConn id conn.writeFailed).closeConn conn.writeFailed .ioError
    else
      let wrote := s.record (.wrote id sequence item)
      if item.isFin then wrote.setConn id conn.endCompleted
      else
        match conn.writeCompleted sequence with
        | .error error => s.failFlow error
        | .ok (ackThrough, conn) => (wrote.setConn id conn).queueUp id (.writeDone ackThrough)

def handleHandshakeExpired (s : Supervisor) (id : Nat) : Supervisor :=
  match s.live id with
  | none => s
  | some conn => if conn.handshakeSeen then s else s.refuseWith id conn s.timeoutRefusalBytes

def handle (s : Supervisor) : FrontEvent → Supervisor
  | .mainControl connection payload => s.handleControl connection payload
  | .mainData connection sequence item => s.handleDown connection sequence item
  | .mainMalformed => s.fail .malformedMainFrame .malformedMainFrame
  | .planeEOF => s.finish
  | .planeReadFailed => s.fail .planeReadFailed .planeReadFailed
  | .controlWritten failed =>
    let s := { s with controlUp := { s.controlUp with busy := false } }
    if failed then s.fail .planeWriteFailed .planeWriteFailed else s
  | .dataWritten failed =>
    let s := { s with dataUp := { s.dataUp with busy := false } }
    if failed then s.fail .planeWriteFailed .planeWriteFailed else s
  | .accepted halfCloses => s.handleAccepted halfCloses
  | .acceptOverflow => s
  | .acceptFailed => s
  | .connRead id bytes failed => s.handleConnRead id bytes failed
  | .connWrote id sequence item failed => s.handleConnWrote id sequence item failed
  | .handshakeExpired id => s.handleHandshakeExpired id
  | .parentGone => s.finish
  | .quitExpired => s.completeQuit

/-- `flushControlUp`: a front that has ended only empties plane 4. -/
def flushControlUp (s : Supervisor) : FrontEvent → Supervisor
  | .controlWritten _ => { s with controlUp := { s.controlUp with busy := false } }.pumpControlUp
  | _ => s

/-- One turn of the loop of `Run`. -/
def step (s : Supervisor) (event : FrontEvent) : Supervisor :=
  if s.terminal then s.flushControlUp event
  else
    let handled := s.handle event
    if handled.terminal then handled.pumpControlUp
    else
      let pumped := handled.pump
      if pumped.terminal then pumped.pumpControlUp else pumped

end Supervisor

end Vex.Bridge
