import Mathlib.Data.List.Basic

/-!
# A connection of Studio

A connection from its accepted wire to its settled teardown. Refusal, establishment and teardown are
three asynchronous chains over one phase and two latches: each is cut where it awaits, and what
follows is an event of its own. A connection is looked at with the host's count of the reservations,
which it raises when a handshake line parses, and lowers when it is refused or torn down.
-/

namespace Vex.Studio

/-- `StudioConnection.phase`. -/
inductive ConnectionPhase where
  | handshaking
  | serving
  | refusing
  | closed
  deriving DecidableEq

inductive StudioCancelCause where
  | cancelled
  | disconnect
  | lock
  | vexQuit
  deriving DecidableEq

/-- `StudioHandshakeRefusalCode`. -/
inductive HandshakeRefusalCode where
  | malformed
  | incompatibleVersion
  | unknownProject
  | locked
  | atCapacity
  deriving DecidableEq

inductive StudioHandshakeParse where
  | pending
  | refused (code : HandshakeRefusalCode)
  | accepted (projectId : String) (remainder : List UInt8)

/-- What `projectExists` answers. -/
inductive ProjectAnswer where
  | exists'
  | missing
  | failed
  deriving DecidableEq

/-- Where `establish` awaits. -/
inductive Establishing where
  /-- The project check, which has been answered when admission was not ready. -/
  | checking (projectId : String) (remainder : List UInt8) (locked : Bool)
  | sendingAck (projectId : String) (remainder : List UInt8)

/-- What happens to a connection, for what is said about its whole life. -/
inductive ConnectionAct where
  /-- An ack line is put in the outbound queue: it accepts, or refuses with a code. -/
  | ack (refusal : Option HandshakeRefusalCode)
  | claimed
  | released
  | refused
  /-- The closed latch is set. -/
  | latched
  /-- The admission it was accepted under is closed. -/
  | stale
  | serving
  /-- `onClosed`. -/
  | reported
  deriving DecidableEq

structure StudioConnection where
  /-- The admission epoch it was accepted under. -/
  epoch : Nat
  phase : ConnectionPhase
  buffered : List UInt8
  handshakeTimer : Bool
  /-- The handshake listener is attached. -/
  listening : Bool
  cause : StudioCancelCause
  disposed : Bool
  closedLatch : Bool
  /-- `slotRelease` is set. -/
  slotRelease : Bool
  /-- The project and the remainder that the entry serves. -/
  served : Option (String × List UInt8)
  outboundClosed : Bool
  wireDestroyed : Bool
  /-- The wire has raised `close`. -/
  wireClosed : Bool
  establishing : Option Establishing
  /-- `refuse` awaits its ack. -/
  refusalSending : Bool
  /-- `runDispose` awaits the entry's close. -/
  closingEntry : Bool
  /-- The host has it in its set. -/
  registered : Bool
  history : List ConnectionAct

def StudioConnection.construct (epoch : Nat) : StudioConnection where
  epoch := epoch
  phase := .handshaking
  buffered := []
  handshakeTimer := true
  listening := true
  cause := .disconnect
  disposed := false
  closedLatch := false
  slotRelease := false
  served := none
  outboundClosed := false
  wireDestroyed := false
  wireClosed := false
  establishing := none
  refusalSending := false
  closingEntry := false
  registered := true
  history := []

/-- The admission that the connection was accepted under is closed. -/
def StudioConnection.outdated (c : StudioConnection) : StudioConnection :=
  { c with history := c.history ++ [.stale] }

def StudioConnection.releaseActs (c : StudioConnection) : List ConnectionAct :=
  if c.slotRelease then [.released] else []

def StudioConnection.ackActs (c : StudioConnection) (refusal : Option HandshakeRefusalCode) :
    List ConnectionAct :=
  if c.outboundClosed then [] else [.ack refusal]

def studioMaxConnections : Nat := 16

structure ConnectionView where
  connection : StudioConnection
  reservedConnections : Nat

namespace ConnectionView

/-! ## Slots and acks -/

def change (v : ConnectionView) (f : StudioConnection → StudioConnection) : ConnectionView :=
  { v with connection := f v.connection }

def log (v : ConnectionView) (act : ConnectionAct) : ConnectionView :=
  v.change fun c => { c with history := c.history ++ [act] }

def reserveConnectionSlot (v : ConnectionView) : Option ConnectionView :=
  if studioMaxConnections ≤ v.reservedConnections then none
  else
    some ({ v with
      connection := { v.connection with slotRelease := true }
      reservedConnections := v.reservedConnections + 1 }.log .claimed)

/-- `releaseConnectionSlot`, which does nothing when there is no slot. -/
def releaseConnectionSlot (v : ConnectionView) : ConnectionView where
  connection := { v.connection with
    slotRelease := false
    history := v.connection.history ++ v.connection.releaseActs }
  reservedConnections := v.reservedConnections - v.connection.releaseActs.length

/-- `outbound.enqueue` of an ack, which a closed queue does not take. -/
def enqueueAck (v : ConnectionView) (refusal : Option HandshakeRefusalCode) : ConnectionView :=
  v.change fun c => { c with history := c.history ++ c.ackActs refusal }

/-! ## Teardown -/

/-- The end of `runDispose`. -/
def reportClosed (v : ConnectionView) : ConnectionView :=
  (v.change fun c => { c with wireDestroyed := true, registered := false }).log .reported

/-- `runDispose`, up to the entry's close. -/
def runDispose (v : ConnectionView) (cause : StudioCancelCause) : ConnectionView :=
  let v := (v.change fun c => { c with
    disposed := true
    closedLatch := true
    cause := cause
    phase := .closed }).log .latched
  let v := v.releaseConnectionSlot.change fun c => { c with
    handshakeTimer := false
    listening := false
    outboundClosed := true }
  match v.connection.served with
  | some _ => v.change fun c => { c with served := none, closingEntry := true }
  | none => v.reportClosed

/-- `dispose`: there is one teardown. -/
def dispose (v : ConnectionView) (cause : StudioCancelCause) : ConnectionView :=
  if v.connection.disposed then v else v.runDispose cause

/-- `runDispose`, from the entry's close. -/
def entryCloses (v : ConnectionView) : ConnectionView :=
  if v.connection.closingEntry then
    (v.change fun c => { c with closingEntry := false }).reportClosed
  else v

def destroyNow (v : ConnectionView) (cause : StudioCancelCause) : ConnectionView :=
  let v := (v.change fun c => { c with closedLatch := true, cause := cause }).log .latched
  v.releaseConnectionSlot.change fun c => { c with
    handshakeTimer := false
    outboundClosed := true
    wireDestroyed := true }

def handleSocketClose (v : ConnectionView) : ConnectionView :=
  (v.dispose v.connection.cause).change fun c => { c with wireClosed := true }

/-! ## Refusal -/

/-- `refuse`, up to the ack. -/
def refuse (v : ConnectionView) (code : HandshakeRefusalCode) : ConnectionView :=
  if v.connection.phase = .closed ∨ v.connection.phase = .refusing then v
  else
    let v := (v.change fun c => { c with
      phase := .refusing
      handshakeTimer := false
      listening := false
      buffered := [] }).log .refused
    (v.releaseConnectionSlot.enqueueAck (some code)).change fun c => { c with
      refusalSending := true }

/-- `refuse`, from the ack. -/
def refusalSettles (v : ConnectionView) : ConnectionView :=
  if v.connection.refusalSending then
    (v.change fun c => { c with refusalSending := false }).dispose .disconnect
  else v

def timerFires (v : ConnectionView) : ConnectionView :=
  if v.connection.handshakeTimer then
    let v := v.change fun c => { c with handshakeTimer := false }
    if v.connection.phase = .handshaking then v.refuse .malformed else v
  else v

/-! ## Establishment -/

def isOver (v : ConnectionView) (stale : Bool) : Bool :=
  v.connection.closedLatch || v.connection.disposed || stale

/-- `establish`, up to the project check, which asks for admission at once. -/
def establish (v : ConnectionView) (stale ready : Bool) (projectId : String)
    (remainder : List UInt8) : ConnectionView :=
  let v := v.change fun c => { c with handshakeTimer := false }
  if v.isOver stale then v.dispose v.connection.cause
  else v.change fun c => { c with establishing := some (.checking projectId remainder !ready) }

/-- The refusal of `checkProject`. -/
def projectRefusal (locked : Bool) (answer : ProjectAnswer) : Option HandshakeRefusalCode :=
  if locked then some .locked
  else if answer = .missing then some .unknownProject
  else none

/-- `establish`, from the project check to the ack. -/
def projectAnswers (v : ConnectionView) (stale : Bool) (answer : ProjectAnswer) :
    ConnectionView :=
  match v.connection.establishing with
  | some (.checking projectId remainder locked) =>
    let v := v.change fun c => { c with establishing := none }
    if v.isOver stale then v
    else
      match projectRefusal locked answer with
      | some code => v.refuse code
      | none => (v.enqueueAck none).change fun c => { c with
          establishing := some (.sendingAck projectId remainder) }
  | _ => v

/-- `establish`, from the ack. -/
def ackSettles (v : ConnectionView) (stale : Bool) : ConnectionView :=
  match v.connection.establishing with
  | some (.sendingAck projectId remainder) =>
    let v := v.change fun c => { c with establishing := none }
    if v.isOver stale then v.dispose v.connection.cause
    else
      let v := (v.change fun c => { c with
        phase := .serving
        served := some (projectId, remainder) }).log .serving
      if v.isOver stale then v.dispose v.connection.cause else v
  | _ => v

/-- `handleHandshakeData`, where the listener is attached. -/
def handleHandshakeData (parse : List UInt8 → StudioHandshakeParse) (v : ConnectionView)
    (stale ready : Bool) (chunk : List UInt8) : ConnectionView :=
  if ¬v.connection.listening then v
  else if v.connection.phase ≠ .handshaking then v
  else
    let v := v.change fun c => { c with buffered := c.buffered ++ chunk }
    match parse v.connection.buffered with
    | .pending => v
    | .refused code => v.refuse code
    | .accepted projectId remainder =>
      let v := v.change fun c => { c with listening := false, buffered := [] }
      match v.reserveConnectionSlot with
      | none => v.refuse .atCapacity
      | some v => v.establish stale ready projectId remainder

end ConnectionView

end Vex.Studio
