import Vex.Studio.Connection
import Vex.Library.Runs

/-!
# The host of the connections

Admission, which a lock or a quit closes and whose epoch it advances, and the connections the host
has accepted. An accept constructs the connection and refuses it in the same turn when admission is
not ready or too many handshakes are pending. A lock closes admission and destroys every connection
in its set in one turn; a quit closes admission first, and destroys them later.
-/

namespace Vex.Studio

open Vex.Library

def studioMaxHandshakePending : Nat := 4

def studioAdmissionEpochMax : Nat := 0xffffffff

/-- The host: its admission, its readiness, its reservations and its connections, in the order of
their accepts. -/
structure StudioHost where
  locked : Bool
  epoch : Nat
  permanentlyClosed : Bool
  /-- `studioReadiness().ready`. -/
  readiness : Bool
  reservedConnections : Nat
  connections : List StudioConnection

inductive HostEvent where
  | accepts
  | chunk (index : Nat) (bytes : List UInt8)
  | timerFires (index : Nat)
  | projectAnswers (index : Nat) (answer : ProjectAnswer)
  | ackSettles (index : Nat)
  | refusalSettles (index : Nat)
  | entryCloses (index : Nat)
  /-- A call of `dispose`: by the host, by the overflow of the queue, or by the failure of the
  entry. -/
  | disposes (index : Nat) (cause : StudioCancelCause)
  | wireCloses (index : Nat)
  | wireErrors (index : Nat)
  | lock (cause : StudioCancelCause)
  | quitBegins
  | quitDestroys
  | unlock
  | readiness (ready : Bool)

namespace StudioHost

/-- A host before the first unlock. -/
def initial : StudioHost where
  locked := true
  epoch := 0
  permanentlyClosed := false
  readiness := false
  reservedConnections := 0
  connections := []

/-- `studioAdmission().state === "ready"`. -/
def ready (h : StudioHost) : Bool := !h.locked && h.readiness

def isStale (h : StudioHost) (c : StudioConnection) : Bool := c.epoch != h.epoch || h.locked

def update (h : StudioHost) (index : Nat)
    (f : StudioConnection → ConnectionView → ConnectionView) : StudioHost :=
  match h.connections[index]? with
  | none => h
  | some c =>
    let v := f c ⟨c, h.reservedConnections⟩
    { h with
      connections := h.connections.set index v.connection
      reservedConnections := v.reservedConnections }

/-- `closeStudioAdmission`. The connections there are belong to an admission that is closed. -/
def closeStudioAdmission (h : StudioHost) : StudioHost :=
  let h : StudioHost :=
    { h with locked := true, connections := h.connections.map StudioConnection.outdated }
  if studioAdmissionEpochMax ≤ h.epoch then { h with permanentlyClosed := true }
  else { h with epoch := h.epoch + 1 }

def openStudioAdmission (h : StudioHost) : StudioHost :=
  if h.permanentlyClosed then h else { h with locked := false }

/-- `destroyNow` of the connections of the set that are given. -/
def destroyEach (cause : StudioCancelCause) (h : StudioHost) (indices : List Nat) : StudioHost :=
  run (fun h index => h.update index fun c v => if c.registered then v.destroyNow cause else v)
    h indices

/-- `destroyNow` of every connection of the set. -/
def destroyAll (h : StudioHost) (cause : StudioCancelCause) : StudioHost :=
  h.destroyEach cause (List.range h.connections.length)

/-- The connections of the set that are in their handshake. -/
def pending (h : StudioHost) : Nat :=
  (h.connections.filter fun c => c.registered && c.phase == .handshaking).length

def handleConnection (h : StudioHost) : StudioHost :=
  let index := h.connections.length
  let h := { h with connections := h.connections ++ [.construct h.epoch] }
  if ¬h.ready then h.update index fun _ v => v.refuse .locked
  else if studioMaxHandshakePending < h.pending then
    h.update index fun _ v => v.refuse .atCapacity
  else h

def step (parse : List UInt8 → StudioHandshakeParse) (h : StudioHost) : HostEvent → StudioHost
  | .accepts => h.handleConnection
  | .chunk index bytes =>
    h.update index fun c v => v.handleHandshakeData parse (h.isStale c) h.ready bytes
  | .timerFires index => h.update index fun _ v => v.timerFires
  | .projectAnswers index answer => h.update index fun c v => v.projectAnswers (h.isStale c) answer
  | .ackSettles index => h.update index fun c v => v.ackSettles (h.isStale c)
  | .refusalSettles index => h.update index fun _ v => v.refusalSettles
  | .entryCloses index => h.update index fun _ v => v.entryCloses
  | .disposes index cause => h.update index fun _ v => v.dispose cause
  | .wireCloses index => h.update index fun _ v => v.handleSocketClose
  -- The cause of the close is noted.
  | .wireErrors _ => h
  | .lock cause => h.closeStudioAdmission.destroyAll cause
  | .quitBegins => h.closeStudioAdmission
  | .quitDestroys => h.destroyAll .vexQuit
  | .unlock => h.openStudioAdmission
  | .readiness ready => { h with readiness := ready }

end StudioHost

end Vex.Studio
