import Vex.Studio.FrontRelay
import Vex.Library.Runs

/-!
# Main's supervisor of the front

The supervisor spawns the front, takes it through its bring-up, and gives the relay the frames that
name connections. A lock closes the relay and sends `LOCK`; `LOCK_ACK` puts the supervisor back to
serving, with the same front and the same relay. A relay that was closed stays closed.

So the relay answers what the front opens in every run in which no lock is requested while there is
a relay, and after a lock cycle it does not.
-/

namespace Vex.Studio

open Vex.Library
open Vex.Bridge

inductive FrontSupervisorState where
  | idle
  | starting
  | serving
  | locking
  | quitting
  | stopped
  | failed
  deriving DecidableEq

inductive FrontFailureName where
  | binaryUnavailable
  | unsupportedPlatform
  | spawnFailed
  | childExit
  | planeEof
  | planeIoError
  | malformedFrame
  | helloAckVersion
  | helloAckPid
  | helloAckGenerationReused
  | unexpectedFrame
  | boundPipeName
  | boundFlagsUnconfirmed
  | sddlReadbackMismatch
  | admissionEpochExhausted
  | frontError
  | lockAckTimeout
  | lockBeforeHelloAck
  | creditOverrun
  | dataAfterEnd
  | ackRegression
  | restartBudgetExhausted
  deriving DecidableEq

/-- `frontFailureIsRestartable`. -/
def FrontFailureName.isRestartable : FrontFailureName → Bool
  | .binaryUnavailable => false
  | .unsupportedPlatform => false
  | .helloAckVersion => false
  | .boundFlagsUnconfirmed => false
  | .boundPipeName => false
  | .sddlReadbackMismatch => false
  | .admissionEpochExhausted => false
  | .restartBudgetExhausted => false
  | _ => true

def FatalName.failure : FatalName → FrontFailureName
  | .unexpectedFrame => .unexpectedFrame
  | .ackRegression => .ackRegression
  | .dataAfterEnd => .dataAfterEnd
  | .creditOverrun => .creditOverrun

def frontMaxRestarts : Nat := 5

structure LiveChild where
  acked : Bool
  bound : Bool
  settled : Bool
  /-- The frames on plane 3, until the relay has the plane. -/
  controlDown : List ControlDownFrame

/-- `FrontSupervisor`, with what its dependencies answer. -/
structure FrontSupervisor where
  /-- What `admissionEpoch` and `refuseBeforeRead` answer now. -/
  admissionEpoch : Nat
  refusal : Option (List UInt8)
  state : FrontSupervisorState
  failureName : Option FrontFailureName
  live : Option LiveChild
  relay : Option FrontRelay
  restartCount : Nat
  quitRequested : Bool

/-- A frame of plane 4. What `validateFrontHelloAck` and `validateFrontBound` find wrong with a
frame of the bootstrap comes with it. -/
inductive SupervisorFrame where
  | helloAck (wrong : Option FrontFailureName)
  | bound (wrong : Option FrontFailureName)
  | control (connection : Nat) (body : ControlUp)

inductive ConsumerCall where
  | write (id : Nat) (line : List UInt8) (callback : Bool)
  | «end» (id : Nat)
  | destroy (id : Nat)
  | pause (id : Nat)
  | resume (id : Nat)

def FrontRelay.callOf (r : FrontRelay) : ConsumerCall → FrontRelay
  | .write id line callback => (r.write id line callback).1
  | .end id => r.end_ id
  | .destroy id => r.destroy id
  | .pause id => r.pause id
  | .resume id => r.resume id

inductive SupervisorOp where
  /-- A child is spawned, by the start or by a restart. -/
  | spawn
  | frame (frame : SupervisorFrame)
  | data (connection : Nat) (item : StreamItem UInt8)
  | dataBatchEnds (delivered : Nat)
  | lock
  | lockAckTimeout
  | quit (deadlineMs : Nat)
  | dispose
  /-- The child is lost: it exits, a plane ends or fails, a frame does not parse, or the bring-up
  takes too long. -/
  | lost (failure : FrontFailureName)
  /-- The child exits because its parent is gone. -/
  | parentDeath
  /-- The gate of the host changes: a lock closes it and raises the epoch, an unlock opens it. -/
  | gate (admissionEpoch : Nat) (refusal : Option (List UInt8))
  | consumer (call : ConsumerCall)
  | callbackReturns
  | microtask

namespace FrontSupervisor

def initial (admissionEpoch : Nat) (refusal : Option (List UInt8)) : FrontSupervisor where
  admissionEpoch := admissionEpoch
  refusal := refusal
  state := .idle
  failureName := none
  live := none
  relay := none
  restartCount := 0
  quitRequested := false

/-- `FrontSupervisor.fail`, for a signal of the current child. The relay is given up, closed. -/
def fail (s : FrontSupervisor) (failure : FrontFailureName) : FrontSupervisor :=
  if s.live.any LiveChild.settled then s
  else if s.state = .stopped ∨ s.quitRequested then
    { s with live := s.live.map fun live => { live with settled := true } }
  else if ¬failure.isRestartable then
    { s with relay := none, live := none, state := .failed, failureName := some failure }
  else if s.restartCount ≤ frontMaxRestarts then
    { s with relay := none, live := none, state := .starting, restartCount := s.restartCount + 1 }
  else
    { s with
      relay := none
      live := none
      state := .failed
      failureName := some .restartBudgetExhausted }

def failCurrent (s : FrontSupervisor) (failure : FrontFailureName) : FrontSupervisor :=
  if s.live = none then s else s.fail failure

/-- The relay does something, and the supervisor acts on what it reports. -/
def relayDoes (s : FrontSupervisor) (act : FrontRelay → FrontRelay) : FrontSupervisor :=
  match s.relay with
  | none => s
  | some relay =>
    let after := act relay
    let s := { s with relay := some after }
    match after.fatal.drop relay.fatal.length with
    | [] => s
    | failure :: _ => s.failCurrent failure.failure

/-- `planes.writeControl` of the supervisor. -/
def writeControl (s : FrontSupervisor) (body : ControlDown) : FrontSupervisor :=
  match s.relay with
  | some relay => { s with relay := some (relay.writeControl 0 body) }
  | none =>
    { s with live := s.live.map fun live =>
      { live with controlDown := live.controlDown ++ [(0, body)] } }

def spawnOnce (s : FrontSupervisor) : FrontSupervisor :=
  if s.live.isSome then s
  else
    { s with
      state := .starting
      failureName := none
      live := some ⟨false, false, false, [(0, .hello)]⟩ }

def lock (s : FrontSupervisor) : FrontSupervisor :=
  let s : FrontSupervisor := { s with relay := s.relay.map fun relay => relay.closeAll .lock }
  match s.live with
  | none => s
  | some live =>
    if s.state = .stopped ∨ s.state = .failed then s
    else
      let s := { s with state := .locking }
      if ¬live.acked then s.failCurrent .lockBeforeHelloAck
      else s.writeControl (.lock s.admissionEpoch)

def dispose (s : FrontSupervisor) : FrontSupervisor :=
  { s with
    relay := none
    live := none
    state := if s.state = .failed then .failed else .stopped }

/-- `FrontSupervisor.quit`, up to its wait for `QUIT_ACK`. -/
def quit (s : FrontSupervisor) (deadlineMs : Nat) : FrontSupervisor :=
  let s : FrontSupervisor := { s with
    quitRequested := true
    relay := s.relay.map fun relay => { relay with fatalIgnored := true } }
  match s.live with
  | none => { s with state := .stopped }
  | some live =>
    let s := { s with state := .quitting }
    if live.acked then s.writeControl (.quit deadlineMs) else s.dispose

def handleErrorFrame (s : FrontSupervisor) : ErrorCode → FrontSupervisor
  | .sddlReadbackMismatch => s.failCurrent .sddlReadbackMismatch
  | .admissionEpochExhausted => s.failCurrent .admissionEpochExhausted
  | _ => s

def handleControlFrame (s : FrontSupervisor) (frame : SupervisorFrame) : FrontSupervisor :=
  match s.live with
  | none => s
  | some live =>
    match frame with
    | .helloAck wrong =>
      if live.acked then s.failCurrent .unexpectedFrame
      else
        match wrong with
        | some failure => s.failCurrent failure
        | none => { s with live := some { live with acked := true } }
    | .bound wrong =>
      if ¬live.acked ∨ live.bound then s.failCurrent .unexpectedFrame
      else
        match wrong with
        | some failure => s.failCurrent failure
        | none =>
          let relay := FrontRelay.new s.admissionEpoch s.refusal
          { s with
            live := some { live with bound := true }
            relay := some { relay with
              controlDown := live.controlDown
              fatalIgnored := s.quitRequested || live.settled }
            state := .serving }
    | .control connection body =>
      match body with
      | .lockAck _ _ => if s.state = .locking then { s with state := .serving } else s
      | .quitAck => s
      | .pong _ => s
      | .error code _ => s.handleErrorFrame code
      | body =>
        if s.relay = none then s.failCurrent .unexpectedFrame
        else s.relayDoes fun relay => relay.handleControlFrame connection body

def handleDataFrame (s : FrontSupervisor) (connection : Nat) (item : StreamItem UInt8) :
    FrontSupervisor :=
  if s.relay = none then s.failCurrent .unexpectedFrame
  else s.relayDoes fun relay => relay.handleDataFrame connection item

def step (s : FrontSupervisor) : SupervisorOp → FrontSupervisor
  | .spawn => s.spawnOnce
  | .frame frame => s.handleControlFrame frame
  | .data connection item => s.handleDataFrame connection item
  | .dataBatchEnds delivered =>
    s.relayDoes fun relay => { relay with delivered := delivered }.afterDataBatch
  | .lock => s.lock
  | .lockAckTimeout => s.failCurrent .lockAckTimeout
  | .quit deadlineMs => s.quit deadlineMs
  | .dispose => s.dispose
  | .lost failure => s.failCurrent failure
  | .parentDeath =>
    { s with
      state := .stopped
      relay := s.relay.map fun relay => { relay with fatalIgnored := true } }
  | .gate admissionEpoch refusal =>
    { s with
      admissionEpoch := admissionEpoch
      refusal := refusal
      relay := s.relay.map fun relay =>
        { relay with admissionEpoch := admissionEpoch, refusal := refusal } }
  | .consumer call => s.relayDoes fun relay => relay.callOf call
  | .callbackReturns => s.relayDoes FrontRelay.callbackReturns
  | .microtask => s.relayDoes FrontRelay.runMicrotask

end FrontSupervisor

end Vex.Studio
