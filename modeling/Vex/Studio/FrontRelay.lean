import Vex.Bridge.Frames
import Mathlib.Data.List.Rotate

/-!
# Main's end of the relay

Main holds one record for each logical connection and owns the writer of plane 5 and the reader of
plane 6 for all of them. A consumer writes lines, which are cut into chunks and sent in turns
within a window; it is shown what arrives, and may pause.

The code runs to completion, but it calls the consumer in the middle: with data, with an edge, or
with the callback of a write. The consumer may do anything in such a call, also to other
connections. So the state keeps the callbacks that have not returned, each with what is left to do
when it does, and the microtasks that wait for all of them. What the relay did is kept in a log.
-/

namespace Vex.Studio

open Vex.Library
open Vex.Bridge

def frontChunkBytes : Nat := 32768

def frontCreditBytes : Nat := 65536

def frontMaxPendingWrites : Nat := 8

/-- The failures the relay reports through `onFatal`. -/
inductive FatalName where
  | unexpectedFrame
  | ackRegression
  | dataAfterEnd
  | creditOverrun
  deriving DecidableEq

inductive CloseReason where
  | destroy
  | peerClosed
  | lock
  | dispose
  | failure
  deriving DecidableEq

/-- `PendingWrite`. The object is told apart by which write of its connection it is. -/
structure PendingWrite where
  index : Nat
  chunks : List (List UInt8)
  sent : Nat
  lastSequence : Option Nat
  callback : Bool

inductive PendingItem where
  | data (write : PendingWrite)
  | «end»

def PendingItem.unsent : PendingItem → Nat
  | .data write => write.chunks.length - write.sent
  | .end => 1

def PendingWrite.coveredBy (write : PendingWrite) (ack : Nat) : Bool :=
  write.lastSequence.any fun sequence => sequence ≤ ack

def PendingItem.isWrite (index : Nat) : PendingItem → Bool
  | .data write => write.index = index
  | .end => false

structure UnackedChunk where
  sequence : Nat
  bytes : Nat
  deriving DecidableEq

/-- `RelayConnection`. The record outlives its place in the map of connections, for as long as a
callback of it runs; `listed` says whether it is there. -/
structure RelayConnection where
  listed : Bool
  grantedCredit : Nat
  paused : Bool
  held : List (List UInt8)
  readEnded : Bool
  writeEnded : Bool
  pending : List PendingItem
  unacked : List UnackedChunk
  outstanding : Nat
  lastAck : Nat
  awaitingAck : List PendingWrite
  blocking : Option Nat
  destroyed : Bool
  closeRaised : Bool
  pendingClose : Option Nat
  /-- How many writes were accepted. -/
  writes : Nat

/-- The record `handleOpen` makes. -/
def RelayConnection.new : RelayConnection where
  listed := true
  grantedCredit := 0
  paused := false
  held := []
  readEnded := false
  writeEnded := false
  pending := []
  unacked := []
  outstanding := 0
  lastAck := 0
  awaitingAck := []
  blocking := none
  destroyed := false
  closeRaised := false
  pendingClose := none
  writes := 0

inductive RelayEdge where
  | connection (id : Nat)
  | data (id : Nat) (bytes : List UInt8)
  | ended (id : Nat)
  | drain (id : Nat)
  /-- The close edge is raised, and reaches the consumer later. -/
  | closing (id : Nat) (reason : CloseReason)
  | closed (id : Nat)
  /-- A line was accepted from the consumer. -/
  | line (id index : Nat) (bytes : List UInt8)
  /-- A line that was queued could not be sent in full, and its `write` returned `false`. -/
  | blocked (id index : Nat)
  | finished (id : Nat)
  | sent (id sequence : Nat) (item : StreamItem UInt8)
  | settled (id index : Nat)
  | callback (id index : Nat)
  deriving DecidableEq

/-- What is left to do when a callback of the consumer returns. -/
inductive Continuation where
  | done
  /-- `handleData`: the bytes are granted again. -/
  | replenish (id bytes : Nat)
  /-- `resume`: the bytes are granted again, and the next held chunk is shown. -/
  | flush (id bytes : Nat)
  /-- `handleWriteDone`: the writes below an index are still to be settled. -/
  | settle (id ack remaining : Nat)

/-- What `queueMicrotask` was given. -/
inductive Microtask where
  | callback (id index : Nat)
  | close (id : Nat)

/-- `FrontRelay`, with the planes it writes and what its dependencies answer. -/
structure FrontRelay where
  /-- What `admissionEpoch` and `refuseBeforeRead` answer now. -/
  admissionEpoch : Nat
  refusal : Option (List UInt8)
  /-- The supervisor was asked to quit or has stopped, and no longer acts on `onFatal`. -/
  fatalIgnored : Bool
  /-- Frames on their way to the front. -/
  controlDown : List ControlDownFrame
  dataDown : List DataFrame
  dataDownSequence : Nat
  /-- `dataUpDelivered`. -/
  delivered : Nat
  connections : Nat → Option RelayConnection
  rotation : List Nat
  rotationCursor : Nat
  closed : Bool
  fatal : List FatalName
  log : List RelayEdge
  callbacks : List Continuation
  microtasks : List Microtask
  /-- An exception left the handler of a frame. -/
  threw : Bool

namespace FrontRelay

/-- The relay that `BOUND` makes. -/
def new (admissionEpoch : Nat) (refusal : Option (List UInt8)) : FrontRelay where
  admissionEpoch := admissionEpoch
  refusal := refusal
  fatalIgnored := false
  controlDown := []
  dataDown := []
  dataDownSequence := 1
  delivered := 0
  connections _ := none
  rotation := []
  rotationCursor := 0
  closed := false
  fatal := []
  log := []
  callbacks := []
  microtasks := []
  threw := false

def setConnection (r : FrontRelay) (id : Nat) (connection : RelayConnection) : FrontRelay :=
  { r with connections := Function.update r.connections id (some connection) }

def emit (r : FrontRelay) (edge : RelayEdge) : FrontRelay := { r with log := r.log ++ [edge] }

def call (r : FrontRelay) (continuation : Continuation) : FrontRelay :=
  { r with callbacks := continuation :: r.callbacks }

def queueMicrotask (r : FrontRelay) (task : Microtask) : FrontRelay :=
  { r with microtasks := r.microtasks ++ [task] }

def get (r : FrontRelay) (id : Nat) : Option RelayConnection :=
  (r.connections id).filter fun connection => connection.listed

def live (r : FrontRelay) (id : Nat) : Option RelayConnection :=
  (r.get id).filter fun connection => !connection.destroyed

def writeControl (r : FrontRelay) (id : Nat) (body : ControlDown) : FrontRelay :=
  { r with controlDown := r.controlDown ++ [(id, body)] }

def writeData (r : FrontRelay) (id : Nat) (item : StreamItem UInt8) : FrontRelay :=
  ({ r with
    dataDown := r.dataDown ++ [(id, r.dataDownSequence, item)]
    dataDownSequence := r.dataDownSequence + 1 }).emit (.sent id r.dataDownSequence item)

/-! ## Closing -/

def raiseClose (r : FrontRelay) (id : Nat) (connection : RelayConnection) (reason : CloseReason) :
    FrontRelay :=
  if connection.closeRaised then r.setConnection id connection
  else
    ((r.setConnection id { connection with closeRaised := true }).emit
      (.closing id reason)).queueMicrotask (.close id)

def finishClose (r : FrontRelay) (id : Nat) (connection : RelayConnection) : FrontRelay :=
  ({ r with
    rotation := r.rotation.filter fun other => other ≠ id
    rotationCursor := 0 }).raiseClose id { connection with pendingClose := none, listed := false }
      .peerClosed

/-- What `closeAll` and `destroy` leave of a connection's writes. -/
def cleared (connection : RelayConnection) : RelayConnection :=
  { connection with
    destroyed := true
    pending := []
    awaitingAck := []
    unacked := []
    blocking := none }

/-- The loop of `closeAll` over the connections, which the rotation lists in the map's order. -/
def closeOne (reason : CloseReason) (r : FrontRelay) (id : Nat) : FrontRelay :=
  match r.get id with
  | none => r
  | some connection => r.raiseClose id { cleared connection with listed := false } reason

def closeAll (r : FrontRelay) (reason : CloseReason) : FrontRelay :=
  if r.closed then r
  else
    { r.rotation.foldl (closeOne reason) { r with closed := true } with
      rotation := []
      rotationCursor := 0 }

/-- `onFatal`: the supervisor fails the front, which closes the relay. -/
def onFatal (r : FrontRelay) (failure : FatalName) : FrontRelay :=
  let r := { r with fatal := r.fatal ++ [failure] }
  if r.fatalIgnored then r else r.closeAll .failure

/-! ## Credit -/

def grantCredit (r : FrontRelay) (id bytes : Nat) : FrontRelay :=
  match r.connections id with
  | none => r
  | some connection =>
    let grant := min bytes (frontCreditBytes - connection.grantedCredit)
    if grant = 0 then r
    else
      (r.setConnection id { connection with
        grantedCredit := connection.grantedCredit + grant }).writeControl id (.credit grant)

def replenish (r : FrontRelay) (id consumed : Nat) : FrontRelay :=
  match r.connections id with
  | none => r
  | some connection =>
    if connection.paused ∨ connection.destroyed then r else r.grantCredit id consumed

/-! ## Sending -/

/-- `FrontRelay.writeOneChunk`: whether a frame went out. -/
def writeOneChunk (r : FrontRelay) (id : Nat) (connection : RelayConnection) : FrontRelay × Bool :=
  match connection.pending with
  | [] => (r, false)
  | .end :: rest => ((r.setConnection id { connection with pending := rest }).writeData id .fin, true)
  | .data head :: rest =>
    match head.chunks[head.sent]? with
    | none => (r, false)
    | some chunk =>
      if connection.outstanding + chunk.length > frontCreditBytes then (r, false)
      else
        let sequence := r.dataDownSequence
        let sent := { connection with
          unacked := connection.unacked ++ [UnackedChunk.mk sequence chunk.length]
          outstanding := connection.outstanding + chunk.length }
        let connection :=
          if head.sent + 1 = head.chunks.length then
            { sent with
              pending := rest
              awaitingAck := connection.awaitingAck ++
                [{ head with sent := head.sent + 1, lastSequence := some sequence }] }
          else { sent with pending := .data { head with sent := head.sent + 1 } :: rest }
        ((r.setConnection id connection).writeData id (.chunk chunk), true)

/-- One turn of a connection in `pump`. -/
def pumpOne (state : FrontRelay × Bool) (id : Nat) : FrontRelay × Bool :=
  match state.1.live id with
  | none => state
  | some connection =>
    let (r, wrote) := state.1.writeOneChunk id connection
    (r, state.2 || wrote)

/-- One round of `pump`, from where the cursor stands. -/
def pumpRound (r : FrontRelay) : FrontRelay × Bool :=
  let (next, wrote) := (r.rotation.rotate r.rotationCursor).foldl pumpOne (r, false)
  ({ next with
    rotationCursor := if r.rotation.length = 0 then 0
      else (r.rotationCursor + 1) % r.rotation.length }, wrote)

/-- The rounds of `pump`, until one writes nothing. -/
def pumpRounds : Nat → FrontRelay → FrontRelay
  | 0, r => r
  | fuel + 1, r =>
    let (r, wrote) := r.pumpRound
    if wrote then pumpRounds fuel r else r

/-- The frames that are still to be sent for a connection. -/
def unsent (r : FrontRelay) (id : Nat) : Nat :=
  match r.live id with
  | none => 0
  | some connection => (connection.pending.map PendingItem.unsent).sum

/-- `FrontRelay.pump`. A round that writes sends a frame, so there are no more rounds than that. -/
def pump (r : FrontRelay) : FrontRelay :=
  if r.closed then r else pumpRounds ((r.rotation.map r.unsent).sum + 1) r

/-! ## Plane 4 -/

def handleOpen (r : FrontRelay) (id : Nat) : FrontRelay :=
  match r.get id with
  | some _ => r.onFatal .unexpectedFrame
  | none =>
    match r.refusal with
    | some bytes => r.writeControl id (.refuse bytes)
    | none =>
      let r := { r.setConnection id .new with rotation := r.rotation ++ [id] }
      (((r.writeControl id (.admission r.admissionEpoch)).grantCredit id
        frontCreditBytes).emit (.connection id)).call .done

def maybeDrain (r : FrontRelay) (id : Nat) : FrontRelay :=
  match r.connections id with
  | none => r
  | some connection =>
    if connection.blocking ≠ none ∨ connection.destroyed ∨ connection.closeRaised ∨
        connection.pending ≠ [] ∨ connection.outstanding ≥ frontCreditBytes then r
    else (r.emit (.drain id)).call .done

/-- The loop of `handleWriteDone` over `awaitingAck`, from its end, and what follows it. A
callback may have emptied the list, and then there is no write at the index. -/
def settleFrom (id ack : Nat) : Nat → FrontRelay → FrontRelay
  | 0, r => r.pump.maybeDrain id
  | index + 1, r =>
    match r.connections id with
    | none => r
    | some connection =>
      match connection.awaitingAck[index]? with
      | none => { r with threw := true }
      | some write =>
        if write.coveredBy ack then
          let settled := (r.setConnection id { connection with
            awaitingAck := connection.awaitingAck.eraseIdx index
            blocking := if connection.blocking = some write.index then none
              else connection.blocking }).emit (.settled id write.index)
          if write.callback then
            (settled.emit (.callback id write.index)).call (.settle id ack index)
          else settleFrom id ack index settled
        else settleFrom id ack index r

/-- The loop of `handleWriteDone` over `unacked`, with `outstanding`. -/
def releaseUnacked (ack : Nat) : List UnackedChunk → Nat → List UnackedChunk × Nat
  | [], outstanding => ([], outstanding)
  | head :: rest, outstanding =>
    if head.sequence > ack then (head :: rest, outstanding)
    else releaseUnacked ack rest (outstanding - head.bytes)

def handleWriteDone (r : FrontRelay) (id ack : Nat) : FrontRelay :=
  match r.live id with
  | none => r
  | some connection =>
    if ack < connection.lastAck then r.onFatal .ackRegression
    else if ack > (connection.unacked.getLast?.map UnackedChunk.sequence).getD
        connection.lastAck then
      r.onFatal .ackRegression
    else
      let (unacked, outstanding) :=
        releaseUnacked ack connection.unacked connection.outstanding
      settleFrom id ack connection.awaitingAck.length (r.setConnection id { connection with
        lastAck := ack
        unacked := unacked
        outstanding := outstanding })

def handlePeerClosed (r : FrontRelay) (id through : Nat) : FrontRelay :=
  match r.get id with
  | none => r
  | some connection =>
    let waiting := { connection with pendingClose := some through }
    if r.delivered ≥ through then r.finishClose id waiting else r.setConnection id waiting

/-- `FrontRelay.handleControlFrame`, for the frames that the supervisor routes to the relay. -/
def handleControlFrame (r : FrontRelay) (id : Nat) (body : ControlUp) : FrontRelay :=
  if r.closed then r
  else
    match body with
    | .open => r.handleOpen id
    | .writeDone ackThroughSequence => r.handleWriteDone id ackThroughSequence
    | .peerClosed _ throughDataSequence => r.handlePeerClosed id throughDataSequence
    | _ => r.onFatal .unexpectedFrame

/-! ## Plane 6 -/

def handleData (r : FrontRelay) (id : Nat) (payload : List UInt8) : FrontRelay :=
  match r.live id with
  | none => r
  | some connection =>
    if connection.readEnded then r.onFatal .dataAfterEnd
    else if payload.length > connection.grantedCredit then r.onFatal .creditOverrun
    else
      let charged := { connection with
        grantedCredit := connection.grantedCredit - payload.length }
      if connection.paused then
        r.setConnection id { charged with held := connection.held ++ [payload] }
      else
        ((r.setConnection id charged).emit (.data id payload)).call (.replenish id payload.length)

def handleEnd (r : FrontRelay) (id : Nat) : FrontRelay :=
  match r.live id with
  | none => r
  | some connection =>
    if connection.readEnded then r.onFatal .dataAfterEnd
    else ((r.setConnection id { connection with readEnded := true }).emit (.ended id)).call .done

def handleDataFrame (r : FrontRelay) (id : Nat) (item : StreamItem UInt8) : FrontRelay :=
  if r.closed then r
  else
    match item with
    | .chunk payload => r.handleData id payload
    | .fin => r.handleEnd id

/-- The loop of `afterDataBatch`. -/
def closeDelivered (r : FrontRelay) (id : Nat) : FrontRelay :=
  match r.get id with
  | none => r
  | some connection =>
    match connection.pendingClose with
    | none => r
    | some through => if r.delivered ≥ through then r.finishClose id connection else r

def afterDataBatch (r : FrontRelay) : FrontRelay :=
  if r.closed then r else r.rotation.foldl closeDelivered r

/-! ## The consumer -/

/-- The chunks of a line, none larger than a frame may carry. -/
def chunksFrom : Nat → List UInt8 → List (List UInt8)
  | 0, _ => []
  | fuel + 1, line =>
    if line = [] then []
    else line.take frontChunkBytes :: chunksFrom fuel (line.drop frontChunkBytes)

/-- The loop of `write` that cuts an encoded line. -/
def chunksOf (line : List UInt8) : List (List UInt8) := chunksFrom line.length line

/-- `FrontRelay.write` of an encoded line: the state after it and what it returns. -/
def write (r : FrontRelay) (id : Nat) (line : List UInt8) (callback : Bool) : FrontRelay × Bool :=
  match r.live id with
  | none => (r, false)
  | some connection =>
    if connection.writeEnded then (r, false)
    else
      let index := connection.writes
      if line = [] then
        let accepted := (r.setConnection id { connection with writes := index + 1 }).emit
          (.line id index [])
        (if callback then accepted.queueMicrotask (.callback id index) else accepted, true)
      else
        let queued := connection.pending ++ [.data ⟨index, chunksOf line, 0, none, callback⟩]
        let accepted := (r.setConnection id { connection with
          writes := index + 1
          pending := queued }).emit (.line id index line)
        if queued.length > frontMaxPendingWrites then (accepted.onFatal .unexpectedFrame, false)
        else
          let pumped := accepted.pump
          match pumped.connections id with
          | none => (pumped, false)
          | some connection =>
            if connection.pending.any (PendingItem.isWrite index) then
              ((pumped.setConnection id { connection with blocking := some index }).emit
                (.blocked id index), false)
            else (pumped, true)

def end_ (r : FrontRelay) (id : Nat) : FrontRelay :=
  match r.live id with
  | none => r
  | some connection =>
    if connection.writeEnded then r
    else
      ((r.setConnection id { connection with
        writeEnded := true
        pending := connection.pending ++ [.end] }).emit (.finished id)).pump

def destroy (r : FrontRelay) (id : Nat) : FrontRelay :=
  match r.live id with
  | none => r
  | some connection =>
    (r.writeControl id .close).raiseClose id { cleared connection with outstanding := 0 } .destroy

def pause (r : FrontRelay) (id : Nat) : FrontRelay :=
  match r.live id with
  | none => r
  | some connection =>
    if connection.paused then r
    else (r.setConnection id { connection with paused := true }).writeControl id .pause

/-- The loop of `resume`, up to the next call of the consumer. -/
def flushHeld (r : FrontRelay) (id : Nat) : FrontRelay :=
  match r.connections id with
  | none => r
  | some connection =>
    match connection.held with
    | [] => r
    | chunk :: rest =>
      if connection.paused then r
      else
        ((r.setConnection id { connection with held := rest }).emit (.data id chunk)).call
          (.flush id chunk.length)

def resume (r : FrontRelay) (id : Nat) : FrontRelay :=
  match r.live id with
  | none => r
  | some connection =>
    if ¬connection.paused then r
    else
      ((r.setConnection id { connection with paused := false }).writeControl id .resume).flushHeld
        id

/-- The innermost callback returns, and the code that called it goes on. -/
def callbackReturns (r : FrontRelay) : FrontRelay :=
  match r.callbacks with
  | [] => r
  | continuation :: rest =>
    let r := { r with callbacks := rest }
    match continuation with
    | .done => r
    | .replenish id bytes => r.replenish id bytes
    | .flush id bytes => (r.replenish id bytes).flushHeld id
    | .settle id ack remaining => settleFrom id ack remaining r

def runMicrotask (r : FrontRelay) : FrontRelay :=
  match r.microtasks with
  | [] => r
  | .callback id index :: rest => (({ r with microtasks := rest }).emit (.callback id index)).call .done
  | .close id :: rest => (({ r with microtasks := rest }).emit (.closed id)).call .done

end FrontRelay

end Vex.Studio
