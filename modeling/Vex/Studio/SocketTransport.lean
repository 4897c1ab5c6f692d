import Vex.Library.JsString
import Vex.Library.Lines
import Vex.Library.Runs

/-!
# The transport of a connection

The transport frames both directions of one wire. What the peer sends is cut into lines, every line
is one JSON object, and the objects are queued and given to the consumer one in each macrotask. The
end of what the peer sends starts a drain: the wire is ended and destroyed once nothing is queued and
every request that was given to the consumer is answered, or at a deadline.

The transport is driven by events that come in any order. A callback of the transport that calls the
consumer is two events, and what happens while the consumer runs comes between them; so is a write,
whose promise is resolved before the callbacks on it run.

`JSON.parse` and the decoding of UTF-8 are a parameter: what a line is parsed to, if it can be.
-/

namespace Vex.Studio

open Vex.Library

/-- A JSON value. A number is given by its text, as `String` has it. -/
inductive JsonValue where
  | null
  | boolean (value : Bool)
  | number (text : JsString)
  | string (text : JsString)
  | array (items : List JsonValue)
  | object (fields : List (JsString × JsonValue))

namespace JsonValue

def readRecordField (value : JsonValue) (field : JsString) : Option JsonValue :=
  match value with
  | .object fields => (fields.find? fun entry => entry.1 = field).map Prod.snd
  | _ => none

def isJsonRpcEnvelope : JsonValue → Bool
  | .object _ => true
  | _ => false

/-- `typeof value === "string"`, of a field that may be absent. -/
def isString : Option JsonValue → Bool
  | some (.string _) => true
  | _ => false

def requestIdKey : Option JsonValue → Option JsString
  | some (.number text) => some (JsString.ofString "n:" ++ text)
  | some (.string text) => some (JsString.ofString "s:" ++ text)
  | _ => none

def jsonRpcRequestKey (message : JsonValue) : Option JsString :=
  if isString (message.readRecordField (JsString.ofString "method")) then
    requestIdKey (message.readRecordField (JsString.ofString "id"))
  else none

def jsonRpcResponseKey (message : JsonValue) : Option JsString :=
  if isString (message.readRecordField (JsString.ofString "method")) then none
  else requestIdKey (message.readRecordField (JsString.ofString "id"))

end JsonValue

inductive InvalidJsonReason where
  | unparseable
  | notAnObject
  deriving DecidableEq

inductive SocketTransportFailure where
  | lineTooLong (bytes : Nat)
  | invalidJson (reason : InvalidJsonReason)
  | queueOverflow (queued : Nat)
  | socketError (message : JsString)

/-- What a transport did, and what it was told that bears on it. -/
inductive TransportAct where
  /-- A message joined the queue. -/
  | queued (message : JsonValue)
  /-- A message was given to `onmessage`. -/
  | delivered (message : JsonValue)
  /-- The answer to the requests with a key was given to `send`. -/
  | answered (key : JsString)
  /-- The line of a call of `send` was given to the writer. -/
  | passed (frame : Nat)
  /-- The promise of the writer for that line was resolved or rejected. -/
  | written (frame : Nat)
  /-- The peer ended its side. -/
  | peerEnded
  /-- The drain reached its deadline. -/
  | deadline
  /-- `onFailure` was called. -/
  | failure (failure : SocketTransportFailure)
  /-- The wire was ended. -/
  | endWire
  /-- The wire was destroyed. -/
  | destroyWire
  /-- `onclose` was called. -/
  | announced

/-- `StudioSocketTransport`, with what it reads of its wire. `delivering` is the key of the message
the consumer was given and has not returned from, `sends` are the frames whose promise is open and
`callbacks` those whose promise is resolved and whose callbacks have not run. `announcing` is a
framing error that is being written. `received` is what the wire raised, and `history` what was
done, oldest first. -/
structure StudioSocketTransport where
  maxLineBytes : Nat
  maxQueuedMessages : Nat
  inbound : List UInt8
  queue : List JsonValue
  draining : Bool
  started : Bool
  closeAnnounced : Bool
  closing : Bool
  failed : Bool
  readingPaused : Bool
  shutdownTimer : Bool
  peerEnded : Bool
  drainTimer : Bool
  outstandingRequests : List JsString
  destroyed : Bool
  writableEnded : Bool
  wireClosed : Bool
  delivering : Option (Option JsString)
  frames : Nat
  sends : List Nat
  callbacks : List Nat
  announcing : Bool
  received : List UInt8
  history : List TransportAct

inductive TransportEvent where
  /-- The consumer calls `start`. -/
  | start
  /-- The wire raises `data`. -/
  | data (chunk : List UInt8)
  /-- The wire raises `error`. -/
  | error (message : JsString)
  /-- The wire raises `end`, or the owner calls `notifyPeerEnd`. -/
  | peerEnd
  /-- The wire raises `close`. -/
  | wireClose
  /-- The scheduled callback runs, up to the call of `onmessage`. -/
  | immediate
  /-- `onmessage` returns, or throws. -/
  | returned (threw : Bool)
  /-- The consumer calls `send`. -/
  | send (message : JsonValue)
  /-- The promise of the writer for a frame is resolved or rejected. -/
  | wrote (frame : Nat)
  /-- The callbacks on that promise run. -/
  | settled (frame : Nat)
  /-- The framing error is written, or its write is given up. -/
  | framed
  /-- The consumer or the owner calls `close`. -/
  | close
  /-- The timer of `close` fires. -/
  | shutdownDeadline
  /-- The timer of the drain fires. -/
  | drainDeadline
  /-- Another party destroys the wire. -/
  | wireDestroyed
  /-- Another party ends the writable side. -/
  | wireEnded

namespace StudioSocketTransport

abbrev newline : UInt8 := 0x0a

/-- `constructor`, over a wire that may be gone already. -/
def construct (maxLineBytes maxQueuedMessages : Nat) (remainder : List UInt8)
    (destroyed writableEnded : Bool) : StudioSocketTransport where
  maxLineBytes := maxLineBytes
  maxQueuedMessages := maxQueuedMessages
  inbound := remainder
  queue := []
  draining := false
  started := false
  closeAnnounced := false
  closing := false
  failed := false
  readingPaused := false
  shutdownTimer := false
  peerEnded := false
  drainTimer := false
  outstandingRequests := []
  destroyed := destroyed
  writableEnded := writableEnded
  wireClosed := false
  delivering := none
  frames := 0
  sends := []
  callbacks := []
  announcing := false
  received := remainder
  history := []

def log (t : StudioSocketTransport) (act : TransportAct) : StudioSocketTransport :=
  { t with history := t.history ++ [act] }

/-! ## Teardown -/

def announceClose (t : StudioSocketTransport) : StudioSocketTransport :=
  if t.closeAnnounced then t
  else { t with closeAnnounced := true, queue := [] }.log .announced

/-- `wire.destroy()`, unless it is destroyed. -/
def destroyWire (t : StudioSocketTransport) : StudioSocketTransport :=
  if t.destroyed then t else { t with destroyed := true }.log .destroyWire

/-- `wire.end()`. -/
def endWire (t : StudioSocketTransport) : StudioSocketTransport :=
  { t with writableEnded := true }.log .endWire

def destroyNow (t : StudioSocketTransport) : StudioSocketTransport :=
  { t with closing := true, shutdownTimer := false, drainTimer := false }.destroyWire.announceClose

def finishAfterDrain (t : StudioSocketTransport) : StudioSocketTransport :=
  let t := { t with drainTimer := false }
  if t.closeAnnounced then t
  else
    let t := { t with closing := true }
    let t := if !t.destroyed && !t.writableEnded then t.endWire else t
    t.destroyWire.announceClose

def settleIfDrained (t : StudioSocketTransport) : StudioSocketTransport :=
  if !t.peerEnded then t
  else if t.draining || 0 < t.queue.length then t
  else if 0 < t.outstandingRequests.length then t
  else t.finishAfterDrain

/-- `finish`, in `close`. -/
def finish (t : StudioSocketTransport) : StudioSocketTransport :=
  { t with shutdownTimer := false, drainTimer := false }.destroyWire.announceClose

def close (t : StudioSocketTransport) : StudioSocketTransport :=
  if t.closing then t
  else
    let t := { t with closing := true }
    if t.destroyed then t.finish else { t with shutdownTimer := true }.endWire

/-- `failFraming`. The error is written in the background, unless the wire is gone. -/
def failFraming (t : StudioSocketTransport) (failure : SocketTransportFailure) :
    StudioSocketTransport :=
  if t.failed then t
  else
    let t := { t with failed := true }.log (.failure failure)
    if t.destroyed || t.writableEnded then t.destroyNow else { t with announcing := true }

/-! ## What the peer sends -/

def scheduleDrain (t : StudioSocketTransport) : StudioSocketTransport := { t with draining := true }

/-- What a line is: nothing, a message, or a failure of framing. -/
inductive LineReading where
  | blank
  | message (message : JsonValue)
  | failure (failure : SocketTransportFailure)

/-- What `consumeBuffer` makes of one line. -/
def readLine (parse : List UInt8 → Option JsonValue) (maxLineBytes : Nat) (line : List UInt8) :
    LineReading :=
  if maxLineBytes < line.length then .failure (.lineTooLong line.length)
  else if line.length = 0 then .blank
  else
    match parse line with
    | none => .failure (.invalidJson .unparseable)
    | some decoded =>
      if decoded.isJsonRpcEnvelope then .message decoded
      else .failure (.invalidJson .notAnObject)

/-- A message joins the queue, which is then drained. -/
def join (t : StudioSocketTransport) (message : JsonValue) : StudioSocketTransport :=
  scheduleDrain { t with
    queue := t.queue ++ [message]
    readingPaused := t.readingPaused || t.maxQueuedMessages ≤ (t.queue ++ [message]).length
    history := t.history ++ [.queued message] }

/-- A message joins the queue, unless the queue is full. -/
def push (t : StudioSocketTransport) (message : JsonValue) : StudioSocketTransport :=
  if t.maxQueuedMessages ≤ t.queue.length then t.failFraming (.queueOverflow t.queue.length)
  else t.join message

def consumeLine (parse : List UInt8 → Option JsonValue) (t : StudioSocketTransport)
    (line : List UInt8) : StudioSocketTransport :=
  match readLine parse t.maxLineBytes line with
  | .blank => t
  | .message message => t.push message
  | .failure failure => t.failFraming failure

/-- The loop of `consumeBuffer`, which takes at least one byte out of the buffer in every turn. -/
def consumeTurns (parse : List UInt8 → Option JsonValue) :
    Nat → StudioSocketTransport → StudioSocketTransport
  | 0, t => t
  | turns + 1, t =>
    if t.failed || t.closing then t
    else
      match takeLine newline t.inbound with
      | none =>
        if t.maxLineBytes < t.inbound.length then
          t.failFraming (.lineTooLong t.inbound.length)
        else t
      | some (line, rest) =>
        consumeTurns parse turns ({ t with inbound := rest }.consumeLine parse line)

def consumeBuffer (parse : List UInt8 → Option JsonValue) (t : StudioSocketTransport) :
    StudioSocketTransport :=
  t.consumeTurns parse (t.inbound.length + 1)

def start (parse : List UInt8 → Option JsonValue) (t : StudioSocketTransport) :
    StudioSocketTransport :=
  if t.started then t
  else
    let t := { t with started := true }
    if 0 < t.inbound.length then t.consumeBuffer parse else t

/-- `handleData`. The wire raises nothing more once it has raised `close`. -/
def handleData (parse : List UInt8 → Option JsonValue) (t : StudioSocketTransport)
    (chunk : List UInt8) : StudioSocketTransport :=
  if !t.started || t.wireClosed then t
  else
    let t := { t with received := t.received ++ chunk }
    if t.failed || t.closing then t
    else { t with inbound := t.inbound ++ chunk }.consumeBuffer parse

/-- The callback of `scheduleDrain`, up to the call of `onmessage`. -/
def immediate (t : StudioSocketTransport) : StudioSocketTransport :=
  if !t.draining || t.delivering.isSome then t
  else
    let t := { t with draining := false }
    match t.queue with
    | [] => t
    | next :: rest =>
      let requestKey := next.jsonRpcRequestKey
      { t with
        queue := rest
        readingPaused := t.readingPaused && t.maxQueuedMessages ≤ rest.length
        outstandingRequests := match requestKey with
          | some key => key :: t.outstandingRequests.filter (· ≠ key)
          | none => t.outstandingRequests
        delivering := some requestKey }.log (.delivered next)

/-- A request the consumer threw on does not hold the drain open. -/
def release (t : StudioSocketTransport) (threw : Bool) (requestKey : Option JsString) :
    StudioSocketTransport :=
  match threw, requestKey with
  | true, some key => { t with outstandingRequests := t.outstandingRequests.filter (· ≠ key) }
  | _, _ => t

/-- The callback of `scheduleDrain`, once `onmessage` has returned or thrown. -/
def returned (t : StudioSocketTransport) (threw : Bool) : StudioSocketTransport :=
  match t.delivering with
  | none => t
  | some requestKey =>
    let t := release { t with delivering := none } threw requestKey
    if 0 < t.queue.length then t.scheduleDrain else t.settleIfDrained

/-! ## What the consumer sends -/

/-- An answer clears its request from the drain accounting. -/
def answer (t : StudioSocketTransport) (message : JsonValue) : StudioSocketTransport :=
  match message.jsonRpcResponseKey with
  | some key =>
    { t with outstandingRequests := t.outstandingRequests.filter (· ≠ key) }.log (.answered key)
  | none => t

def send (t : StudioSocketTransport) (message : JsonValue) : StudioSocketTransport :=
  let t := t.answer message
  if t.destroyed || t.writableEnded then t.settleIfDrained
  else
    { t with frames := t.frames + 1, sends := t.sends ++ [t.frames] }.log (.passed t.frames)

/-- The promise of the writer for a frame is resolved or rejected. -/
def wrote (t : StudioSocketTransport) (frame : Nat) : StudioSocketTransport :=
  if frame ∈ t.sends then
    { t with
      sends := t.sends.filter (· ≠ frame)
      callbacks := t.callbacks ++ [frame] }.log (.written frame)
  else t

/-- `settleDrain`, the last callback on the promise of a frame. -/
def settled (t : StudioSocketTransport) (frame : Nat) : StudioSocketTransport :=
  if frame ∈ t.callbacks then
    { t with callbacks := t.callbacks.filter (· ≠ frame) }.settleIfDrained
  else t

def notifyPeerEnd (t : StudioSocketTransport) : StudioSocketTransport :=
  if t.peerEnded then t
  else
    let t := { t with peerEnded := true }.log .peerEnded
    if t.writableEnded || t.destroyed || t.closing || t.failed then t.finishAfterDrain
    else { t with drainTimer := true }.settleIfDrained

def handleError (t : StudioSocketTransport) (message : JsString) : StudioSocketTransport :=
  if t.started then (t.log (.failure (.socketError message))).destroyNow else t

/-- `handleSocketClosed`, and `finish` where `close` waits for the wire: both clear the timers and
announce the close of a wire that is destroyed. -/
def handleSocketClosed (t : StudioSocketTransport) : StudioSocketTransport :=
  let t := { t with wireClosed := true, destroyed := true }
  if t.started || t.shutdownTimer then
    { t with shutdownTimer := false, drainTimer := false }.announceClose
  else t

def step (parse : List UInt8 → Option JsonValue) (t : StudioSocketTransport) :
    TransportEvent → StudioSocketTransport
  | .start => t.start parse
  | .data chunk => t.handleData parse chunk
  | .error message => t.handleError message
  | .peerEnd => t.notifyPeerEnd
  | .wireClose => t.handleSocketClosed
  | .immediate => t.immediate
  | .returned threw => t.returned threw
  | .send message => t.send message
  | .wrote frame => t.wrote frame
  | .settled frame => t.settled frame
  | .framed => if t.announcing then { t with announcing := false }.destroyNow else t
  | .close => t.close
  | .shutdownDeadline => if t.shutdownTimer then t.finish else t
  | .drainDeadline =>
    if t.drainTimer then ({ t with drainTimer := false }.log .deadline).finishAfterDrain else t
  | .wireDestroyed => { t with destroyed := true }
  | .wireEnded => { t with writableEnded := true }

end StudioSocketTransport

end Vex.Studio
