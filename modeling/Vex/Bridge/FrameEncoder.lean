import Vex.Library.Checks
import Vex.Library.LittleEndian

/-!
# The frames of the front's side of the wire, and their encoder

The front is a program of its own, in another language, and has its own codec
for the planes it shares with main. Its numbers have the widths of the wire, so
no field can be out of range, and its texts are byte strings.

The encoder refuses whatever the protocol forbids. A payload is written into a
writer that keeps the first refusal and goes on.
-/

namespace Vex.Bridge.Frames

open Vex.Library

/-! ## Constants -/

def magic : UInt32 := 0x46584556

def headerBytes : Nat := 28

def controlPayloadMaxBytes : Nat := 4096

def dataPayloadMaxBytes : Nat := 32768

def sddlKind : UInt8 := 1

/-- `SequenceExhausted`, the greatest number of 64 bits. -/
def sequenceExhausted : UInt64 := 18446744073709551615

def maxUint16 : Nat := 65535

def boundFlagsMask : UInt8 := 0x01 ||| 0x02 ||| 0x04

/-! ## Planes and types -/

abbrev Plane := UInt8

def planeControlDown : Plane := 3
def planeControlUp : Plane := 4
def planeDataDown : Plane := 5
def planeDataUp : Plane := 6

def payloadBound (plane : Plane) : Nat :=
  if plane = planeControlDown ∨ plane = planeControlUp then controlPayloadMaxBytes
  else dataPayloadMaxBytes

def retentionBound (plane : Plane) : Nat := headerBytes + payloadBound plane

/-- `Type`, the type byte of a frame. -/
abbrev FrameType := UInt8

def typeNames : List (FrameType × String) :=
  [(0x01, "HELLO"), (0x02, "ADMIT"), (0x03, "REFUSE"), (0x04, "CREDIT"), (0x05, "PAUSE"),
   (0x06, "RESUME"), (0x07, "CLOSE"), (0x08, "LOCK"), (0x09, "QUIT"), (0x0a, "PING"),
   (0x41, "HELLO_ACK"), (0x42, "BOUND"), (0x43, "OPEN"), (0x44, "WRITE_DONE"),
   (0x45, "PEER_CLOSED"), (0x46, "LOCK_ACK"), (0x47, "QUIT_ACK"), (0x48, "PONG"),
   (0x49, "ERROR"), (0x81, "DATA"), (0x82, "END")]

/-- `Name`, empty for a byte that is no type. -/
def typeName (type : FrameType) : String := (typeNames.lookup type).getD ""

def carriedBy (type : FrameType) (plane : Plane) : Bool :=
  if plane = planeControlDown then 0x01 ≤ type && type ≤ 0x0a
  else if plane = planeControlUp then 0x41 ≤ type && type ≤ 0x49
  else type = 0x81 || type = 0x82

def namesConnection (type : FrameType) : Bool :=
  [0x02, 0x03, 0x04, 0x05, 0x06, 0x07, 0x43, 0x44, 0x45, 0x81, 0x82].contains type

def isBootstrap (type : FrameType) : Bool := type = 0x01 || type = 0x41

def errorCodeNames : List (UInt16 × String) :=
  [(1, "malformed_main_frame"), (2, "plane_read_failed"), (3, "plane_write_failed"),
   (4, "listener_bind_failed"), (5, "sddl_readback_mismatch"), (6, "credit_violation"),
   (7, "admission_epoch_exhausted"), (8, "connection_ids_exhausted"),
   (9, "internal_invariant")]

/-- `ErrorCode.defined`. -/
def codeDefined (code : UInt16) : Bool := (errorCodeNames.lookup code).getD "" ≠ ""

/-! ## Payloads -/

abbrev Text := List UInt8

inductive Payload where
  | hello (protocolVersion : UInt16) (sddlKind : UInt8) (maxRaw : UInt16)
      (creditBytes chunkBytes handshakeDeadlineMs initialAdmissionEpoch : UInt32)
      (pipeName timeoutRefusalBytes : Text)
  | admission (admissionEpoch : UInt32)
  | refuse (bytes : Text)
  | credit (bytes : UInt32)
  | pause
  | resume
  | close
  | lock (admissionEpoch : UInt32)
  | quit (deadlineMs : UInt32)
  | ping (nonce : UInt64)
  | helloAck (protocolVersion : UInt16) (announcedGeneration pid : UInt32)
      (frontVersion buildHash : Text)
  | bound (flagsApplied : UInt8) (pipeName : Text)
  | «open»
  | writeDone (ackThroughSequence : UInt64)
  | peerClosed (reason : UInt8) (throughDataSequence : UInt64)
  | lockAck (admissionEpoch closedCount : UInt32)
  | quitAck
  | pong (nonce : UInt64)
  | errorReport (code : UInt16) (count : UInt32)
  | data (payload : List UInt8)
  | «end»
  deriving DecidableEq

def Payload.frameType : Payload → FrameType
  | .hello .. => 0x01
  | .admission _ => 0x02
  | .refuse _ => 0x03
  | .credit _ => 0x04
  | .pause => 0x05
  | .resume => 0x06
  | .close => 0x07
  | .lock _ => 0x08
  | .quit _ => 0x09
  | .ping _ => 0x0a
  | .helloAck .. => 0x41
  | .bound .. => 0x42
  | .open => 0x43
  | .writeDone _ => 0x44
  | .peerClosed .. => 0x45
  | .lockAck .. => 0x46
  | .quitAck => 0x47
  | .pong _ => 0x48
  | .errorReport .. => 0x49
  | .data _ => 0x81
  | .end => 0x82

/-- `Frame`. A frame that is decoded carries a payload; one that is to be encoded may not. -/
structure Frame where
  plane : Plane
  generation : UInt32
  connection : UInt32
  sequence : UInt64
  payload : Option Payload

def Payload.texts : Payload → List Text
  | .hello _ _ _ _ _ _ _ pipeName timeoutRefusalBytes => [pipeName, timeoutRefusalBytes]
  | .refuse bytes => [bytes]
  | .helloAck _ _ _ frontVersion buildHash => [frontVersion, buildHash]
  | .bound _ pipeName => [pipeName]
  | _ => []

def Frame.texts (frame : Frame) : List Text := (frame.payload.map Payload.texts).getD []

/-! ## The encoder -/

structure EncodeError where
  reason : String
  detail : String
  deriving DecidableEq

def EncodeError.text (error : EncodeError) : String :=
  "frames: encode refused (" ++ error.reason ++ "): " ++ error.detail

structure PayloadWriter where
  out : List UInt8
  err : Option EncodeError
  deriving DecidableEq

namespace PayloadWriter

def new : PayloadWriter := ⟨[], none⟩

def append (w : PayloadWriter) (bytes : List UInt8) : PayloadWriter :=
  { w with out := w.out ++ bytes }

def u8 (w : PayloadWriter) (v : UInt8) : PayloadWriter := w.append (LittleEndian.encode 1 v.toNat)

def u16 (w : PayloadWriter) (v : UInt16) : PayloadWriter := w.append (LittleEndian.encode 2 v.toNat)

def u32 (w : PayloadWriter) (v : UInt32) : PayloadWriter := w.append (LittleEndian.encode 4 v.toNat)

def u64 (w : PayloadWriter) (v : UInt64) : PayloadWriter := w.append (LittleEndian.encode 8 v.toNat)

/-- `fail`: the first refusal stays. -/
def fail (w : PayloadWriter) (reason detail : String) : PayloadWriter :=
  { w with err := w.err.or (some ⟨reason, detail⟩) }

/-- `fail`, where a check of a field asks for it. -/
def failIf (w : PayloadWriter) (condition : Prop) [Decidable condition] (reason detail : String) :
    PayloadWriter :=
  if condition then w.fail reason detail else w

def str (w : PayloadWriter) (value : Text) (field : String) : PayloadWriter :=
  if value.length > maxUint16 then
    w.fail "string_too_long" (field ++ " is " ++ toString value.length ++
      " bytes; the u16 length prefix holds " ++ toString maxUint16)
  else (w.u16 (UInt16.ofNat value.length)).append value

end PayloadWriter

/-- What `encodeBody` writes, a field at a time. -/
def writeBody (w : PayloadWriter) : Payload → PayloadWriter
  | .hello protocolVersion sddlKind maxRaw creditBytes chunkBytes handshakeDeadlineMs
      initialAdmissionEpoch pipeName timeoutRefusalBytes =>
      ((((((((w.u16 protocolVersion).u8 sddlKind).u16 maxRaw).u32 creditBytes).u32
        chunkBytes).u32 handshakeDeadlineMs).u32 initialAdmissionEpoch).str pipeName
        "pipeName").str timeoutRefusalBytes "timeoutRefusalBytes"
  | .admission admissionEpoch => w.u32 admissionEpoch
  | .refuse bytes => w.str bytes "bytes"
  | .credit bytes => w.u32 bytes
  | .pause | .resume | .close | .open | .quitAck | .end => w
  | .lock admissionEpoch => w.u32 admissionEpoch
  | .quit deadlineMs => w.u32 deadlineMs
  | .ping nonce => w.u64 nonce
  | .helloAck protocolVersion announcedGeneration pid frontVersion buildHash =>
    (((((w.u16 protocolVersion).failIf (announcedGeneration = 0) "generation_zero"
      "HELLO_ACK must carry a fresh non-zero generation").u32 announcedGeneration).u32 pid).str
      frontVersion "frontVersion").str buildHash "buildHash"
  | .bound flagsApplied pipeName =>
    ((w.failIf (flagsApplied &&& ~~~ boundFlagsMask ≠ 0) "bound_flags_reserved"
      ("flagsApplied = " ++ toString flagsApplied.toNat)).u8 flagsApplied).str pipeName
      "pipeName"
  | .writeDone ackThroughSequence => w.u64 ackThroughSequence
  | .peerClosed reason throughDataSequence =>
    ((w.failIf (reason < 1 ∨ 3 < reason) "peer_closed_reason"
      ("reason = " ++ toString reason.toNat)).u8 reason).u64 throughDataSequence
  | .lockAck admissionEpoch closedCount => (w.u32 admissionEpoch).u32 closedCount
  | .pong nonce => w.u64 nonce
  | .errorReport code count =>
    ((w.failIf (codeDefined code = false) "error_code" (toString code.toNat ++
      " is not one of the front's frozen structural codes")).u16 code).u32 count
  | .data payload =>
    (w.failIf (payload.length = 0) "empty_data" "DATA carries no bytes").append payload

def encodeBody (payload : Payload) : Except EncodeError (List UInt8) :=
  match (writeBody .new payload).err with
  | some err => .error err
  | none => .ok (writeBody .new payload).out

def putHeader (generation connection : UInt32) (sequence : UInt64) (type : FrameType)
    (length : UInt32) : List UInt8 :=
  LittleEndian.encode 4 magic.toNat ++ (LittleEndian.encode 4 generation.toNat ++
    (LittleEndian.encode 4 connection.toNat ++ (LittleEndian.encode 8 sequence.toNat ++
      (LittleEndian.encode 1 type.toNat ++ (LittleEndian.encode 1 0 ++
        (LittleEndian.encode 2 0 ++ LittleEndian.encode 4 length.toNat))))))

def encode (frame : Frame) : Except EncodeError (List UInt8) :=
  match frame.payload with
  | none => .error ⟨"missing_payload", "the frame carries no payload"⟩
  | some payload => do
    let type := payload.frameType
    refuseIf (carriedBy type frame.plane = false)
      ⟨"type_not_on_plane", typeName type ++ " on plane " ++ toString frame.plane.toNat⟩
    refuseIf (isBootstrap type ≠ decide (frame.generation = 0)) ⟨"bad_generation",
      typeName type ++ " carries generation " ++ toString frame.generation.toNat⟩
    refuseIf (namesConnection type = decide (frame.connection = 0))
      ⟨if frame.connection ≠ 0 then "connection_not_zero" else "connection_zero",
        typeName type ++ " carries connection " ++ toString frame.connection.toNat⟩
    refuseIf (frame.sequence < 1 ∨ sequenceExhausted ≤ frame.sequence)
      ⟨"sequence_range", "sequence = " ++ toString frame.sequence.toNat⟩
    let body ← encodeBody payload
    refuseIf (body.length > payloadBound frame.plane)
      ⟨"length_over_bound", typeName type ++ " payload is " ++ toString body.length ++
        " bytes; plane " ++ toString frame.plane.toNat ++ " bounds it at " ++
        toString (payloadBound frame.plane)⟩
    return putHeader frame.generation frame.connection frame.sequence type
      (UInt32.ofNat body.length) ++ body

end Vex.Bridge.Frames
