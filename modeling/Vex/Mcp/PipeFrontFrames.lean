import Vex.Library.Checks
import Vex.Library.LittleEndian
import Vex.Library.TextCodec

/-!
# The frames of the pipe front, and their encoder

Main and the pipe front speak over four planes, two of control and two of data,
one in each direction. A frame is an envelope (plane, generation, connection,
sequence) and a body, whose type says on which planes it may travel, whether it
belongs to a connection, and how its payload is laid out.

The encoder refuses whatever the protocol forbids. Its refusals are bugs of the
process that asked for the frame, so each carries a reason and a text.
-/

namespace Vex.Mcp.PipeFront

open Vex.Library

/-! ## Constants -/

/-- `PIPE_FRONT_MAGIC`. -/
def magic : Int := 0x46584556

/-- `PIPE_FRONT_HEADER_BYTES`. -/
def headerBytes : Nat := 28

/-- `PIPE_FRONT_CONTROL_PAYLOAD_MAX_BYTES`. -/
def controlPayloadMaxBytes : Nat := 4096

/-- `PIPE_FRONT_DATA_PAYLOAD_MAX_BYTES`. -/
def dataPayloadMaxBytes : Nat := 32768

/-- `PIPE_FRONT_SEQUENCE_EXHAUSTED`. -/
def sequenceExhausted : Int := 18446744073709551615

def pipeFrontSddlKind : Int := 1

def boundFlagsMask : BitVec 32 := 0x07

/-! ## Planes and types -/

/-- `PIPE_FRONT_PLANE`. -/
inductive Plane where
  | controlDown
  | controlUp
  | dataDown
  | dataUp
  deriving DecidableEq

def Plane.id : Plane → Int
  | .controlDown => 3
  | .controlUp => 4
  | .dataDown => 5
  | .dataUp => 6

/-- `PipeFrontFrameTypeName`. -/
inductive FrameType where
  | hello | admission | refuse | credit | pause | resume | close | lock | quit | ping
  | helloAck | bound | «open» | writeDone | peerClosed | lockAck | quitAck | pong | error
  | data | «end»
  deriving DecidableEq

def FrameType.name : FrameType → String
  | .hello => "HELLO" | .admission => "ADMIT" | .refuse => "REFUSE" | .credit => "CREDIT"
  | .pause => "PAUSE" | .resume => "RESUME" | .close => "CLOSE" | .lock => "LOCK"
  | .quit => "QUIT" | .ping => "PING"
  | .helloAck => "HELLO_ACK" | .bound => "BOUND" | .open => "OPEN" | .writeDone => "WRITE_DONE"
  | .peerClosed => "PEER_CLOSED" | .lockAck => "LOCK_ACK" | .quitAck => "QUIT_ACK"
  | .pong => "PONG" | .error => "ERROR"
  | .data => "DATA" | .end => "END"

/-- `PIPE_FRONT_MAIN_TO_FRONT_CONTROL_TYPES`. -/
def mainToFrontControlTypes : List (FrameType × Int) :=
  [(.hello, 0x01), (.admission, 0x02), (.refuse, 0x03), (.credit, 0x04), (.pause, 0x05),
   (.resume, 0x06), (.close, 0x07), (.lock, 0x08), (.quit, 0x09), (.ping, 0x0a)]

/-- `PIPE_FRONT_FRONT_TO_MAIN_CONTROL_TYPES`. -/
def frontToMainControlTypes : List (FrameType × Int) :=
  [(.helloAck, 0x41), (.bound, 0x42), (.open, 0x43), (.writeDone, 0x44), (.peerClosed, 0x45),
   (.lockAck, 0x46), (.quitAck, 0x47), (.pong, 0x48), (.error, 0x49)]

/-- `PIPE_FRONT_DATA_TYPES`. -/
def dataTypes : List (FrameType × Int) := [(.data, 0x81), (.end, 0x82)]

/-- `PIPE_FRONT_FRAME_TYPES`. -/
def frameTypes : List (FrameType × Int) :=
  mainToFrontControlTypes ++ frontToMainControlTypes ++ dataTypes

/-- `PIPE_FRONT_FRAME_TYPES[type]`. -/
def FrameType.id (type : FrameType) : Int := (frameTypes.lookup type).getD 0

def typeNameById (id : Int) : Option FrameType :=
  (frameTypes.find? fun entry => entry.2 = id).map Prod.fst

def connectionMustBeZero (type : FrameType) : Bool :=
  [.hello, .lock, .quit, .ping, .helloAck, .bound, .lockAck, .quitAck, .pong, .error].contains type

def planeCarries (plane : Plane) (type : FrameType) : Bool :=
  match plane with
  | .controlDown => (mainToFrontControlTypes.lookup type).isSome
  | .controlUp => (frontToMainControlTypes.lookup type).isSome
  | .dataDown | .dataUp => (dataTypes.lookup type).isSome

/-- `pipeFrontPayloadBound`. -/
def payloadBound : Plane → Nat
  | .controlDown | .controlUp => controlPayloadMaxBytes
  | .dataDown | .dataUp => dataPayloadMaxBytes

/-- `pipeFrontRetentionBound`. -/
def retentionBound (plane : Plane) : Nat := headerBytes + payloadBound plane

/-- The bootstrap pair, which travels before a generation is chosen. -/
def FrameType.isBootstrap (type : FrameType) : Bool := type = .hello || type = .helloAck

@[simp] theorem typeNameById_id (type : FrameType) : typeNameById type.id = some type := by
  cases type <;> decide

theorem FrameType.id_range (type : FrameType) : 0 ≤ type.id ∧ type.id < 256 ^ 1 := by
  cases type <;> decide

theorem id_of_typeNameById {id : Int} {type : FrameType} (named : typeNameById id = some type) :
    type.id = id := by
  obtain ⟨entry, found, rfl⟩ := Option.map_eq_some_iff.1 named
  have same : entry.2 = id := by simpa using List.find?_some found
  have listed : ∀ entry ∈ frameTypes, entry.1.id = entry.2 := by decide
  exact (listed entry (List.mem_of_find?_eq_some found)).trans same

/-! ## Bodies -/

/-- `PIPE_FRONT_PEER_CLOSED_REASONS`. -/
inductive PeerClosedReason where
  | peerEof
  | ioError
  | commandedClose
  deriving DecidableEq

def PeerClosedReason.id : PeerClosedReason → Int
  | .peerEof => 1
  | .ioError => 2
  | .commandedClose => 3

/-- `pipeFrontPeerClosedReasonName`. -/
def peerClosedReasonName (value : Int) : Option PeerClosedReason :=
  [PeerClosedReason.peerEof, .ioError, .commandedClose].find? fun reason => reason.id = value

/-- The values of `PIPE_FRONT_ERROR_CODES`. -/
def errorCodeValues : List Int := [1, 2, 3, 4, 5, 6, 7, 8, 9]

/-- `PipeFrontBody`. -/
inductive Body where
  | hello (protocolVersion sddlKind maxRaw creditBytes chunkBytes handshakeDeadlineMs
      initialAdmissionEpoch : Int) (pipeName timeoutRefusalBytes : JsString)
  | admission (admissionEpoch : Int)
  | refuse (bytes : JsString)
  | credit (bytes : Int)
  | pause
  | resume
  | close
  | lock (admissionEpoch : Int)
  | quit (deadlineMs : Int)
  | ping (nonce : Int)
  | helloAck (protocolVersion announcedGeneration pid : Int) (frontVersion buildHash : JsString)
  | bound (flagsApplied : Int) (pipeName : JsString)
  | «open»
  | writeDone (ackThroughSequence : Int)
  | peerClosed (reason : PeerClosedReason) (throughDataSequence : Int)
  | lockAck (admissionEpoch closedCount : Int)
  | quitAck
  | pong (nonce : Int)
  | error (code count : Int)
  | data (payload : List UInt8)
  | «end»
  deriving DecidableEq

def Body.type : Body → FrameType
  | .hello .. => .hello
  | .admission _ => .admission
  | .refuse _ => .refuse
  | .credit _ => .credit
  | .pause => .pause
  | .resume => .resume
  | .close => .close
  | .lock _ => .lock
  | .quit _ => .quit
  | .ping _ => .ping
  | .helloAck .. => .helloAck
  | .bound .. => .bound
  | .open => .open
  | .writeDone _ => .writeDone
  | .peerClosed .. => .peerClosed
  | .lockAck .. => .lockAck
  | .quitAck => .quitAck
  | .pong _ => .pong
  | .error .. => .error
  | .data _ => .data
  | .end => .end

/-- `PipeFrontFrame`: the envelope and the body. -/
structure Frame where
  plane : Plane
  generation : Int
  connection : Int
  sequence : Int
  body : Body
  deriving DecidableEq

/-! ## The encoder -/

/-- The reasons of `PipeFrontEncodeError`. -/
inductive EncodeReason where
  | stringTooLong
  | fieldRange
  | generationZero
  | boundFlagsReserved
  | errorCode
  | emptyData
  | typeNotOnPlane
  | badGeneration
  | connectionNotZero
  | connectionZero
  | sequenceRange
  | lengthOverBound
  deriving DecidableEq

def EncodeReason.text : EncodeReason → String
  | .stringTooLong => "string_too_long"
  | .fieldRange => "field_range"
  | .generationZero => "generation_zero"
  | .boundFlagsReserved => "bound_flags_reserved"
  | .errorCode => "error_code"
  | .emptyData => "empty_data"
  | .typeNotOnPlane => "type_not_on_plane"
  | .badGeneration => "bad_generation"
  | .connectionNotZero => "connection_not_zero"
  | .connectionZero => "connection_zero"
  | .sequenceRange => "sequence_range"
  | .lengthOverBound => "length_over_bound"

/-- `PipeFrontEncodeError`. -/
structure EncodeError where
  reason : EncodeReason
  detail : String
  deriving DecidableEq

def EncodeError.message (error : EncodeError) : String :=
  "pipe-front encode refused (" ++ error.reason.text ++ "): " ++ error.detail

/-- The check of `requireU8`, `requireU16`, `requireU32` and `requireU64`. -/
def requireAtMost (limit value : Int) (field : String) : Except EncodeError Int :=
  if value < 0 ∨ limit < value then .error ⟨.fieldRange, field ++ " = " ++ toString value⟩
  else .ok value

def requireU8 := requireAtMost 0xff
def requireU16 := requireAtMost 0xffff
def requireU32 := requireAtMost 0xffffffff
def requireU64 := requireAtMost 0xffffffffffffffff

/-- `PayloadWriter.u8`, and so on for the other widths. -/
def u8 := LittleEndian.encode 1
def u16 := LittleEndian.encode 2
def u32 := LittleEndian.encode 4
def u64 := LittleEndian.encode 8

/-- `PayloadWriter.str`: a length prefix of two bytes, and the text. -/
def str (value : JsString) (field : String) : Except EncodeError (List UInt8) := do
  let bytes := JsString.encodeText value
  refuseIf (bytes.length > 0xffff) ⟨.stringTooLong, field ++ " is " ++ toString bytes.length ++
    " bytes; the u16 length prefix holds 65535"⟩
  return u16 bytes.length ++ bytes

/-- `(flags & ~BOUND_FLAGS_MASK) !== 0`. -/
def boundFlagsReserved (flags : Int) : Bool :=
  BitVec.ofInt 32 flags &&& ~~~ boundFlagsMask != 0

def encodeBody : Body → Except EncodeError (List UInt8)
  | .hello protocolVersion sddlKind maxRaw creditBytes chunkBytes handshakeDeadlineMs
      initialAdmissionEpoch pipeName timeoutRefusalBytes => do
      let protocolVersion ← requireU16 protocolVersion "protocolVersion"
      let sddlKind ← requireU8 sddlKind "sddlKind"
      let maxRaw ← requireU16 maxRaw "maxRaw"
      let creditBytes ← requireU32 creditBytes "creditBytes"
      let chunkBytes ← requireU32 chunkBytes "chunkBytes"
      let handshakeDeadlineMs ← requireU32 handshakeDeadlineMs "handshakeDeadlineMs"
      let initialAdmissionEpoch ← requireU32 initialAdmissionEpoch "initialAdmissionEpoch"
      let pipeName ← str pipeName "pipeName"
      let timeoutRefusalBytes ← str timeoutRefusalBytes "timeoutRefusalBytes"
      return u16 protocolVersion ++ (u8 sddlKind ++ (u16 maxRaw ++ (u32 creditBytes ++
        (u32 chunkBytes ++ (u32 handshakeDeadlineMs ++ (u32 initialAdmissionEpoch ++
          (pipeName ++ timeoutRefusalBytes)))))))
  | .admission admissionEpoch | .lock admissionEpoch => do
    let admissionEpoch ← requireU32 admissionEpoch "admissionEpoch"
    return u32 admissionEpoch
  | .refuse bytes => str bytes "bytes"
  | .credit bytes => do
    let bytes ← requireU32 bytes "bytes"
    return u32 bytes
  | .pause | .resume | .close | .open | .quitAck | .end => return []
  | .quit deadlineMs => do
    let deadlineMs ← requireU32 deadlineMs "deadlineMs"
    return u32 deadlineMs
  | .ping nonce | .pong nonce => do
    let nonce ← requireU64 nonce "nonce"
    return u64 nonce
  | .helloAck protocolVersion announcedGeneration pid frontVersion buildHash => do
    let protocolVersion ← requireU16 protocolVersion "protocolVersion"
    refuseIf (announcedGeneration = 0)
      ⟨.generationZero, "HELLO_ACK must carry a fresh non-zero generation"⟩
    let announcedGeneration ← requireU32 announcedGeneration "announcedGeneration"
    let pid ← requireU32 pid "pid"
    let frontVersion ← str frontVersion "frontVersion"
    let buildHash ← str buildHash "buildHash"
    return u16 protocolVersion ++ (u32 announcedGeneration ++ (u32 pid ++
      (frontVersion ++ buildHash)))
  | .bound flagsApplied pipeName => do
    let flagsApplied ← requireU8 flagsApplied "flagsApplied"
    refuseIf (boundFlagsReserved flagsApplied)
      ⟨.boundFlagsReserved, "flagsApplied = " ++ toString flagsApplied⟩
    let pipeName ← str pipeName "pipeName"
    return u8 flagsApplied ++ pipeName
  | .writeDone ackThroughSequence => do
    let ackThroughSequence ← requireU64 ackThroughSequence "ackThroughSequence"
    return u64 ackThroughSequence
  | .peerClosed reason throughDataSequence => do
    let throughDataSequence ← requireU64 throughDataSequence "throughDataSequence"
    return u8 reason.id ++ u64 throughDataSequence
  | .lockAck admissionEpoch closedCount => do
    let admissionEpoch ← requireU32 admissionEpoch "admissionEpoch"
    let closedCount ← requireU32 closedCount "closedCount"
    return u32 admissionEpoch ++ u32 closedCount
  | .error code count => do
    let code ← requireU16 code "code"
    refuseIf (code ∉ errorCodeValues) ⟨.errorCode, toString code ++
      " is not one of the front's frozen structural codes"⟩
    let count ← requireU32 count "count"
    return u16 code ++ u32 count
  | .data payload => do
    refuseIf (payload.length = 0) ⟨.emptyData, "DATA carries no bytes"⟩
    return payload

def encodeHeader (generation connection sequence type length : Int) : List UInt8 :=
  u32 magic ++ (u32 generation ++ (u32 connection ++ (u64 sequence ++ (u8 type ++ (u8 0 ++
    (u16 0 ++ u32 length))))))

def encodePipeFrontFrame (frame : Frame) : Except EncodeError (List UInt8) := do
  let type := frame.body.type
  refuseIf (planeCarries frame.plane type = false)
    ⟨.typeNotOnPlane, type.name ++ " on plane " ++ toString frame.plane.id⟩
  let generation ← requireU32 frame.generation "generation"
  refuseIf (if type.isBootstrap then generation ≠ 0 else generation = 0)
    ⟨.badGeneration, type.name ++ " carries generation " ++ toString generation⟩
  let connection ← requireU32 frame.connection "connection"
  refuseIf (connectionMustBeZero type ∧ connection ≠ 0)
    ⟨.connectionNotZero, type.name ++ " carries connection " ++ toString connection⟩
  refuseIf (¬ connectionMustBeZero type ∧ connection = 0) ⟨.connectionZero, type.name⟩
  refuseIf (frame.sequence < 1 ∨ sequenceExhausted ≤ frame.sequence)
    ⟨.sequenceRange, "sequence = " ++ toString frame.sequence⟩
  let body ← encodeBody frame.body
  refuseIf (body.length > payloadBound frame.plane)
    ⟨.lengthOverBound, type.name ++ " payload is " ++ toString body.length ++ " bytes; plane " ++
      toString frame.plane.id ++ " bounds it at " ++ toString (payloadBound frame.plane)⟩
  return encodeHeader generation connection frame.sequence type.id body.length ++ body

end Vex.Mcp.PipeFront
