import Vex.Bridge.FrameEncoder
import Vex.Library.TextCodec

/-!
# The decoder of the front's side

The decoder of a plane stages one header, checks it, and collects a payload of
the length it declares. Its owner pushes it what was read of the plane and is
given the frames that were completed and an error.

The error is a value of an interface that holds a pointer to a malformed frame.
`Push` returns the pointer the decoder latches whatever it is, so a push that
returns early without a failure returns an interface that is not nil and holds a
nil pointer (`PushError.typedNil`).

A read past a payload would panic. The fixed part of each type is checked before
it is read (`decodeBody`), so it does not happen.
-/

namespace Vex.Bridge.Frames

open Vex.Library

/-! ## Headers -/

inductive Reason where
  | badMagic
  | flagsSet
  | reservedSet
  | unknownType
  | typeNotOnPlane
  | badGeneration
  | sequenceExhausted
  | sequenceGap
  | lengthOverBound
  | connectionZero
  | connectionNotZero
  | emptyData
  | payloadLengthMismatch
  | stringOverPayload
  | invalidUTF8
  | generationZero
  | sddlKind
  | peerClosedReason
  | boundFlagsReserved
  | errorCode
  deriving DecidableEq

def Reason.text : Reason → String
  | .badMagic => "bad_magic"
  | .flagsSet => "flags_set"
  | .reservedSet => "reserved_set"
  | .unknownType => "unknown_type"
  | .typeNotOnPlane => "type_not_on_plane"
  | .badGeneration => "bad_generation"
  | .sequenceExhausted => "sequence_exhausted"
  | .sequenceGap => "sequence_gap"
  | .lengthOverBound => "length_over_bound"
  | .connectionZero => "connection_zero"
  | .connectionNotZero => "connection_not_zero"
  | .emptyData => "empty_data"
  | .payloadLengthMismatch => "payload_length_mismatch"
  | .stringOverPayload => "string_over_payload"
  | .invalidUTF8 => "invalid_utf8"
  | .generationZero => "generation_zero"
  | .sddlKind => "sddl_kind"
  | .peerClosedReason => "peer_closed_reason"
  | .boundFlagsReserved => "bound_flags_reserved"
  | .errorCode => "error_code"

structure MalformedError where
  reason : Reason
  plane : Plane
  type : UInt8
  connection : UInt32
  sequence : UInt64
  length : UInt32
  deriving DecidableEq

structure Header where
  magic : UInt32
  generation : UInt32
  connection : UInt32
  sequence : UInt64
  frameType : UInt8
  flags : UInt8
  reserved : UInt16
  length : UInt32

/-- `binary.LittleEndian.Uint32(b[offset:])`, and so on for the other widths. -/
def uintAt (width offset : Nat) (b : List UInt8) : Nat :=
  (LittleEndian.decode ((b.drop offset).take width)).toNat

def parseHeader (b : List UInt8) : Header where
  magic := UInt32.ofNat (uintAt 4 0 b)
  generation := UInt32.ofNat (uintAt 4 4 b)
  connection := UInt32.ofNat (uintAt 4 8 b)
  sequence := UInt64.ofNat (uintAt 8 12 b)
  frameType := UInt8.ofNat (uintAt 1 20 b)
  flags := UInt8.ofNat (uintAt 1 21 b)
  reserved := UInt16.ofNat (uintAt 2 22 b)
  length := UInt32.ofNat (uintAt 4 24 b)

/-- `validateHeader`, in its frozen order. -/
def validateHeader (plane : Plane) (generation : UInt32) (expected : UInt64) (head : Header) :
    Except Reason Unit := do
  refuseIf (head.magic ≠ magic) .badMagic
  refuseIf (head.flags ≠ 0) .flagsSet
  refuseIf (head.reserved ≠ 0) .reservedSet
  refuseIf (typeName head.frameType = "") .unknownType
  refuseIf (carriedBy head.frameType plane = false) .typeNotOnPlane
  refuseIf (if isBootstrap head.frameType then generation ≠ 0 ∨ head.generation ≠ 0
    else generation = 0 ∨ head.generation ≠ generation) .badGeneration
  refuseIf (sequenceExhausted ≤ head.sequence) .sequenceExhausted
  refuseIf (head.sequence ≠ expected) .sequenceGap
  refuseIf (head.length.toNat > payloadBound plane) .lengthOverBound
  if namesConnection head.frameType then refuseIf (head.connection = 0) .connectionZero
  else refuseIf (head.connection ≠ 0) .connectionNotZero

/-! ## Payloads -/

/-- How the decoding of a payload ends without one: with a reason, or in a panic. -/
inductive BodyFault where
  | malformed (reason : Reason)
  | panics
  deriving DecidableEq

/-- `payloadReader`: what is left of the payload, and the first fault of a string. -/
structure PayloadReader where
  bytes : List UInt8
  reason : Option Reason
  deriving DecidableEq

/-- `utf8.Valid`. -/
def utf8Valid (value : List UInt8) : Bool := value.toByteArray.utf8Decode?.isSome

namespace PayloadReader

def remaining (r : PayloadReader) : Nat := r.bytes.length

/-- The reads of a number, given how it is made from its value. -/
def number {α : Type} (width : Nat) (ofNat : Nat → α) (r : PayloadReader) :
    Except BodyFault (α × PayloadReader) :=
  match LittleEndian.read width r.bytes with
  | none => .error .panics
  | some (value, rest) => .ok (ofNat value.toNat, { r with bytes := rest })

def u8 := number 1 UInt8.ofNat
def u16 := number 2 UInt16.ofNat
def u32 := number 4 UInt32.ofNat
def u64 := number 8 UInt64.ofNat

/-- `str`, which latches the first fault it meets. -/
def str (r : PayloadReader) : Text × PayloadReader :=
  if r.reason ≠ none then ([], r)
  else
    match LittleEndian.read 2 r.bytes with
    | none => ([], { r with reason := some .stringOverPayload })
    | some (length, rest) =>
      if rest.length < length.toNat then ([], ⟨rest, some .stringOverPayload⟩)
      else if utf8Valid (rest.take length.toNat) = false then
        ([], ⟨rest.drop length.toNat, some .invalidUTF8⟩)
      else (rest.take length.toNat, { r with bytes := rest.drop length.toNat })

/-- `if r.reason != "" { return nil, r.reason }`. -/
def settled (r : PayloadReader) : Except BodyFault Unit :=
  match r.reason with
  | some reason => .error (.malformed reason)
  | none => .ok ()

/-- `if r.remaining() != 0 { return nil, ReasonPayloadLengthMismatch }`. -/
def ends (r : PayloadReader) : Except BodyFault Unit :=
  refuseIf (r.remaining ≠ 0) (.malformed .payloadLengthMismatch)

end PayloadReader

def fixedBytes : List (FrameType × Nat) :=
  [(0x01, 21), (0x02, 4), (0x03, 2), (0x04, 4), (0x05, 0), (0x06, 0), (0x07, 0), (0x08, 4),
   (0x09, 4), (0x0a, 8), (0x41, 10), (0x42, 3), (0x43, 0), (0x44, 8), (0x45, 9), (0x46, 8),
   (0x47, 0), (0x48, 8), (0x49, 6), (0x82, 0)]

/-- The layouts of the payloads, in the order in which their fields are read. -/
def decodeFields (r : PayloadReader) (frameType : FrameType) : Except BodyFault Payload :=
  match frameType with
  | 0x01 => do
    let (protocolVersion, r) ← r.u16
    let (kind, r) ← r.u8
    let (maxRaw, r) ← r.u16
    let (creditBytes, r) ← r.u32
    let (chunkBytes, r) ← r.u32
    let (handshakeDeadlineMs, r) ← r.u32
    let (initialAdmissionEpoch, r) ← r.u32
    let (pipeName, r) := r.str
    let (timeoutRefusalBytes, r) := r.str
    r.settled
    r.ends
    refuseIf (kind ≠ sddlKind) (.malformed .sddlKind)
    return .hello protocolVersion kind maxRaw creditBytes chunkBytes handshakeDeadlineMs
      initialAdmissionEpoch pipeName timeoutRefusalBytes
  | 0x02 => do
    let (admissionEpoch, r) ← r.u32
    r.ends
    return .admission admissionEpoch
  | 0x03 => do
    let (bytes, r) := r.str
    r.settled
    r.ends
    return .refuse bytes
  | 0x04 => do
    let (bytes, r) ← r.u32
    r.ends
    return .credit bytes
  | 0x05 => do r.ends; return .pause
  | 0x06 => do r.ends; return .resume
  | 0x07 => do r.ends; return .close
  | 0x08 => do
    let (admissionEpoch, r) ← r.u32
    r.ends
    return .lock admissionEpoch
  | 0x09 => do
    let (deadlineMs, r) ← r.u32
    r.ends
    return .quit deadlineMs
  | 0x0a => do
    let (nonce, r) ← r.u64
    r.ends
    return .ping nonce
  | 0x41 => do
    let (protocolVersion, r) ← r.u16
    let (announcedGeneration, r) ← r.u32
    let (pid, r) ← r.u32
    let (frontVersion, r) := r.str
    let (buildHash, r) := r.str
    r.settled
    r.ends
    refuseIf (announcedGeneration = 0) (.malformed .generationZero)
    return .helloAck protocolVersion announcedGeneration pid frontVersion buildHash
  | 0x42 => do
    let (flagsApplied, r) ← r.u8
    let (pipeName, r) := r.str
    r.settled
    r.ends
    refuseIf (flagsApplied &&& ~~~ boundFlagsMask ≠ 0) (.malformed .boundFlagsReserved)
    return .bound flagsApplied pipeName
  | 0x43 => do r.ends; return .open
  | 0x44 => do
    let (ackThroughSequence, r) ← r.u64
    r.ends
    return .writeDone ackThroughSequence
  | 0x45 => do
    let (reason, r) ← r.u8
    let (throughDataSequence, r) ← r.u64
    r.ends
    refuseIf (reason < 1 ∨ 3 < reason) (.malformed .peerClosedReason)
    return .peerClosed reason throughDataSequence
  | 0x46 => do
    let (admissionEpoch, r) ← r.u32
    let (closedCount, r) ← r.u32
    r.ends
    return .lockAck admissionEpoch closedCount
  | 0x47 => do r.ends; return .quitAck
  | 0x48 => do
    let (nonce, r) ← r.u64
    r.ends
    return .pong nonce
  | 0x49 => do
    let (code, r) ← r.u16
    let (count, r) ← r.u32
    r.ends
    refuseIf (codeDefined code = false) (.malformed .errorCode)
    return .errorReport code count
  | 0x82 => do r.ends; return .end
  | _ => .error (.malformed .unknownType)

/-- `decodeBody`, in its frozen order. -/
def decodeBody (frameType : FrameType) (payload : List UInt8) : Except BodyFault Payload :=
  if frameType = 0x81 then
    if payload.length = 0 then .error (.malformed .emptyData) else .ok (.data payload)
  else if payload.length < (fixedBytes.lookup frameType).getD 0 then
    .error (.malformed .payloadLengthMismatch)
  else decodeFields ⟨payload, none⟩ frameType

/-! ## The decoder -/

/-- A header that passed its checks, and the part of its payload that has arrived. -/
structure Staged where
  head : Header
  payload : List UInt8
  filled_le : payload.length ≤ head.length.toNat

/-- `Decoder`. The header stage is its filled part, and a payload is there exactly when its
header is staged. -/
structure Decoder where
  plane : Plane
  bound : Nat
  generation : UInt32
  adopted : Bool
  expected : UInt64
  headerStage : List UInt8
  headerStage_lt : headerStage.length < headerBytes
  staged : Option Staged
  peak : Nat
  latched : Option MalformedError

inductive PushError where
  | malformed (error : MalformedError)
  | typedNil
  deriving DecidableEq

namespace Decoder

/-- `NewDecoder`. -/
def new (plane : Plane) (generation : UInt32) (sequence : UInt64) : Decoder where
  plane := plane
  bound := payloadBound plane
  generation := generation
  adopted := generation ≠ 0
  expected := if sequence = 0 then 1 else sequence
  headerStage := []
  headerStage_lt := by decide
  staged := none
  peak := headerBytes
  latched := none

def fail (d : Decoder) (reason : Reason) (head : Header) : Decoder × MalformedError :=
  let latched : MalformedError :=
    ⟨reason, d.plane, head.frameType, head.connection, head.sequence, head.length⟩
  ({ d with
      latched := some latched, headerStage := [], headerStage_lt := by decide, staged := none },
    latched)

/-- A header that passed, and a payload buffer of the length it declares. -/
def stage (d : Decoder) (head : Header) : Decoder :=
  { d with
    headerStage := []
    headerStage_lt := by decide
    staged := some ⟨head, [], Nat.zero_le _⟩
    peak := max d.peak (headerBytes + head.length.toNat) }

/-- A payload that was decoded: the decoder behind it, and the frame. -/
def deliver (d : Decoder) (head : Header) (payload : Payload) : Decoder × Frame :=
  let delivered := { d with staged := none, expected := head.sequence + 1 }
  (match payload with
    | .helloAck _ announcedGeneration _ _ _ =>
      { delivered with generation := announcedGeneration, adopted := true }
    | _ => delivered,
    ⟨d.plane, head.generation, head.connection, head.sequence, some payload⟩)

@[simp] theorem staged_deliver (d : Decoder) (head : Header) (payload : Payload) :
    (d.deliver head payload).1.staged = none := by
  cases payload <;> rfl

set_option linter.unusedVariables false in
/-- The loop of `Push`, for what is left of the chunk. -/
def pushFrom (d : Decoder) (chunk : List UInt8) : Decoder × List Frame × Option PushError :=
  match inStage : d.staged with
  | none =>
    if exhausted : chunk.length = 0 then (d, [], none)
    else
      let take := min (headerBytes - d.headerStage.length) chunk.length
      let filled := d.headerStage ++ chunk.take take
      if short : filled.length < headerBytes then
        ({ d with headerStage := filled, headerStage_lt := short }, [], none)
      else
        let head := parseHeader filled
        match validateHeader d.plane d.generation d.expected head with
        | .error reason =>
          ((d.fail reason head).1, [], some (.malformed (d.fail reason head).2))
        | .ok _ => (d.stage head).pushFrom (chunk.drop take)
  | some staged =>
    let take := min (staged.head.length.toNat - staged.payload.length) chunk.length
    let payload := staged.payload ++ chunk.take take
    if short : payload.length < staged.head.length.toNat then
      ({ d with staged := some ⟨staged.head, payload, short.le⟩ }, [], none)
    else
      match decodeBody staged.head.frameType payload with
      | .error (.malformed reason) =>
        ((d.fail reason staged.head).1, [], some (.malformed (d.fail reason staged.head).2))
      -- a read past the payload; `decodeBody_ne_panics` says there is none
      | .error .panics => (d, [], none)
      | .ok body =>
        let delivered := d.deliver staged.head body
        ((delivered.1.pushFrom (chunk.drop take)).1,
          delivered.2 :: (delivered.1.pushFrom (chunk.drop take)).2.1,
          (delivered.1.pushFrom (chunk.drop take)).2.2)
  termination_by 2 * chunk.length + (if d.staged.isSome then 1 else 0)
  decreasing_by
    · have room := d.headerStage_lt
      rw [List.length_drop]
      simp only [stage, inStage, Option.isSome_some, Option.isSome_none, if_true, Bool.false_eq_true,
        if_false]
      omega
    all_goals
      rw [List.length_drop]
      simp only [staged_deliver, inStage, Option.isSome_some, Option.isSome_none, if_true,
        Bool.false_eq_true, if_false]
      omega

/-- `Push`: the frames that completed, and the error. -/
def push (d : Decoder) (chunk : List UInt8) : Decoder × List Frame × Option PushError :=
  match d.latched with
  | some latched => (d, [], some (.malformed latched))
  -- the nil pointer, as a value of the interface
  | none => if chunk.length = 0 then (d, [], some .typedNil) else d.pushFrom chunk

inductive Event where
  | frame (frame : Frame)
  | error (error : PushError)

/-- A push as a step of the owner: the frames in their order, and the error after them. -/
def step (d : Decoder) (chunk : List UInt8) : Decoder × List Event :=
  ((d.push chunk).1,
    (d.push chunk).2.1.map Event.frame ++ ((d.push chunk).2.2.map Event.error).toList)

def Event.frame? : Event → Option Frame
  | .frame delivered => some delivered
  | .error _ => none

def Event.error? : Event → Option PushError
  | .frame _ => none
  | .error raised => some raised

end Decoder

end Vex.Bridge.Frames
