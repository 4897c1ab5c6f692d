import Vex.Mcp.PipeFrontFrames

/-!
# Reading the payload of a frame

Once a header has been checked and its payload is there, the payload is read
field by field. The layouts below are those of the encoder, written a second
time; whether the two agree is the subject of the round trip.

A read beyond the end of the payload would throw. It never happens: each type
has a least payload that covers its fields of fixed width, and the length prefix
of a text is only read where it is there (`decodeBodyOf_ne_rangeError`).
-/

namespace Vex.Mcp.PipeFront

open Vex.Library

/-! ## Reading a payload -/

/-- `PipeFrontMalformedReason`. -/
inductive MalformedReason where
  | badMagic
  | flagsSet
  | reservedSet
  | unknownType
  | typeNotOnPlane
  | badGeneration
  | sequenceExhausted
  | sequenceGap
  | lengthOverBound
  | connectionZero
  | connectionNotZero
  | emptyData
  | payloadLengthMismatch
  | stringOverPayload
  | invalidUtf8
  | generationZero
  | sddlKind
  | peerClosedReason
  | boundFlagsReserved
  | errorCode
  deriving DecidableEq

/-- How the decoding of a payload ends without a body: with a reason, or with
the exception of a read that runs past the payload. -/
inductive BodyFault where
  | malformed (reason : MalformedReason)
  | rangeError
  deriving DecidableEq

/-- The reads of `PayloadReader`; the reader is what is left of the payload. -/
def readUnsigned (width : Nat) (reader : List UInt8) : Except BodyFault (Int × List UInt8) :=
  match LittleEndian.read width reader with
  | some taken => .ok taken
  | none => .error .rangeError

def readU8 := readUnsigned 1
def readU16 := readUnsigned 2
def readU32 := readUnsigned 4
def readU64 := readUnsigned 8

/-- `PayloadReader.strBytes`: `none` when the length runs past the payload. -/
def strBytes (reader : List UInt8) : Option (List UInt8 × List UInt8) :=
  match LittleEndian.read 2 reader with
  | none => none
  | some (length, reader) =>
    if reader.length < length.toNat then none
    else some (reader.take length.toNat, reader.drop length.toNat)

def decodeString (reader : List UInt8) : Except BodyFault (JsString × List UInt8) :=
  match strBytes reader with
  | none => .error (.malformed .stringOverPayload)
  | some (bytes, reader) =>
    match JsString.decodeText bytes with
    | none => .error (.malformed .invalidUtf8)
    | some value => .ok (value, reader)

/-- The least payload of a type, its fields of fixed width. -/
def FrameType.fixed : FrameType → Nat
  | .hello => 21 | .admission => 4 | .refuse => 2 | .credit => 4 | .pause => 0 | .resume => 0
  | .close => 0 | .lock => 4 | .quit => 4 | .ping => 8
  | .helloAck => 10 | .bound => 3 | .open => 0 | .writeDone => 8 | .peerClosed => 9
  | .lockAck => 8 | .quitAck => 0 | .pong => 8 | .error => 6
  | .data => 0 | .end => 0

/-- `reader.remaining !== 0` is a payload of the wrong length. -/
def nothingRemains (reader : List UInt8) : Except BodyFault Unit :=
  refuseIf (reader.length ≠ 0) (.malformed .payloadLengthMismatch)

/-- The layouts of the payloads, in the order in which their fields are read. -/
def decodeFields (payload : List UInt8) : FrameType → Except BodyFault Body
  | .hello => do
    let (protocolVersion, reader) ← readU16 payload
    let (sddlKind, reader) ← readU8 reader
    let (maxRaw, reader) ← readU16 reader
    let (creditBytes, reader) ← readU32 reader
    let (chunkBytes, reader) ← readU32 reader
    let (handshakeDeadlineMs, reader) ← readU32 reader
    let (initialAdmissionEpoch, reader) ← readU32 reader
    let (pipeName, reader) ← decodeString reader
    let (timeoutRefusalBytes, reader) ← decodeString reader
    nothingRemains reader
    refuseIf (sddlKind ≠ pipeFrontSddlKind) (.malformed .sddlKind)
    return .hello protocolVersion sddlKind maxRaw creditBytes chunkBytes handshakeDeadlineMs
      initialAdmissionEpoch pipeName timeoutRefusalBytes
  | .admission => do
    let (admissionEpoch, reader) ← readU32 payload
    nothingRemains reader
    return .admission admissionEpoch
  | .lock => do
    let (admissionEpoch, reader) ← readU32 payload
    nothingRemains reader
    return .lock admissionEpoch
  | .refuse => do
    let (bytes, reader) ← decodeString payload
    nothingRemains reader
    return .refuse bytes
  | .credit => do
    let (bytes, reader) ← readU32 payload
    nothingRemains reader
    return .credit bytes
  | .quit => do
    let (deadlineMs, reader) ← readU32 payload
    nothingRemains reader
    return .quit deadlineMs
  | .ping => do
    let (nonce, reader) ← readU64 payload
    nothingRemains reader
    return .ping nonce
  | .pong => do
    let (nonce, reader) ← readU64 payload
    nothingRemains reader
    return .pong nonce
  | .helloAck => do
    let (protocolVersion, reader) ← readU16 payload
    let (announcedGeneration, reader) ← readU32 reader
    let (pid, reader) ← readU32 reader
    let (frontVersion, reader) ← decodeString reader
    let (buildHash, reader) ← decodeString reader
    nothingRemains reader
    refuseIf (announcedGeneration = 0) (.malformed .generationZero)
    return .helloAck protocolVersion announcedGeneration pid frontVersion buildHash
  | .bound => do
    let (flagsApplied, reader) ← readU8 payload
    let (pipeName, reader) ← decodeString reader
    nothingRemains reader
    refuseIf (boundFlagsReserved flagsApplied) (.malformed .boundFlagsReserved)
    return .bound flagsApplied pipeName
  | .writeDone => do
    let (ackThroughSequence, reader) ← readU64 payload
    nothingRemains reader
    return .writeDone ackThroughSequence
  | .peerClosed => do
    let (raw, reader) ← readU8 payload
    let (throughDataSequence, reader) ← readU64 reader
    nothingRemains reader
    match peerClosedReasonName raw with
    | none => .error (.malformed .peerClosedReason)
    | some reason => return .peerClosed reason throughDataSequence
  | .lockAck => do
    let (admissionEpoch, reader) ← readU32 payload
    let (closedCount, reader) ← readU32 reader
    nothingRemains reader
    return .lockAck admissionEpoch closedCount
  | .error => do
    let (code, reader) ← readU16 payload
    let (count, reader) ← readU32 reader
    nothingRemains reader
    refuseIf (code ∉ errorCodeValues) (.malformed .errorCode)
    return .error code count
  | .pause => do nothingRemains payload; return .pause
  | .resume => do nothingRemains payload; return .resume
  | .close => do nothingRemains payload; return .close
  | .open => do nothingRemains payload; return .open
  | .quitAck => do nothingRemains payload; return .quitAck
  | .end => do nothingRemains payload; return .end
  | .data => return .data payload

/-- The payload phase, for the type that the header names. -/
def decodeBodyOf (type : FrameType) (payload : List UInt8) : Except BodyFault Body :=
  if type = .data then
    if payload.length = 0 then .error (.malformed .emptyData) else .ok (.data payload)
  else if payload.length < type.fixed then .error (.malformed .payloadLengthMismatch)
  else decodeFields payload type

/-! ### No read runs past the payload -/

variable {width : Nat} {reader : List UInt8} {value : Int}

theorem readUnsigned_eq_ok {rest : List UInt8} : readUnsigned width reader = .ok (value, rest) ↔
      LittleEndian.read width reader = some (value, rest) := by
  rw [readUnsigned]
  cases taken : LittleEndian.read width reader with
  | none => simp
  | some pair => simp

theorem readUnsigned_eq_error {fault : BodyFault} :
    readUnsigned width reader = .error fault ↔ reader.length < width ∧ .rangeError = fault := by
  rw [← LittleEndian.read_eq_none, readUnsigned]
  cases taken : LittleEndian.read width reader with
  | none => simp
  | some pair => simp

theorem length_of_readUnsigned {rest : List UInt8}
    (taken : readUnsigned width reader = .ok (value, rest)) :
    reader.length = width + rest.length := by
  obtain ⟨-, -, rfl⟩ := LittleEndian.read_eq_some.1 (readUnsigned_eq_ok.1 taken)
  rw [List.length_append, LittleEndian.length_encode]

theorem decodeString_ne_rangeError (reader : List UInt8) :
    decodeString reader ≠ .error .rangeError := by
  unfold decodeString
  split
  · simp
  · split <;> simp

@[simp] theorem nothingRemains_eq_ok {u : Unit} : nothingRemains reader = .ok u ↔ reader = [] := by
  rw [nothingRemains, refuseIf_eq_ok, not_not, List.length_eq_zero_iff]

theorem nothingRemains_ne_rangeError (reader : List UInt8) :
    nothingRemains reader ≠ .error .rangeError := by
  simp [nothingRemains]

theorem bind_ne_rangeError {α β : Type} {first : Except BodyFault α}
    {next : α → Except BodyFault β} (inRange : first ≠ .error .rangeError)
    (later : ∀ value, next value ≠ .error .rangeError) :
    (first >>= next) ≠ .error .rangeError := by
  intro outOfRange
  obtain outOfRange | ⟨value, -, outOfRange⟩ := bind_eq_error.1 outOfRange
  · exact inRange outOfRange
  · exact later value outOfRange

theorem read_bind_ne_rangeError {β : Type} {next : Int × List UInt8 → Except BodyFault β}
    (enough : width ≤ reader.length) (later : ∀ value rest, reader.length = width + rest.length →
      next (value, rest) ≠ .error .rangeError) :
    (readUnsigned width reader >>= next) ≠ .error .rangeError := by
  intro outOfRange
  obtain outOfRange | ⟨⟨value, rest⟩, taken, outOfRange⟩ := bind_eq_error.1 outOfRange
  · have short := (readUnsigned_eq_error.1 outOfRange).1
    omega
  · exact later value rest (length_of_readUnsigned taken) outOfRange

theorem read_last_ne_rangeError {β : Type} (enough : width ≤ reader.length) (result : Int → β) : (do
      let (value, rest) ← readUnsigned width reader
      nothingRemains rest
      return result value) ≠ Except.error BodyFault.rangeError := by
  refine read_bind_ne_rangeError enough fun value rest _ => ?_
  exact bind_ne_rangeError (nothingRemains_ne_rangeError rest) fun _ => by simp [pure, Except.pure]

theorem decodeFields_ne_rangeError {type : FrameType} {payload : List UInt8}
    (enough : type.fixed ≤ payload.length) :
    decodeFields payload type ≠ .error .rangeError := by
  have empty (body : Body) :
      (do nothingRemains payload; return body) ≠ Except.error BodyFault.rangeError :=
    bind_ne_rangeError (nothingRemains_ne_rangeError payload) fun _ => by simp [pure, Except.pure]
  cases type with
  | hello =>
    have whole : 21 ≤ payload.length := enough
    refine read_bind_ne_rangeError (by omega) fun protocolVersion reader left => ?_
    refine read_bind_ne_rangeError (by omega) fun sddlKind reader left => ?_
    refine read_bind_ne_rangeError (by omega) fun maxRaw reader left => ?_
    refine read_bind_ne_rangeError (by omega) fun creditBytes reader left => ?_
    refine read_bind_ne_rangeError (by omega) fun chunkBytes reader left => ?_
    refine read_bind_ne_rangeError (by omega) fun handshakeDeadlineMs reader left => ?_
    refine read_bind_ne_rangeError (by omega) fun initialAdmissionEpoch reader left => ?_
    refine bind_ne_rangeError (decodeString_ne_rangeError reader) fun pipeName => ?_
    refine bind_ne_rangeError (decodeString_ne_rangeError _) fun timeoutRefusalBytes => ?_
    refine bind_ne_rangeError (nothingRemains_ne_rangeError _) fun _ => ?_
    exact bind_ne_rangeError (by simp) fun _ => by simp [pure, Except.pure]
  | helloAck =>
    have whole : 10 ≤ payload.length := enough
    refine read_bind_ne_rangeError (by omega) fun protocolVersion reader left => ?_
    refine read_bind_ne_rangeError (by omega) fun announcedGeneration reader left => ?_
    refine read_bind_ne_rangeError (by omega) fun pid reader left => ?_
    refine bind_ne_rangeError (decodeString_ne_rangeError reader) fun frontVersion => ?_
    refine bind_ne_rangeError (decodeString_ne_rangeError _) fun buildHash => ?_
    refine bind_ne_rangeError (nothingRemains_ne_rangeError _) fun _ => ?_
    exact bind_ne_rangeError (by simp) fun _ => by simp [pure, Except.pure]
  | bound =>
    have whole : 3 ≤ payload.length := enough
    refine read_bind_ne_rangeError (by omega) fun flagsApplied reader left => ?_
    refine bind_ne_rangeError (decodeString_ne_rangeError reader) fun pipeName => ?_
    refine bind_ne_rangeError (nothingRemains_ne_rangeError _) fun _ => ?_
    exact bind_ne_rangeError (by simp) fun _ => by simp [pure, Except.pure]
  | peerClosed =>
    have whole : 9 ≤ payload.length := enough
    refine read_bind_ne_rangeError (by omega) fun raw reader left => ?_
    refine read_bind_ne_rangeError (by omega) fun throughDataSequence reader left => ?_
    refine bind_ne_rangeError (nothingRemains_ne_rangeError _) fun _ => ?_
    show (match peerClosedReasonName raw with
      | none => _
      | some reason => _) ≠ _
    split <;> simp [pure, Except.pure]
  | lockAck =>
    have whole : 8 ≤ payload.length := enough
    refine read_bind_ne_rangeError (by omega) fun admissionEpoch reader left => ?_
    exact read_last_ne_rangeError (by omega) fun closedCount => _
  | error =>
    have whole : 6 ≤ payload.length := enough
    refine read_bind_ne_rangeError (by omega) fun code reader left => ?_
    refine read_bind_ne_rangeError (by omega) fun count reader left => ?_
    refine bind_ne_rangeError (nothingRemains_ne_rangeError _) fun _ => ?_
    exact bind_ne_rangeError (by simp) fun _ => by simp [pure, Except.pure]
  | refuse =>
    refine bind_ne_rangeError (decodeString_ne_rangeError payload) fun bytes => ?_
    exact bind_ne_rangeError (nothingRemains_ne_rangeError _) fun _ => by
      simp [pure, Except.pure]
  | admission => exact read_last_ne_rangeError enough Body.admission
  | lock => exact read_last_ne_rangeError enough Body.lock
  | credit => exact read_last_ne_rangeError enough Body.credit
  | quit => exact read_last_ne_rangeError enough Body.quit
  | ping => exact read_last_ne_rangeError enough Body.ping
  | pong => exact read_last_ne_rangeError enough Body.pong
  | writeDone => exact read_last_ne_rangeError enough Body.writeDone
  | pause => exact empty .pause
  | resume => exact empty .resume
  | close => exact empty .close
  | «open» => exact empty .open
  | quitAck => exact empty .quitAck
  | «end» => exact empty .end
  | data => simp [decodeFields, pure, Except.pure]

theorem decodeBodyOf_ne_rangeError (type : FrameType) (payload : List UInt8) :
    decodeBodyOf type payload ≠ .error .rangeError := by
  rw [decodeBodyOf]
  split
  · split <;> simp
  · split
    · simp
    · exact decodeFields_ne_rangeError (by omega)

end Vex.Mcp.PipeFront
