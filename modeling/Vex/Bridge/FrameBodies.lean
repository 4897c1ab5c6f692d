import Vex.Bridge.FrameDecoder
import Vex.Mcp.PipeFrontBodies

/-!
# The frames of the two sides

The two sides of the wire have values of their own for the same frames. Here a
value of the front's side is expressed as one of main's (`Payload.express`): the
numbers as they are, and a text as the string its bytes are in UTF-8. A payload
whose text is no UTF-8, or with a reason of closing that main has no name for,
is expressed by nothing.

The payload phases of the two decoders are then compared read by read
(`decodeBody_matches`): they refuse with the same reason, and where they accept,
main's body is the expressed payload with a byte order mark dropped from each of
its texts.
-/

namespace Vex.Bridge.Frames

open Vex.Library
open Vex.Mcp

/-! ## Planes and types -/

def planeByte (plane : PipeFront.Plane) : Plane := UInt8.ofNat plane.id.toNat

def typeByte (type : PipeFront.FrameType) : FrameType := UInt8.ofNat type.id.toNat

variable (type : PipeFront.FrameType)

theorem typeName_typeByte : typeName (typeByte type) = type.name := by
  cases type <;> rfl

theorem isBootstrap_typeByte : isBootstrap (typeByte type) = type.isBootstrap := by
  cases type <;> rfl

theorem carriedBy_typeByte (plane : PipeFront.Plane) :
    carriedBy (typeByte type) (planeByte plane) = PipeFront.planeCarries plane type := by
  cases type <;> cases plane <;> rfl

theorem namesConnection_typeByte :
    namesConnection (typeByte type) = !PipeFront.connectionMustBeZero type := by
  cases type <;> rfl

theorem payloadBound_planeByte (plane : PipeFront.Plane) :
    payloadBound (planeByte plane) = PipeFront.payloadBound plane := by
  cases plane <;> rfl

theorem toNat_typeByte : ((typeByte type).toNat : Int) = type.id := by
  cases type <;> rfl

theorem named_or_unknown (byte : UInt8) :
    (typeName byte = "" ∧ PipeFront.typeNameById byte.toNat = none) ∨
      ∃ type, byte = typeByte type ∧ PipeFront.typeNameById byte.toNat = some type := by
  have table : ∀ n : Fin 256, (typeName (UInt8.ofNat n) = "" ∧ PipeFront.typeNameById n = none) ∨
      ∃ type ∈ PipeFront.frameTypes.map Prod.fst,
        UInt8.ofNat n = typeByte type ∧ PipeFront.typeNameById n = some type := by
    decide +kernel
  rcases table ⟨byte.toNat, byte.toNat_lt⟩ with ⟨nameless, unknown⟩ | ⟨type, -, same, named⟩
  · rw [UInt8.ofNat_toNat] at nameless
    exact .inl ⟨nameless, unknown⟩
  · rw [UInt8.ofNat_toNat] at same
    exact .inr ⟨type, same, named⟩

/-! ## Values -/

def Reason.express : Reason → PipeFront.MalformedReason
  | .badMagic => .badMagic
  | .flagsSet => .flagsSet
  | .reservedSet => .reservedSet
  | .unknownType => .unknownType
  | .typeNotOnPlane => .typeNotOnPlane
  | .badGeneration => .badGeneration
  | .sequenceExhausted => .sequenceExhausted
  | .sequenceGap => .sequenceGap
  | .lengthOverBound => .lengthOverBound
  | .connectionZero => .connectionZero
  | .connectionNotZero => .connectionNotZero
  | .emptyData => .emptyData
  | .payloadLengthMismatch => .payloadLengthMismatch
  | .stringOverPayload => .stringOverPayload
  | .invalidUTF8 => .invalidUtf8
  | .generationZero => .generationZero
  | .sddlKind => .sddlKind
  | .peerClosedReason => .peerClosedReason
  | .boundFlagsReserved => .boundFlagsReserved
  | .errorCode => .errorCode

theorem Reason.express_injective {reason other : Reason} (same : reason.express = other.express) :
    reason = other := by
  cases reason <;> cases other <;> first | rfl | (simp [Reason.express] at same)

/-- The string that bytes are in UTF-8, a byte order mark included. -/
def expressText (bytes : Text) : Option JsString :=
  bytes.toByteArray.utf8Decode?.map fun characters => JsString.units characters.toList

theorem expressText_eq_some {bytes : Text} {value : JsString} :
    expressText bytes = some value ↔
      ∃ characters, bytes = JsString.utf8 characters ∧ value = JsString.units characters := by
  simp only [expressText, Option.map_eq_some_iff, JsString.utf8Decode?_eq_some]
  constructor
  · rintro ⟨characters, rfl, rfl⟩
    exact ⟨characters.toList, rfl, rfl⟩
  · rintro ⟨characters, rfl, rfl⟩
    exact ⟨characters.toArray, rfl, rfl⟩

def Payload.express : Payload → Option PipeFront.Body
  | .hello protocolVersion sddlKind maxRaw creditBytes chunkBytes handshakeDeadlineMs
      initialAdmissionEpoch pipeName timeoutRefusalBytes => do
      let pipeName ← expressText pipeName
      let timeoutRefusalBytes ← expressText timeoutRefusalBytes
      return .hello protocolVersion.toNat sddlKind.toNat maxRaw.toNat creditBytes.toNat
        chunkBytes.toNat handshakeDeadlineMs.toNat initialAdmissionEpoch.toNat pipeName
        timeoutRefusalBytes
  | .admission admissionEpoch => some (.admission admissionEpoch.toNat)
  | .refuse bytes => do
    let bytes ← expressText bytes
    return .refuse bytes
  | .credit bytes => some (.credit bytes.toNat)
  | .pause => some .pause
  | .resume => some .resume
  | .close => some .close
  | .lock admissionEpoch => some (.lock admissionEpoch.toNat)
  | .quit deadlineMs => some (.quit deadlineMs.toNat)
  | .ping nonce => some (.ping nonce.toNat)
  | .helloAck protocolVersion announcedGeneration pid frontVersion buildHash => do
    let frontVersion ← expressText frontVersion
    let buildHash ← expressText buildHash
    return .helloAck protocolVersion.toNat announcedGeneration.toNat pid.toNat frontVersion
      buildHash
  | .bound flagsApplied pipeName => do
    let pipeName ← expressText pipeName
    return .bound flagsApplied.toNat pipeName
  | .open => some .open
  | .writeDone ackThroughSequence => some (.writeDone ackThroughSequence.toNat)
  | .peerClosed reason throughDataSequence => do
    let reason ← PipeFront.peerClosedReasonName reason.toNat
    return .peerClosed reason throughDataSequence.toNat
  | .lockAck admissionEpoch closedCount =>
    some (.lockAck admissionEpoch.toNat closedCount.toNat)
  | .quitAck => some .quitAck
  | .pong nonce => some (.pong nonce.toNat)
  | .errorReport code count => some (.error code.toNat count.toNat)
  | .data payload => some (.data payload)
  | .end => some .end

def expressPlane (plane : Plane) : Option PipeFront.Plane :=
  [PipeFront.Plane.controlDown, .controlUp, .dataDown, .dataUp].find? fun other =>
    planeByte other = plane

@[simp] theorem expressPlane_planeByte (plane : PipeFront.Plane) :
    expressPlane (planeByte plane) = some plane := by
  cases plane <;> rfl

/-- A frame of the front's side as a value of main's. -/
def Frame.express (frame : Frame) : Option PipeFront.Frame := do
  let plane ← expressPlane frame.plane
  let payload ← frame.payload
  let body ← payload.express
  return ⟨plane, frame.generation.toNat, frame.connection.toNat, frame.sequence.toNat, body⟩

theorem received_eq_self_iff {bytes : Text} {value : JsString}
    (expressed : expressText bytes = some value) :
    value.received = value ↔ ¬ JsString.markBytes <+: bytes := by
  obtain ⟨characters, rfl, rfl⟩ := expressText_eq_some.1 expressed
  rw [JsString.received, JsString.scalars_units, JsString.markBytes_isPrefix_utf8]
  constructor
  · intro same
    have dropped : JsString.withoutMark characters = characters := by
      have scalars := congrArg JsString.scalars same
      rwa [JsString.scalars_units, JsString.scalars_units] at scalars
    rintro ⟨rest, rfl⟩
    have shorter : rest.length = rest.length + 1 := congrArg List.length dropped
    omega
  · intro unmarked
    rw [JsString.withoutMark_eq_self unmarked]

/-- The body of an expressed payload is what main's decoder leaves as it is exactly when none
of the texts has a byte order mark in front. -/
theorem Payload.received_eq_self_iff {payload : Payload} {body : PipeFront.Body}
    (expressed : payload.express = some body) :
    body.received = body ↔ ∀ text ∈ payload.texts, ¬ JsString.markBytes <+: text := by
  cases payload with
  | hello =>
    simp only [express, bind, Option.bind_eq_some_iff] at expressed
    obtain ⟨pipeName, first, timeoutRefusalBytes, second, same⟩ := expressed
    obtain rfl := Option.some.inj same
    simp [PipeFront.Body.received, texts, Frames.received_eq_self_iff first,
      Frames.received_eq_self_iff second]
  | helloAck =>
    simp only [express, bind, Option.bind_eq_some_iff] at expressed
    obtain ⟨frontVersion, first, buildHash, second, same⟩ := expressed
    obtain rfl := Option.some.inj same
    simp [PipeFront.Body.received, texts, Frames.received_eq_self_iff first,
      Frames.received_eq_self_iff second]
  | refuse =>
    simp only [express, bind, Option.bind_eq_some_iff] at expressed
    obtain ⟨bytes, first, same⟩ := expressed
    obtain rfl := Option.some.inj same
    simp [PipeFront.Body.received, texts, Frames.received_eq_self_iff first]
  | bound =>
    simp only [express, bind, Option.bind_eq_some_iff] at expressed
    obtain ⟨pipeName, first, same⟩ := expressed
    obtain rfl := Option.some.inj same
    simp [PipeFront.Body.received, texts, Frames.received_eq_self_iff first]
  | peerClosed =>
    simp only [express, bind, Option.bind_eq_some_iff] at expressed
    obtain ⟨reason, -, same⟩ := expressed
    obtain rfl := Option.some.inj same
    simp [PipeFront.Body.received, texts]
  | admission | credit | pause | resume | close | lock | quit | ping | «open» | writeDone
  | lockAck | quitAck | pong | errorReport | data | «end» =>
    obtain rfl := Option.some.inj expressed
    simp [PipeFront.Body.received, texts]

/-! ## Payloads, read by read -/

/-- What the two payload phases make of the same bytes. -/
def Matches : Except BodyFault Payload → Except PipeFront.BodyFault PipeFront.Body → Prop
  | .ok payload, .ok body => ∃ plain, payload.express = some plain ∧ plain.received = body
  | .error (.malformed reason), .error (.malformed other) => reason.express = other
  | .error .panics, .error .rangeError => True
  | _, _ => False

variable {r : PayloadReader} {main : Int × List UInt8 → Except PipeFront.BodyFault PipeFront.Body}

theorem matches_number {α : Type} {width : Nat} {ofNat : Nat → α}
    {next : α × PayloadReader → Except BodyFault Payload}
    (later : ∀ (n : Nat) (rest : List UInt8), n < 256 ^ width →
      Matches (next (ofNat n, { r with bytes := rest })) (main (n, rest))) :
    Matches (r.number width ofNat >>= next) (PipeFront.readUnsigned width r.bytes >>= main) := by
  rw [PayloadReader.number, PipeFront.readUnsigned]
  cases taken : LittleEndian.read width r.bytes with
  | none => trivial
  | some pair =>
    obtain ⟨value, rest⟩ := pair
    obtain ⟨nonneg, fits, -⟩ := LittleEndian.read_eq_some.1 taken
    obtain ⟨n, rfl⟩ := Int.eq_ofNat_of_zero_le nonneg
    exact later n rest (by exact_mod_cast fits)

theorem str_spec (r : PayloadReader) (live : r.reason = none) :
    (∃ value bytes plain rest, PipeFront.decodeString r.bytes = .ok (value, rest) ∧
        r.str = (bytes, ⟨rest, none⟩) ∧ expressText bytes = some plain ∧
        plain.received = value) ∨
      ∃ reason left, PipeFront.decodeString r.bytes = .error (.malformed reason.express) ∧
        r.str = ([], ⟨left, some reason⟩) := by
  obtain ⟨reader, latched⟩ := r
  obtain rfl : latched = none := live
  rw [PipeFront.decodeString, PipeFront.strBytes, PayloadReader.str,
    if_neg (fun latched => latched rfl)]
  dsimp only
  cases LittleEndian.read 2 reader with
  | none => exact .inr ⟨.stringOverPayload, reader, rfl, rfl⟩
  | some pair =>
    obtain ⟨length, rest⟩ := pair
    dsimp only
    by_cases over' : rest.length < length.toNat
    · rw [if_pos over', if_pos over']
      exact .inr ⟨.stringOverPayload, rest, rfl, rfl⟩
    · rw [if_neg over', if_neg over']
      dsimp only
      rw [JsString.decodeText, utf8Valid]
      cases decoded : (rest.take length.toNat).toByteArray.utf8Decode? with
      | none => exact .inr ⟨.invalidUTF8, rest.drop length.toNat, rfl, rfl⟩
      | some characters =>
        refine .inl ⟨_, rest.take length.toNat, JsString.units characters.toList, _, rfl, rfl,
          ?_, ?_⟩
        · rw [expressText, decoded]
          rfl
        · rw [JsString.received, JsString.scalars_units]

theorem str_latched (left : List UInt8) (reason : Reason) :
    PayloadReader.str ⟨left, some reason⟩ = ([], ⟨left, some reason⟩) := rfl

variable {rest : List UInt8}

theorem matches_ends {payload : Except BodyFault Payload}
    {body : Except PipeFront.BodyFault PipeFront.Body} (later : Matches payload body) :
    Matches ((PayloadReader.mk rest none).ends >>= fun _ => payload)
      (PipeFront.nothingRemains rest >>= fun _ => body) := by
  rw [PayloadReader.ends, PayloadReader.remaining, PipeFront.nothingRemains]
  by_cases empty : rest.length = 0
  · simpa [refuseIf, empty, bind, Except.bind] using later
  · simp [refuseIf, empty, bind, Except.bind, Matches, Reason.express]

theorem matches_refuseIf {p q : Prop} [Decidable p] [Decidable q] {reason : Reason}
    {payload : Except BodyFault Payload} {body : Except PipeFront.BodyFault PipeFront.Body}
    (same : p ↔ q) (later : ¬ p → Matches payload body) :
    Matches (refuseIf p (.malformed reason) >>= fun _ => payload)
      (refuseIf q (.malformed reason.express) >>= fun _ => body) := by
  by_cases refused : p
  · have other := same.1 refused
    simp [refuseIf, refused, other, bind, Except.bind, Matches]
  · have other : ¬ q := fun holds => refused (same.2 holds)
    simpa [refuseIf, refused, other, bind, Except.bind] using later refused

theorem matches_ok {payload : Payload} {plain body : PipeFront.Body}
    (expressed : payload.express = some plain) (same : plain.received = body) :
    Matches (.ok payload) (.ok body) := ⟨plain, expressed, same⟩

theorem toNat_number (n : Nat) :
    (n < 256 ^ 1 → (UInt8.ofNat n).toNat = n) ∧ (n < 256 ^ 2 → (UInt16.ofNat n).toNat = n) ∧
      (n < 256 ^ 4 → (UInt32.ofNat n).toNat = n) ∧ (n < 256 ^ 8 → (UInt64.ofNat n).toNat = n) :=
  ⟨fun fits => UInt8.toNat_ofNat_of_lt' (by omega), fun fits => UInt16.toNat_ofNat_of_lt' (by omega),
    fun fits => UInt32.toNat_ofNat_of_lt' (by omega),
    fun fits => UInt64.toNat_ofNat_of_lt' (by omega)⟩

theorem matches_u8 {next : UInt8 × PayloadReader → Except BodyFault Payload}
    (later : ∀ (v : UInt8) (rest : List UInt8),
      Matches (next (v, { r with bytes := rest })) (main (v.toNat, rest))) :
    Matches (r.u8 >>= next) (PipeFront.readU8 r.bytes >>= main) := by
  refine matches_number fun n rest fits => ?_
  have same := (toNat_number n).1 fits
  have step := later (UInt8.ofNat n) rest
  rwa [same] at step

theorem matches_u16 {next : UInt16 × PayloadReader → Except BodyFault Payload}
    (later : ∀ (v : UInt16) (rest : List UInt8),
      Matches (next (v, { r with bytes := rest })) (main (v.toNat, rest))) :
    Matches (r.u16 >>= next) (PipeFront.readU16 r.bytes >>= main) := by
  refine matches_number fun n rest fits => ?_
  have same := (toNat_number n).2.1 fits
  have step := later (UInt16.ofNat n) rest
  rwa [same] at step

theorem matches_u32 {next : UInt32 × PayloadReader → Except BodyFault Payload}
    (later : ∀ (v : UInt32) (rest : List UInt8),
      Matches (next (v, { r with bytes := rest })) (main (v.toNat, rest))) :
    Matches (r.u32 >>= next) (PipeFront.readU32 r.bytes >>= main) := by
  refine matches_number fun n rest fits => ?_
  have same := (toNat_number n).2.2.1 fits
  have step := later (UInt32.ofNat n) rest
  rwa [same] at step

theorem matches_u64 {next : UInt64 × PayloadReader → Except BodyFault Payload}
    (later : ∀ (v : UInt64) (rest : List UInt8),
      Matches (next (v, { r with bytes := rest })) (main (v.toNat, rest))) :
    Matches (r.u64 >>= next) (PipeFront.readU64 r.bytes >>= main) := by
  refine matches_number fun n rest fits => ?_
  have same := (toNat_number n).2.2.2 fits
  have step := later (UInt64.ofNat n) rest
  rwa [same] at step

theorem matches_text {next : Text → Except BodyFault Payload}
    {main : JsString → Except PipeFront.BodyFault PipeFront.Body}
    (later : ∀ (bytes : Text) (plain : JsString), expressText bytes = some plain →
      Matches (next bytes) (main plain.received)) :
    Matches
      (do
        let (bytes, r) := PayloadReader.str ⟨rest, none⟩
        r.settled
        r.ends
        next bytes)
      (do
        let (bytes, reader) ← PipeFront.decodeString rest
        PipeFront.nothingRemains reader
        main bytes) := by
  rcases str_spec ⟨rest, none⟩ rfl with
    ⟨_, bytes, plain, left, read, str, expressed, rfl⟩ | ⟨reason, left, read, str⟩
  · rw [str]
    dsimp only at read ⊢
    rw [read]
    exact matches_ends (later bytes plain expressed)
  · rw [str]
    dsimp only at read ⊢
    rw [read]
    rfl

theorem matches_texts {next : Text → Text → Except BodyFault Payload}
    {main : JsString → JsString → Except PipeFront.BodyFault PipeFront.Body}
    (later : ∀ (bytes other : Text) (plain second : JsString), expressText bytes = some plain →
      expressText other = some second →
      Matches (next bytes other) (main plain.received second.received)) :
    Matches
      (do
        let (bytes, r) := PayloadReader.str ⟨rest, none⟩
        let (other, r) := r.str
        r.settled
        r.ends
        next bytes other)
      (do
        let (bytes, reader) ← PipeFront.decodeString rest
        let (other, reader) ← PipeFront.decodeString reader
        PipeFront.nothingRemains reader
        main bytes other) := by
  rcases str_spec ⟨rest, none⟩ rfl with
    ⟨_, bytes, plain, left, read, str, expressed, rfl⟩ | ⟨reason, left, read, str⟩
  · rw [str]
    dsimp only at read ⊢
    rw [read]
    exact matches_text fun other second expressedOther =>
      later bytes other plain second expressed expressedOther
  · rw [str]
    dsimp only at read ⊢
    rw [read, str_latched]
    rfl

/-! ## The payload phase -/

theorem boundFlagsReserved_iff (flags : UInt8) :
    flags &&& ~~~ boundFlagsMask ≠ 0 ↔ PipeFront.boundFlagsReserved flags.toNat = true := by
  have table : ∀ n : Fin 256, UInt8.ofNat n &&& ~~~ boundFlagsMask ≠ 0 ↔
      PipeFront.boundFlagsReserved n = true := by
    decide +kernel
  have here := table ⟨flags.toNat, flags.toNat_lt⟩
  rwa [UInt8.ofNat_toNat] at here

theorem peerClosedReason_iff (reason : UInt8) :
    (reason < 1 ∨ 3 < reason) ↔ PipeFront.peerClosedReasonName reason.toNat = none := by
  have table : ∀ n : Fin 256, (UInt8.ofNat n < 1 ∨ 3 < UInt8.ofNat n) ↔
      PipeFront.peerClosedReasonName n = none := by
    decide +kernel
  have here := table ⟨reason.toNat, reason.toNat_lt⟩
  rwa [UInt8.ofNat_toNat] at here

theorem codeDefined_iff (code : UInt16) :
    codeDefined code = false ↔ (code.toNat : Int) ∉ PipeFront.errorCodeValues := by
  have here (n : Nat) (small : n < 65536) : (code.toNat : Int) = n ↔ code = UInt16.ofNat n := by
    constructor
    · intro same
      have same : code.toNat = n := by exact_mod_cast same
      rw [← same, UInt16.ofNat_toNat]
    · rintro rfl
      rw [UInt16.toNat_ofNat_of_lt' small]
  have listed : (code.toNat : Int) ∈ PipeFront.errorCodeValues ↔
      code ∈ errorCodeNames.map Prod.fst := by
    have h1 := here 1 (by omega)
    have h2 := here 2 (by omega)
    have h3 := here 3 (by omega)
    have h4 := here 4 (by omega)
    have h5 := here 5 (by omega)
    have h6 := here 6 (by omega)
    have h7 := here 7 (by omega)
    have h8 := here 8 (by omega)
    have h9 := here 9 (by omega)
    simp only [PipeFront.errorCodeValues, errorCodeNames, List.map, List.mem_cons,
      List.not_mem_nil, or_false]
    exact or_congr h1 (or_congr h2 (or_congr h3 (or_congr h4 (or_congr h5 (or_congr h6
      (or_congr h7 (or_congr h8 h9)))))))
  rw [listed]
  constructor
  · intro undefined member
    simp only [errorCodeNames, List.map, List.mem_cons, List.not_mem_nil, or_false] at member
    rcases member with rfl | rfl | rfl | rfl | rfl | rfl | rfl | rfl | rfl <;>
      exact absurd undefined (by decide)
  · intro missing
    have unlisted : errorCodeNames.lookup code = none := by
      rw [List.lookup_eq_none_iff]
      intro entry member
      rw [bne_iff_ne]
      rintro rfl
      exact missing (List.mem_map_of_mem member)
    rw [codeDefined, unlisted]
    rfl

theorem decodeFields_matches (data : type ≠ .data) (payload : List UInt8) :
    Matches (decodeFields ⟨payload, none⟩ (typeByte type)) (PipeFront.decodeFields payload type) := by
  cases type with
  | data => exact absurd rfl data
  | hello =>
    refine matches_u16 fun protocolVersion rest => ?_
    refine matches_u8 fun kind rest => ?_
    refine matches_u16 fun maxRaw rest => ?_
    refine matches_u32 fun creditBytes rest => ?_
    refine matches_u32 fun chunkBytes rest => ?_
    refine matches_u32 fun handshakeDeadlineMs rest => ?_
    refine matches_u32 fun initialAdmissionEpoch rest => ?_
    refine @matches_texts rest
      (fun pipeName timeoutRefusalBytes => do
        refuseIf (kind ≠ sddlKind) (.malformed .sddlKind)
        return .hello protocolVersion kind maxRaw creditBytes chunkBytes handshakeDeadlineMs
          initialAdmissionEpoch pipeName timeoutRefusalBytes)
      (fun pipeName timeoutRefusalBytes => do
        refuseIf ((kind.toNat : Int) ≠ PipeFront.pipeFrontSddlKind) (.malformed .sddlKind)
        return .hello protocolVersion.toNat kind.toNat maxRaw.toNat creditBytes.toNat
          chunkBytes.toNat handshakeDeadlineMs.toNat initialAdmissionEpoch.toNat pipeName
          timeoutRefusalBytes)
      fun pipeName timeoutRefusalBytes plain second first' second' => ?_
    refine @matches_refuseIf _ _ _ _ .sddlKind _ _ ?_ fun _ => ?_
    · have same : ((kind.toNat : Int) = 1) ↔ kind = 1 := by
        rw [← UInt8.toNat_inj]
        exact_mod_cast Iff.rfl
      exact not_congr same.symm
    · exact matches_ok (by simp only [Payload.express, first', second']; rfl) rfl
  | helloAck =>
    refine matches_u16 fun protocolVersion rest => ?_
    refine matches_u32 fun announcedGeneration rest => ?_
    refine matches_u32 fun pid rest => ?_
    refine @matches_texts rest
      (fun frontVersion buildHash => do
        refuseIf (announcedGeneration = 0) (.malformed .generationZero)
        return .helloAck protocolVersion announcedGeneration pid frontVersion buildHash)
      (fun frontVersion buildHash => do
        refuseIf ((announcedGeneration.toNat : Int) = 0) (.malformed .generationZero)
        return .helloAck protocolVersion.toNat announcedGeneration.toNat pid.toNat frontVersion
          buildHash)
      fun frontVersion buildHash plain second first' second' => ?_
    refine @matches_refuseIf _ _ _ _ .generationZero _ _ ?_ fun _ => ?_
    · rw [← UInt32.toNat_inj]
      exact_mod_cast Iff.rfl
    · exact matches_ok (by simp only [Payload.express, first', second']; rfl) rfl
  | bound =>
    refine matches_u8 fun flagsApplied rest => ?_
    refine @matches_text rest
      (fun pipeName => do
        refuseIf (flagsApplied &&& ~~~ boundFlagsMask ≠ 0) (.malformed .boundFlagsReserved)
        return .bound flagsApplied pipeName)
      (fun pipeName => do
        refuseIf (PipeFront.boundFlagsReserved flagsApplied.toNat)
          (.malformed .boundFlagsReserved)
        return .bound flagsApplied.toNat pipeName)
      fun pipeName plain first' => ?_
    refine @matches_refuseIf _ _ _ _ .boundFlagsReserved _ _ (boundFlagsReserved_iff flagsApplied)
      fun _ => ?_
    exact matches_ok (by simp only [Payload.express, first']; rfl) rfl
  | refuse =>
    refine @matches_text payload (fun bytes => return .refuse bytes)
      (fun bytes => return .refuse bytes) fun bytes plain first' => ?_
    exact matches_ok (by simp only [Payload.express, first']; rfl) rfl
  | peerClosed =>
    refine matches_u8 fun reason rest => ?_
    refine matches_u64 fun throughDataSequence rest => ?_
    refine matches_ends ?_
    cases named : PipeFront.peerClosedReasonName reason.toNat with
    | none =>
      rw [refuseIf, if_pos ((peerClosedReason_iff reason).2 named)]
      rfl
    | some name =>
      have defined : ¬ (reason < 1 ∨ 3 < reason) := by
        rw [peerClosedReason_iff, named]
        exact Option.some_ne_none name
      rw [refuseIf, if_neg defined]
      exact matches_ok (by simp only [Payload.express, named]; rfl) rfl
  | lockAck =>
    refine matches_u32 fun admissionEpoch rest => ?_
    refine matches_u32 fun closedCount rest => ?_
    exact matches_ends (matches_ok rfl rfl)
  | error =>
    refine matches_u16 fun code rest => ?_
    refine matches_u32 fun count rest => ?_
    refine matches_ends ?_
    refine @matches_refuseIf _ _ _ _ .errorCode _ _ (codeDefined_iff code) fun _ => ?_
    exact matches_ok rfl rfl
  | admission | credit | lock | quit =>
    refine matches_u32 fun value rest => ?_
    exact matches_ends (matches_ok rfl rfl)
  | ping | pong | writeDone =>
    refine matches_u64 fun value rest => ?_
    exact matches_ends (matches_ok rfl rfl)
  | pause | resume | close | «open» | quitAck | «end» => exact matches_ends (matches_ok rfl rfl)

theorem decodeBody_matches (payload : List UInt8) :
    Matches (decodeBody (typeByte type) payload) (PipeFront.decodeBodyOf type payload) := by
  by_cases data : type = .data
  · subst data
    have byte : typeByte .data = 0x81 := rfl
    rw [decodeBody, PipeFront.decodeBodyOf, byte, if_pos rfl, if_pos rfl]
    split
    · rfl
    · exact matches_ok rfl rfl
  · have other : typeByte type ≠ 0x81 := by
      cases type with
      | data => exact absurd rfl data
      | _ => decide
    have fixed : (fixedBytes.lookup (typeByte type)).getD 0 = type.fixed := by
      cases type with
      | data => exact absurd rfl data
      | _ => rfl
    rw [decodeBody, PipeFront.decodeBodyOf, if_neg other, if_neg data, fixed]
    split
    · rfl
    · exact decodeFields_matches type data payload

theorem decodeBody_of_unknown {byte : FrameType} (nameless : typeName byte = "")
    (payload : List UInt8) : ∃ reason, decodeBody byte payload = .error (.malformed reason) := by
  rw [decodeBody]
  split
  · rename_i data
    rw [data] at nameless
    contradiction
  · split
    · exact ⟨_, rfl⟩
    · unfold decodeFields
      split <;> first | contradiction | exact ⟨_, rfl⟩

theorem decodeBody_ne_panics (byte : FrameType) (payload : List UInt8) :
    decodeBody byte payload ≠ .error .panics := by
  intro panics
  rcases named_or_unknown byte with ⟨nameless, -⟩ | ⟨type, rfl, -⟩
  · obtain ⟨reason, refused⟩ := decodeBody_of_unknown nameless payload
    cases refused.symm.trans panics
  · have agrees := decodeBody_matches type payload
    rw [panics] at agrees
    cases main : PipeFront.decodeBodyOf type payload with
    | ok body =>
      rw [main] at agrees
      exact agrees
    | error fault =>
      cases fault with
      | malformed reason =>
        rw [main] at agrees
        exact agrees
      | rangeError => exact PipeFront.decodeBodyOf_ne_rangeError type payload main

theorem express_of_decodeBody {byte : FrameType} {payload : List UInt8} {body : Payload}
    (decoded : decodeBody byte payload = .ok body) : ∃ plain, body.express = some plain := by
  rcases named_or_unknown byte with ⟨nameless, -⟩ | ⟨type, rfl, -⟩
  · obtain ⟨reason, refused⟩ := decodeBody_of_unknown nameless payload
    rw [refused] at decoded
    contradiction
  · have agrees := decodeBody_matches type payload
    rw [decoded] at agrees
    cases main : PipeFront.decodeBodyOf type payload with
    | ok other =>
      rw [main] at agrees
      obtain ⟨plain, expressed, -⟩ := agrees
      exact ⟨plain, expressed⟩
    | error fault =>
      rw [main] at agrees
      exact agrees.elim

end Vex.Bridge.Frames
