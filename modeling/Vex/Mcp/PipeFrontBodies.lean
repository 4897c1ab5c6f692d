import Vex.Mcp.PipeFrontPayload

/-!
# The layouts of the payloads, compared

The encoder writes the fields of a body and the decoder reads them; the two
layouts are compared here, field by field and in both directions.

An encoded body is decoded as the same body with each text as it is received,
unless it asks for a kind of security descriptor that the decoder does not take.
A decoded body is written in the bytes it was read from unless a text in them
had a byte order mark in front.
-/

namespace Vex.Mcp.PipeFront

open Vex.Library

/-! ## Fields -/

variable {value : Int} {field : String}

variable {checked : Int}

theorem requireAtMost_eq_ok {limit : Int} : requireAtMost limit value field = .ok checked ↔
      0 ≤ value ∧ value ≤ limit ∧ value = checked := by
  rw [requireAtMost]
  split <;> simp <;> omega

theorem requireU8_eq_ok :
    requireU8 value field = .ok checked ↔ 0 ≤ value ∧ value ≤ 0xff ∧ value = checked :=
  requireAtMost_eq_ok

theorem requireU16_eq_ok :
    requireU16 value field = .ok checked ↔ 0 ≤ value ∧ value ≤ 0xffff ∧ value = checked :=
  requireAtMost_eq_ok

theorem requireU32_eq_ok :
    requireU32 value field = .ok checked ↔ 0 ≤ value ∧ value ≤ 0xffffffff ∧ value = checked :=
  requireAtMost_eq_ok

theorem requireU64_eq_ok : requireU64 value field = .ok checked ↔
      0 ≤ value ∧ value ≤ 0xffffffffffffffff ∧ value = checked :=
  requireAtMost_eq_ok

variable {reader rest : List UInt8}

theorem readU8_eq_ok :
    readU8 reader = .ok (value, rest) ↔ 0 ≤ value ∧ value ≤ 0xff ∧ reader = u8 value ++ rest := by
  rw [readU8, readUnsigned_eq_ok, LittleEndian.read_eq_some, u8]
  exact and_congr_right fun _ => and_congr_left' (by omega)

theorem readU16_eq_ok : readU16 reader = .ok (value, rest) ↔
      0 ≤ value ∧ value ≤ 0xffff ∧ reader = u16 value ++ rest := by
  rw [readU16, readUnsigned_eq_ok, LittleEndian.read_eq_some, u16]
  exact and_congr_right fun _ => and_congr_left' (by omega)

theorem readU32_eq_ok : readU32 reader = .ok (value, rest) ↔
      0 ≤ value ∧ value ≤ 0xffffffff ∧ reader = u32 value ++ rest := by
  rw [readU32, readUnsigned_eq_ok, LittleEndian.read_eq_some, u32]
  exact and_congr_right fun _ => and_congr_left' (by omega)

theorem readU64_eq_ok : readU64 reader = .ok (value, rest) ↔
      0 ≤ value ∧ value ≤ 0xffffffffffffffff ∧ reader = u64 value ++ rest := by
  rw [readU64, readUnsigned_eq_ok, LittleEndian.read_eq_some, u64]
  exact and_congr_right fun _ => and_congr_left' (by omega)

@[simp] theorem length_u8 (value : Int) : (u8 value).length = 1 :=
  LittleEndian.length_encode _ _

@[simp] theorem length_u16 (value : Int) : (u16 value).length = 2 :=
  LittleEndian.length_encode _ _

@[simp] theorem length_u32 (value : Int) : (u32 value).length = 4 :=
  LittleEndian.length_encode _ _

@[simp] theorem length_u64 (value : Int) : (u64 value).length = 8 :=
  LittleEndian.length_encode _ _

/-- A text field in its bytes: a length of two bytes, and the bytes of the text. -/
def strField (bytes : List UInt8) : List UInt8 := u16 bytes.length ++ bytes

theorem str_eq_ok {value : JsString} {written : List UInt8} : str value field = .ok written ↔
      (JsString.encodeText value).length ≤ 0xffff ∧
        strField (JsString.encodeText value) = written := by
  simp [str, strField, bind_eq_ok, pure, Except.pure]

variable {bytes : List UInt8}

theorem strBytes_eq_some : strBytes reader = some (bytes, rest) ↔
      bytes.length ≤ 0xffff ∧ reader = strField bytes ++ rest := by
  constructor
  · intro taken
    unfold strBytes at taken
    split at taken
    · contradiction
    · rename_i length left front
      obtain ⟨nonneg, below, rfl⟩ := LittleEndian.read_eq_some.1 front
      split at taken
      · contradiction
      · obtain ⟨rfl, rfl⟩ := Prod.mk.inj (Option.some.inj taken)
        have whole : (left.take length.toNat).length = length.toNat :=
          List.length_take_of_le (by omega)
        have written : ((left.take length.toNat).length : Int) = length := by omega
        refine ⟨by omega, ?_⟩
        rw [strField, written, u16, List.append_assoc, List.take_append_drop]
  · rintro ⟨short, rfl⟩
    have length : LittleEndian.read 2 (LittleEndian.encode 2 bytes.length ++ (bytes ++ rest)) =
        some ((bytes.length : Int), bytes ++ rest) :=
      LittleEndian.read_encode 2 (by omega) (by omega) _
    have enough : ¬ (bytes ++ rest).length < bytes.length := by
      rw [List.length_append]
      omega
    rw [strBytes, strField, u16, List.append_assoc, length]
    simp only [Int.toNat_natCast, if_neg enough, List.take_left, List.drop_left]

theorem strBytes_append (short : bytes.length ≤ 0xffff) (rest : List UInt8) :
    strBytes (strField bytes ++ rest) = some (bytes, rest) :=
  strBytes_eq_some.2 ⟨short, rfl⟩

theorem decodeString_eq_ok {value : JsString} : decodeString reader = .ok (value, rest) ↔
      ∃ bytes, bytes.length ≤ 0xffff ∧ reader = strField bytes ++ rest ∧
        JsString.decodeText bytes = some value := by
  constructor
  · intro decoded
    unfold decodeString at decoded
    split at decoded
    · contradiction
    · rename_i bytes left taken
      obtain ⟨short, rfl⟩ := strBytes_eq_some.1 taken
      split at decoded
      · contradiction
      · obtain ⟨rfl, rfl⟩ := Prod.mk.inj (Except.ok.inj decoded)
        exact ⟨bytes, short, rfl, ‹_›⟩
  · rintro ⟨bytes, short, rfl, decoded⟩
    simp only [decodeString, strBytes_append short, decoded]

variable {other : List UInt8}

theorem strField_append_inj {left : List UInt8} (short : bytes.length ≤ 0xffff)
    (otherShort : other.length ≤ 0xffff) (same : strField bytes ++ rest = strField other ++ left) :
    bytes = other ∧ rest = left := by
  have taken := strBytes_append short rest
  rw [same, strBytes_append otherShort] at taken
  obtain ⟨rfl, rfl⟩ := Prod.mk.inj (Option.some.inj taken)
  exact ⟨rfl, rfl⟩

theorem strField_inj (short : bytes.length ≤ 0xffff) (otherShort : other.length ≤ 0xffff)
    (same : strField bytes = strField other) : bytes = other :=
  (strField_append_inj short otherShort (congrArg (· ++ []) same)).1

/-! ## Bodies -/

def Body.texts : Body → List JsString
  | .hello _ _ _ _ _ _ _ pipeName timeoutRefusalBytes => [pipeName, timeoutRefusalBytes]
  | .refuse bytes => [bytes]
  | .helloAck _ _ _ frontVersion buildHash => [frontVersion, buildHash]
  | .bound _ pipeName => [pipeName]
  | _ => []

/-- The kind of security descriptor a body asks for is the one the protocol defines. -/
def Body.SddlKindDefined : Body → Prop
  | .hello _ sddlKind _ _ _ _ _ _ _ => sddlKind = pipeFrontSddlKind
  | _ => True

instance (body : Body) : Decidable body.SddlKindDefined := by
  cases body <;> unfold Body.SddlKindDefined <;> infer_instance

/-- The body with each text as the decoder makes it of the encoded one. -/
def Body.received : Body → Body
  | .hello protocolVersion sddlKind maxRaw creditBytes chunkBytes handshakeDeadlineMs
      initialAdmissionEpoch pipeName timeoutRefusalBytes =>
      .hello protocolVersion sddlKind maxRaw creditBytes chunkBytes handshakeDeadlineMs
        initialAdmissionEpoch pipeName.received timeoutRefusalBytes.received
  | .refuse bytes => .refuse bytes.received
  | .helloAck protocolVersion announcedGeneration pid frontVersion buildHash =>
    .helloAck protocolVersion announcedGeneration pid frontVersion.received buildHash.received
  | .bound flagsApplied pipeName => .bound flagsApplied pipeName.received
  | body => body

theorem Body.received_eq_self {body : Body} :
    body.received = body ↔ ∀ text ∈ body.texts, text.received = text := by
  cases body <;> simp [Body.received, Body.texts]

theorem read_u8 (nonneg : 0 ≤ value) (fits : value ≤ 0xff) (rest : List UInt8) :
    readU8 (u8 value ++ rest) = .ok (value, rest) :=
  readU8_eq_ok.2 ⟨nonneg, fits, rfl⟩

theorem read_u16 (nonneg : 0 ≤ value) (fits : value ≤ 0xffff) (rest : List UInt8) :
    readU16 (u16 value ++ rest) = .ok (value, rest) :=
  readU16_eq_ok.2 ⟨nonneg, fits, rfl⟩

theorem read_u32 (nonneg : 0 ≤ value) (fits : value ≤ 0xffffffff) (rest : List UInt8) :
    readU32 (u32 value ++ rest) = .ok (value, rest) :=
  readU32_eq_ok.2 ⟨nonneg, fits, rfl⟩

theorem read_u64 (nonneg : 0 ≤ value) (fits : value ≤ 0xffffffffffffffff) (rest : List UInt8) :
    readU64 (u64 value ++ rest) = .ok (value, rest) :=
  readU64_eq_ok.2 ⟨nonneg, fits, rfl⟩

theorem read_str {value : JsString} (short : (JsString.encodeText value).length ≤ 0xffff)
    (rest : List UInt8) :
    decodeString (strField (JsString.encodeText value) ++ rest) = .ok (value.received, rest) :=
  decodeString_eq_ok.2 ⟨_, short, rfl, JsString.decodeText_encodeText value⟩

variable {payload : List UInt8}

theorem read_alone_u32 (encoded : (do let checked ← requireU32 value field; return u32 checked) =
      (.ok payload : Except EncodeError (List UInt8))) : readU32 payload = .ok (value, []) := by
  simp only [bind_eq_ok, requireU32_eq_ok] at encoded
  obtain ⟨_, ⟨nonneg, fits, rfl⟩, written⟩ := encoded
  obtain rfl := Except.ok.inj written
  exact readU32_eq_ok.2 ⟨nonneg, fits, (List.append_nil _).symm⟩

theorem read_alone_u64 (encoded : (do let checked ← requireU64 value field; return u64 checked) =
      (.ok payload : Except EncodeError (List UInt8))) : readU64 payload = .ok (value, []) := by
  simp only [bind_eq_ok, requireU64_eq_ok] at encoded
  obtain ⟨_, ⟨nonneg, fits, rfl⟩, written⟩ := encoded
  obtain rfl := Except.ok.inj written
  exact readU64_eq_ok.2 ⟨nonneg, fits, (List.append_nil _).symm⟩

@[simp] theorem bind_ok {α β : Type} (value : α) (next : α → Except BodyFault β) :
    (Except.ok value >>= next) = next value := rfl

@[simp] theorem nothingRemains_nil : nothingRemains [] = .ok () := rfl

/-- An encoded body is decoded as it is received, unless it is a `HELLO` with a kind of
security descriptor that the decoder does not take. -/
theorem decodeFields_of_encode {body : Body} (encoded : encodeBody body = .ok payload) :
    decodeFields payload body.type =
      if body.SddlKindDefined then .ok body.received else .error (.malformed .sddlKind) := by
  cases body with
  | hello protocolVersion sddlKind maxRaw creditBytes chunkBytes handshakeDeadlineMs
      initialAdmissionEpoch pipeName timeoutRefusalBytes =>
      simp only [encodeBody, bind_eq_ok, requireU8_eq_ok, requireU16_eq_ok, requireU32_eq_ok,
        str_eq_ok] at encoded
      obtain ⟨_, ⟨nonneg1, fits1, rfl⟩, _, ⟨nonneg2, fits2, rfl⟩, _, ⟨nonneg3, fits3, rfl⟩,
        _, ⟨nonneg4, fits4, rfl⟩, _, ⟨nonneg5, fits5, rfl⟩, _, ⟨nonneg6, fits6, rfl⟩,
        _, ⟨nonneg7, fits7, rfl⟩, _, ⟨short1, rfl⟩, _, ⟨short2, rfl⟩, written⟩ := encoded
      obtain rfl := Except.ok.inj written
      have last := read_str short2 []
      rw [List.append_nil] at last
      simp only [Body.type, decodeFields, read_u16 nonneg1 fits1, read_u8 nonneg2 fits2,
        read_u16 nonneg3 fits3, read_u32 nonneg4 fits4, read_u32 nonneg5 fits5,
        read_u32 nonneg6 fits6, read_u32 nonneg7 fits7, read_str short1, last, bind_ok,
        nothingRemains_nil, Body.SddlKindDefined, Body.received]
      by_cases taken : sddlKind = pipeFrontSddlKind
      · simp [taken, refuseIf, pure, Except.pure]
      · simp [taken, refuseIf]
  | helloAck protocolVersion announcedGeneration pid frontVersion buildHash =>
    simp only [encodeBody, bind_eq_ok, requireU16_eq_ok, requireU32_eq_ok, refuseIf_eq_ok,
      str_eq_ok] at encoded
    obtain ⟨_, ⟨nonneg1, fits1, rfl⟩, _, fresh, _, ⟨nonneg2, fits2, rfl⟩,
      _, ⟨nonneg3, fits3, rfl⟩, _, ⟨short1, rfl⟩, _, ⟨short2, rfl⟩, written⟩ := encoded
    obtain rfl := Except.ok.inj written
    have last := read_str short2 []
    rw [List.append_nil] at last
    simp only [Body.type, decodeFields, read_u16 nonneg1 fits1, read_u32 nonneg2 fits2,
      read_u32 nonneg3 fits3, read_str short1, last, bind_ok, nothingRemains_nil,
      Body.SddlKindDefined, Body.received]
    simp [fresh, refuseIf, pure, Except.pure]
  | refuse bytes =>
    obtain ⟨short, rfl⟩ := str_eq_ok.1 encoded
    have last := read_str short []
    rw [List.append_nil] at last
    simp [Body.type, decodeFields, last, Body.SddlKindDefined, Body.received, pure, Except.pure]
  | bound flagsApplied pipeName =>
    simp only [encodeBody, bind_eq_ok, requireU8_eq_ok, refuseIf_eq_ok, str_eq_ok] at encoded
    obtain ⟨_, ⟨nonneg, fits, rfl⟩, _, defined, _, ⟨short, rfl⟩, written⟩ := encoded
    obtain rfl := Except.ok.inj written
    have last := read_str short []
    rw [List.append_nil] at last
    simp only [Body.type, decodeFields, read_u8 nonneg fits, last, bind_ok, nothingRemains_nil,
      Body.SddlKindDefined, Body.received]
    simp [defined, refuseIf, pure, Except.pure]
  | peerClosed reason throughDataSequence =>
    simp only [encodeBody, bind_eq_ok, requireU64_eq_ok] at encoded
    obtain ⟨_, ⟨nonneg, fits, rfl⟩, written⟩ := encoded
    obtain rfl := Except.ok.inj written
    have last := read_u64 nonneg fits []
    rw [List.append_nil] at last
    have named : peerClosedReasonName reason.id = some reason := by cases reason <;> decide
    have range : 0 ≤ reason.id ∧ reason.id ≤ 0xff := by cases reason <;> decide
    have first := read_u8 range.1 range.2 (u64 throughDataSequence)
    simp [Body.type, decodeFields, first, last, named, Body.SddlKindDefined, Body.received,
      pure, Except.pure]
  | lockAck admissionEpoch closedCount =>
    simp only [encodeBody, bind_eq_ok, requireU32_eq_ok] at encoded
    obtain ⟨_, ⟨nonneg1, fits1, rfl⟩, _, ⟨nonneg2, fits2, rfl⟩, written⟩ := encoded
    obtain rfl := Except.ok.inj written
    have last := read_u32 nonneg2 fits2 []
    rw [List.append_nil] at last
    simp [Body.type, decodeFields, read_u32 nonneg1 fits1, last, Body.SddlKindDefined,
      Body.received, pure, Except.pure]
  | error code count =>
    simp only [encodeBody, bind_eq_ok, requireU16_eq_ok, requireU32_eq_ok,
      refuseIf_eq_ok] at encoded
    obtain ⟨_, ⟨nonneg1, fits1, rfl⟩, _, known, _, ⟨nonneg2, fits2, rfl⟩, written⟩ := encoded
    obtain rfl := Except.ok.inj written
    have last := read_u32 nonneg2 fits2 []
    rw [List.append_nil] at last
    simp only [Body.type, decodeFields, read_u16 nonneg1 fits1, last, bind_ok,
      nothingRemains_nil, Body.SddlKindDefined, Body.received]
    simp [not_not.1 known, refuseIf, pure, Except.pure]
  | data payload =>
    simp only [encodeBody, bind_eq_ok, refuseIf_eq_ok] at encoded
    obtain ⟨_, nonempty, written⟩ := encoded
    obtain rfl := Except.ok.inj written
    simp [Body.type, decodeFields, Body.SddlKindDefined, Body.received, pure, Except.pure]
  | admission | lock | credit | quit =>
    simp [Body.type, decodeFields, read_alone_u32 encoded, Body.SddlKindDefined, Body.received,
      pure, Except.pure]
  | ping | pong | writeDone =>
    simp [Body.type, decodeFields, read_alone_u64 encoded, Body.SddlKindDefined, Body.received,
      pure, Except.pure]
  | pause | resume | close | «open» | quitAck | «end» =>
    obtain rfl := Except.ok.inj encoded
    rfl

theorem fixed_le_length {body : Body} (encoded : encodeBody body = .ok payload) :
    body.type.fixed ≤ payload.length := by
  cases body <;>
    simp only [encodeBody, bind_eq_ok, requireU8_eq_ok, requireU16_eq_ok, requireU32_eq_ok,
      requireU64_eq_ok, refuseIf_eq_ok, str_eq_ok, strField, pure, Except.pure,
      Except.ok.injEq] at encoded <;>
    simp only [Body.type, FrameType.fixed] <;>
    grind [length_u8, length_u16, length_u32, length_u64]

theorem decodeBodyOf_of_encode {body : Body} (encoded : encodeBody body = .ok payload) :
    decodeBodyOf body.type payload =
      if body.SddlKindDefined then .ok body.received else .error (.malformed .sddlKind) := by
  rw [decodeBodyOf]
  by_cases data : body.type = .data
  · obtain ⟨bytes, rfl⟩ : ∃ bytes, body = .data bytes := by
      cases body <;> simp_all [Body.type]
    simp only [encodeBody, bind_eq_ok, refuseIf_eq_ok] at encoded
    obtain ⟨_, nonempty, written⟩ := encoded
    obtain rfl := Except.ok.inj written
    simp [Body.type, nonempty, Body.SddlKindDefined, Body.received]
  · have enough := fixed_le_length encoded
    rw [if_neg data, if_neg (by omega), decodeFields_of_encode encoded]

/-! ## Bytes -/

/-- The first `count` text fields of a payload from an offset on, in their bytes. -/
def textsFrom : Nat → List UInt8 → List (List UInt8)
  | 0, _ => []
  | count + 1, reader =>
    match strBytes reader with
    | none => []
    | some (bytes, reader) => bytes :: textsFrom count reader

/-- The text fields of a payload, in their bytes. -/
def rawTexts (payload : List UInt8) : FrameType → List (List UInt8)
  | .hello => textsFrom 2 (payload.drop 21)
  | .refuse => textsFrom 1 payload
  | .helloAck => textsFrom 2 (payload.drop 10)
  | .bound => textsFrom 1 (payload.drop 1)
  | _ => []

theorem textsFrom_succ (count : Nat) (short : bytes.length ≤ 0xffff) :
    textsFrom (count + 1) (strField bytes ++ rest) = bytes :: textsFrom count rest := by
  rw [textsFrom, strBytes_append short]

theorem texts_written {first second : List UInt8} {text later : JsString}
    (short : first.length ≤ 0xffff) (shortLater : second.length ≤ 0xffff)
    (decoded : JsString.decodeText first = some text)
    (decodedLater : JsString.decodeText second = some later) :
    ((JsString.encodeText text).length ≤ 0xffff ∧ (JsString.encodeText later).length ≤ 0xffff ∧
        strField (JsString.encodeText text) ++ strField (JsString.encodeText later) =
          strField first ++ (strField second ++ [])) ↔
      ∀ bytes ∈ textsFrom 2 (strField first ++ (strField second ++ [])),
        ¬ JsString.markBytes <+: bytes := by
  rw [textsFrom_succ 1 short, textsFrom_succ 0 shortLater, textsFrom, List.append_nil,
    List.forall_mem_cons, List.forall_mem_singleton, ← JsString.encode_of_decode decoded,
    ← JsString.encode_of_decode decodedLater]
  constructor
  · rintro ⟨fits, fitsLater, same⟩
    obtain ⟨sameFirst, sameSecond⟩ := strField_append_inj fits short same
    exact ⟨sameFirst, strField_inj fitsLater shortLater sameSecond⟩
  · rintro ⟨rfl, rfl⟩
    exact ⟨short, shortLater, rfl⟩

theorem text_written {text : JsString} (short : bytes.length ≤ 0xffff)
    (decoded : JsString.decodeText bytes = some text) :
    ((JsString.encodeText text).length ≤ 0xffff ∧
        strField (JsString.encodeText text) = strField bytes ++ []) ↔
      ∀ raw ∈ textsFrom 1 (strField bytes ++ []), ¬ JsString.markBytes <+: raw := by
  rw [textsFrom_succ 0 short, textsFrom, List.append_nil, List.forall_mem_singleton,
    ← JsString.encode_of_decode decoded]
  constructor
  · rintro ⟨fits, same⟩
    exact strField_inj fits short same
  · rintro rfl
    exact ⟨short, rfl⟩

variable {type : FrameType}

/-- A body that was read is written in the bytes it was read from exactly when no text in
them had a byte order mark in front. -/
theorem encode_of_decodeFields {body : Body} (nonempty : type = .data → payload.length ≠ 0)
    (decoded : decodeFields payload type = .ok body) :
    body.type = type ∧ (encodeBody body = .ok payload ↔
      ∀ bytes ∈ rawTexts payload type, ¬ JsString.markBytes <+: bytes) := by
  cases type with
  | hello =>
    simp only [decodeFields, bind_eq_ok, Prod.exists, readU8_eq_ok, readU16_eq_ok,
      readU32_eq_ok, decodeString_eq_ok, nothingRemains_eq_ok, refuseIf_eq_ok] at decoded
    obtain ⟨protocolVersion, _, ⟨nonneg1, fits1, rfl⟩, sddlKind, _, ⟨nonneg2, fits2, rfl⟩,
      maxRaw, _, ⟨nonneg3, fits3, rfl⟩, creditBytes, _, ⟨nonneg4, fits4, rfl⟩,
      chunkBytes, _, ⟨nonneg5, fits5, rfl⟩, handshakeDeadlineMs, _, ⟨nonneg6, fits6, rfl⟩,
      initialAdmissionEpoch, _, ⟨nonneg7, fits7, rfl⟩,
      pipeName, _, ⟨first, short, rfl, text⟩, timeoutRefusalBytes, _,
      ⟨second, shortLater, rfl, later⟩, _, rfl, _, -, result⟩ := decoded
    obtain rfl := Except.ok.inj result
    have offset : (u16 protocolVersion ++ (u8 sddlKind ++ (u16 maxRaw ++ (u32 creditBytes ++
        (u32 chunkBytes ++ (u32 handshakeDeadlineMs ++ (u32 initialAdmissionEpoch ++
          (strField first ++ (strField second ++ []))))))))).drop 21 =
        strField first ++ (strField second ++ []) := by
      simp [List.drop_append, List.drop_of_length_le]
    rw [rawTexts, offset, ← texts_written short shortLater text later]
    refine ⟨rfl, ?_⟩
    simp only [encodeBody, bind_eq_ok, requireU8_eq_ok, requireU16_eq_ok, requireU32_eq_ok,
      str_eq_ok, pure, Except.pure, Except.ok.injEq]
    constructor
    · rintro ⟨_, ⟨-, -, rfl⟩, _, ⟨-, -, rfl⟩, _, ⟨-, -, rfl⟩, _, ⟨-, -, rfl⟩, _, ⟨-, -, rfl⟩,
        _, ⟨-, -, rfl⟩, _, ⟨-, -, rfl⟩, _, ⟨fits, rfl⟩, _, ⟨fitsLater, rfl⟩, same⟩
      simp only [List.append_cancel_left_eq] at same
      exact ⟨fits, fitsLater, same⟩
    · rintro ⟨fits, fitsLater, same⟩
      exact ⟨_, ⟨nonneg1, fits1, rfl⟩, _, ⟨nonneg2, fits2, rfl⟩, _, ⟨nonneg3, fits3, rfl⟩,
        _, ⟨nonneg4, fits4, rfl⟩, _, ⟨nonneg5, fits5, rfl⟩, _, ⟨nonneg6, fits6, rfl⟩,
        _, ⟨nonneg7, fits7, rfl⟩, _, ⟨fits, rfl⟩, _, ⟨fitsLater, rfl⟩, by rw [same]⟩
  | helloAck =>
    simp only [decodeFields, bind_eq_ok, Prod.exists, readU16_eq_ok, readU32_eq_ok,
      decodeString_eq_ok, nothingRemains_eq_ok, refuseIf_eq_ok] at decoded
    obtain ⟨protocolVersion, _, ⟨nonneg1, fits1, rfl⟩, announcedGeneration, _,
      ⟨nonneg2, fits2, rfl⟩, pid, _, ⟨nonneg3, fits3, rfl⟩,
      frontVersion, _, ⟨first, short, rfl, text⟩, buildHash, _,
      ⟨second, shortLater, rfl, later⟩, _, rfl, _, fresh, result⟩ := decoded
    obtain rfl := Except.ok.inj result
    have offset : (u16 protocolVersion ++ (u32 announcedGeneration ++ (u32 pid ++
        (strField first ++ (strField second ++ []))))).drop 10 =
        strField first ++ (strField second ++ []) := by
      simp [List.drop_append, List.drop_of_length_le]
    rw [rawTexts, offset, ← texts_written short shortLater text later]
    refine ⟨rfl, ?_⟩
    simp only [encodeBody, bind_eq_ok, requireU16_eq_ok, requireU32_eq_ok, refuseIf_eq_ok,
      str_eq_ok, pure, Except.pure, Except.ok.injEq]
    constructor
    · rintro ⟨_, ⟨-, -, rfl⟩, _, -, _, ⟨-, -, rfl⟩, _, ⟨-, -, rfl⟩, _, ⟨fits, rfl⟩,
        _, ⟨fitsLater, rfl⟩, same⟩
      simp only [List.append_cancel_left_eq] at same
      exact ⟨fits, fitsLater, same⟩
    · rintro ⟨fits, fitsLater, same⟩
      exact ⟨_, ⟨nonneg1, fits1, rfl⟩, (), fresh, _, ⟨nonneg2, fits2, rfl⟩,
        _, ⟨nonneg3, fits3, rfl⟩, _, ⟨fits, rfl⟩, _, ⟨fitsLater, rfl⟩, by rw [same]⟩
  | refuse =>
    simp only [decodeFields, bind_eq_ok, Prod.exists, decodeString_eq_ok,
      nothingRemains_eq_ok] at decoded
    obtain ⟨bytes, _, ⟨raw, short, rfl, text⟩, _, rfl, result⟩ := decoded
    obtain rfl := Except.ok.inj result
    rw [rawTexts, ← text_written short text]
    exact ⟨rfl, str_eq_ok⟩
  | bound =>
    simp only [decodeFields, bind_eq_ok, Prod.exists, readU8_eq_ok, decodeString_eq_ok,
      nothingRemains_eq_ok, refuseIf_eq_ok] at decoded
    obtain ⟨flagsApplied, _, ⟨nonneg, fits, rfl⟩, pipeName, _, ⟨raw, short, rfl, text⟩,
      _, rfl, _, defined, result⟩ := decoded
    obtain rfl := Except.ok.inj result
    have offset : (u8 flagsApplied ++ (strField raw ++ [])).drop 1 = strField raw ++ [] := by simp
    rw [rawTexts, offset, ← text_written short text]
    refine ⟨rfl, ?_⟩
    simp only [encodeBody, bind_eq_ok, requireU8_eq_ok, refuseIf_eq_ok, str_eq_ok, pure,
      Except.pure, Except.ok.injEq]
    constructor
    · rintro ⟨_, ⟨-, -, rfl⟩, _, -, _, ⟨fitsText, rfl⟩, same⟩
      simp only [List.append_cancel_left_eq] at same
      exact ⟨fitsText, same⟩
    · rintro ⟨fitsText, same⟩
      exact ⟨_, ⟨nonneg, fits, rfl⟩, (), defined, _, ⟨fitsText, rfl⟩, by rw [same]⟩
  | peerClosed =>
    simp only [decodeFields, bind_eq_ok, Prod.exists, readU8_eq_ok, readU64_eq_ok,
      nothingRemains_eq_ok] at decoded
    obtain ⟨raw, _, ⟨-, -, rfl⟩, throughDataSequence, _, ⟨nonneg, fits, rfl⟩, _, rfl,
      result⟩ := decoded
    split at result
    · contradiction
    · rename_i reason named
      obtain rfl := Except.ok.inj result
      have same : reason.id = raw := by simpa using List.find?_some named
      refine ⟨rfl, iff_of_true ?_ (by simp [rawTexts])⟩
      rw [List.append_nil, ← same]
      exact bind_eq_ok.2 ⟨_, requireU64_eq_ok.2 ⟨nonneg, fits, rfl⟩, rfl⟩
  | lockAck =>
    simp only [decodeFields, bind_eq_ok, Prod.exists, readU32_eq_ok,
      nothingRemains_eq_ok] at decoded
    obtain ⟨admissionEpoch, _, ⟨nonneg1, fits1, rfl⟩, closedCount, _, ⟨nonneg2, fits2, rfl⟩,
      _, rfl, result⟩ := decoded
    obtain rfl := Except.ok.inj result
    refine ⟨rfl, iff_of_true ?_ (by simp [rawTexts])⟩
    rw [List.append_nil]
    exact bind_eq_ok.2 ⟨_, requireU32_eq_ok.2 ⟨nonneg1, fits1, rfl⟩,
      bind_eq_ok.2 ⟨_, requireU32_eq_ok.2 ⟨nonneg2, fits2, rfl⟩, rfl⟩⟩
  | error =>
    simp only [decodeFields, bind_eq_ok, Prod.exists, readU16_eq_ok, readU32_eq_ok,
      nothingRemains_eq_ok, refuseIf_eq_ok] at decoded
    obtain ⟨code, _, ⟨nonneg1, fits1, rfl⟩, count, _, ⟨nonneg2, fits2, rfl⟩, _, rfl,
      _, known, result⟩ := decoded
    obtain rfl := Except.ok.inj result
    refine ⟨rfl, iff_of_true ?_ (by simp [rawTexts])⟩
    rw [List.append_nil]
    exact bind_eq_ok.2 ⟨_, requireU16_eq_ok.2 ⟨nonneg1, fits1, rfl⟩,
      bind_eq_ok.2 ⟨(), refuseIf_eq_ok.2 known,
        bind_eq_ok.2 ⟨_, requireU32_eq_ok.2 ⟨nonneg2, fits2, rfl⟩, rfl⟩⟩⟩
  | admission | lock | credit | quit =>
    simp only [decodeFields, bind_eq_ok, Prod.exists, readU32_eq_ok,
      nothingRemains_eq_ok] at decoded
    obtain ⟨value, _, ⟨nonneg, fits, rfl⟩, _, rfl, result⟩ := decoded
    obtain rfl := Except.ok.inj result
    refine ⟨rfl, iff_of_true ?_ (by simp [rawTexts])⟩
    rw [List.append_nil]
    exact bind_eq_ok.2 ⟨_, requireU32_eq_ok.2 ⟨nonneg, fits, rfl⟩, rfl⟩
  | ping | pong | writeDone =>
    simp only [decodeFields, bind_eq_ok, Prod.exists, readU64_eq_ok,
      nothingRemains_eq_ok] at decoded
    obtain ⟨value, _, ⟨nonneg, fits, rfl⟩, _, rfl, result⟩ := decoded
    obtain rfl := Except.ok.inj result
    refine ⟨rfl, iff_of_true ?_ (by simp [rawTexts])⟩
    rw [List.append_nil]
    exact bind_eq_ok.2 ⟨_, requireU64_eq_ok.2 ⟨nonneg, fits, rfl⟩, rfl⟩
  | pause | resume | close | «open» | quitAck | «end» =>
    simp only [decodeFields, bind_eq_ok, nothingRemains_eq_ok] at decoded
    obtain ⟨_, rfl, result⟩ := decoded
    obtain rfl := Except.ok.inj result
    exact ⟨rfl, iff_of_true rfl (by simp [rawTexts])⟩
  | data =>
    obtain rfl := Except.ok.inj decoded
    refine ⟨rfl, iff_of_true ?_ (by simp [rawTexts])⟩
    exact bind_eq_ok.2 ⟨(), refuseIf_eq_ok.2 (nonempty rfl), rfl⟩

theorem encode_of_decodeBodyOf {body : Body} (decoded : decodeBodyOf type payload = .ok body) :
    body.type = type ∧ (encodeBody body = .ok payload ↔
      ∀ bytes ∈ rawTexts payload type, ¬ JsString.markBytes <+: bytes) := by
  rw [decodeBodyOf] at decoded
  split at decoded
  · rename_i isData
    split at decoded
    · contradiction
    · rename_i nonempty
      subst isData
      exact encode_of_decodeFields (fun _ => nonempty) decoded
  · rename_i notData
    split at decoded
    · contradiction
    · exact encode_of_decodeFields (fun isData => absurd isData notData) decoded

end Vex.Mcp.PipeFront
