import Vex.Mcp.PipeFrontBodies
import Vex.Mcp.PipeFrontDecoder

/-!
# The round trip of frames

A frame the encoder accepts and the frame a decoder makes of its bytes need not
be the same. The decoder drops a byte order mark from the front of a text, the
encoder replaces a lone surrogate, and the encoder writes any kind of security
descriptor where the decoder takes one. Nothing else comes between the two, and
the two directions of the round trip are settled by exactly these conditions.
-/

namespace Vex.Mcp.PipeFront

open Vex.Library

/-! ## Headers -/

@[simp] theorem length_encodeHeader (generation connection sequence type length : Int) :
    (encodeHeader generation connection sequence type length).length = headerBytes := by
  simp [encodeHeader, headerBytes]

theorem getUnsigned_append {width offset : Nat} {front rest : List UInt8}
    (behind : front.length ≤ offset) :
    getUnsigned width offset (front ++ rest) = getUnsigned width (offset - front.length) rest := by
  rw [getUnsigned, getUnsigned, List.drop_append, List.drop_of_length_le behind, List.nil_append]

theorem getUnsigned_front (width : Nat) {value : Int} (nonneg : 0 ≤ value)
    (fits : value < 256 ^ width) (rest : List UInt8) :
    getUnsigned width 0 (LittleEndian.encode width value ++ rest) = value := by
  rw [getUnsigned, List.drop_zero, List.take_left' (LittleEndian.length_encode width value),
    LittleEndian.decode_encode width nonneg fits]

theorem getUnsigned_of_front {width offset : Nat} {front rest : List UInt8}
    (inFront : offset + width ≤ front.length) :
    getUnsigned width offset (front ++ rest) = getUnsigned width offset front := by
  rw [getUnsigned, getUnsigned, List.drop_append_of_le_length (by omega),
    List.take_append_of_le_length (by rw [List.length_drop]; omega)]

variable {bytes : List UInt8}

theorem drop_eq_getUnsigned (width offset : Nat) (enough : offset + width ≤ bytes.length) :
    bytes.drop offset =
      LittleEndian.encode width (getUnsigned width offset bytes) ++ bytes.drop (offset + width) := by
  have whole : ((bytes.drop offset).take width).length = width :=
    List.length_take_of_le (by rw [List.length_drop]; omega)
  have written := LittleEndian.encode_decode ((bytes.drop offset).take width)
  rw [whole] at written
  rw [getUnsigned, written, ← List.drop_drop, List.take_append_drop]

theorem getUnsigned_range {width offset : Nat} (enough : offset + width ≤ bytes.length) :
    0 ≤ getUnsigned width offset bytes ∧ getUnsigned width offset bytes < 256 ^ width := by
  have whole : ((bytes.drop offset).take width).length = width :=
    List.length_take_of_le (by rw [List.length_drop]; omega)
  have below := LittleEndian.decode_lt ((bytes.drop offset).take width)
  rw [whole] at below
  exact ⟨LittleEndian.decode_nonneg _, below⟩

theorem parseHeader_encodeHeader (type : FrameType) {generation connection sequence length : Int}
    (generationRange : 0 ≤ generation ∧ generation ≤ 0xffffffff)
    (connectionRange : 0 ≤ connection ∧ connection ≤ 0xffffffff)
    (sequenceRange : 0 ≤ sequence ∧ sequence ≤ 0xffffffffffffffff)
    (lengthRange : 0 ≤ length ∧ length ≤ 0xffffffff) :
    magicOf (encodeHeader generation connection sequence type.id length) = magic ∧
      parseHeader (encodeHeader generation connection sequence type.id length) =
        ⟨generation, connection, sequence, type.id, 0, 0, length⟩ := by
  have typeRange := type.id_range
  have last := getUnsigned_front 4 lengthRange.1 (by omega) []
  rw [List.append_nil] at last
  constructor
  · rw [magicOf, encodeHeader]
    exact getUnsigned_front 4 (by decide) (by decide) _
  · rw [parseHeader, encodeHeader]
    simp only [getUnsigned_append, length_u8, length_u16, length_u32, length_u64,
      Nat.reduceLeDiff, Nat.reduceSub]
    simp only [u8, u16, u32, u64, getUnsigned_front 4 generationRange.1 (by omega),
      getUnsigned_front 4 connectionRange.1 (by omega),
      getUnsigned_front 8 sequenceRange.1 (by omega),
      getUnsigned_front 1 typeRange.1 typeRange.2, getUnsigned_front 1 (le_refl 0) (by decide),
      getUnsigned_front 2 (le_refl 0) (by decide), last]

theorem encodeHeader_parseHeader (whole : bytes.length = headerBytes)
    (magicSet : magicOf bytes = magic) (flagsClear : (parseHeader bytes).flags = 0)
    (reservedClear : (parseHeader bytes).reserved = 0) :
    encodeHeader (parseHeader bytes).generation (parseHeader bytes).connection
      (parseHeader bytes).sequence (parseHeader bytes).type (parseHeader bytes).length = bytes := by
  rw [headerBytes] at whole
  have nothingBehind : bytes.drop 28 = [] := List.drop_of_length_le (by omega)
  have split : bytes.drop 0 = u32 (magicOf bytes) ++ (u32 (parseHeader bytes).generation ++
      (u32 (parseHeader bytes).connection ++ (u64 (parseHeader bytes).sequence ++
        (u8 (parseHeader bytes).type ++ (u8 (parseHeader bytes).flags ++
          (u16 (parseHeader bytes).reserved ++ (u32 (parseHeader bytes).length ++
            bytes.drop 28))))))) := by
    rw [drop_eq_getUnsigned 4 0 (by omega), drop_eq_getUnsigned 4 (0 + 4) (by omega),
      drop_eq_getUnsigned 4 (0 + 4 + 4) (by omega), drop_eq_getUnsigned 8 (0 + 4 + 4 + 4) (by omega),
      drop_eq_getUnsigned 1 (0 + 4 + 4 + 4 + 8) (by omega),
      drop_eq_getUnsigned 1 (0 + 4 + 4 + 4 + 8 + 1) (by omega),
      drop_eq_getUnsigned 2 (0 + 4 + 4 + 4 + 8 + 1 + 1) (by omega),
      drop_eq_getUnsigned 4 (0 + 4 + 4 + 4 + 8 + 1 + 1 + 2) (by omega)]
    rfl
  rw [magicSet, flagsClear, reservedClear, nothingBehind, List.append_nil, List.drop_zero] at split
  exact split.symm

/-! ## What the encoder accepts -/

theorem encodePipeFrontFrame_eq_ok {frame : Frame} : encodePipeFrontFrame frame = .ok bytes ↔
      planeCarries frame.plane frame.body.type = true ∧
      (0 ≤ frame.generation ∧ frame.generation ≤ 0xffffffff) ∧
      (frame.body.type.isBootstrap = true ↔ frame.generation = 0) ∧
      (0 ≤ frame.connection ∧ frame.connection ≤ 0xffffffff) ∧
      (connectionMustBeZero frame.body.type = true ↔ frame.connection = 0) ∧
      (1 ≤ frame.sequence ∧ frame.sequence < sequenceExhausted) ∧
      ∃ payload, encodeBody frame.body = .ok payload ∧ payload.length ≤ payloadBound frame.plane ∧
        bytes = encodeHeader frame.generation frame.connection frame.sequence
          frame.body.type.id payload.length ++ payload := by
  have bound : payloadBound frame.plane ≤ 32768 := by cases frame.plane <;> decide
  simp only [encodePipeFrontFrame, bind_eq_ok, refuseIf_eq_ok, requireU32_eq_ok, pure, Except.pure,
    Except.ok.injEq]
  cases bootstrap : frame.body.type.isBootstrap <;>
    cases mustBeZero : connectionMustBeZero frame.body.type <;> grind

/-! ## Pushing the bytes of one frame -/

namespace FrameDecoder

variable {plane : Plane}

variable {decoder : FrameDecoder plane}

theorem pushFrom_nil (nothing : decoder.staged = none) : decoder.pushFrom [] = (decoder, []) := by
  have short : (decoder.header ++ []).length < headerBytes := by
    rw [List.append_nil]
    exact decoder.header_lt
  rw [pushFrom_header_short nothing short]
  simp [withHeader]

/-- What a push of one frame returns, from what its delivery returns. -/
def outcome : Except (FrameDecoder plane × DecodeEvent) (FrameDecoder plane × DecodeEvent) →
    FrameDecoder plane × List DecodeEvent
  | .error (failed, event) => (failed, [event])
  | .ok (next, event) => (next, [event])

theorem pushFrom_whole {staged : FrameDecoder plane} {head payload : List UInt8}
    (nothing : decoder.staged = none) (fresh : decoder.header = [])
    (headLength : head.length = headerBytes) (stages : decoder.stage head = .ok staged)
    (payloadLength : (payload.length : Int) = (parseHeader head).length) :
    decoder.pushFrom (head ++ payload) = outcome (staged.deliver (parseHeader head) payload) := by
  obtain ⟨-, ⟨s, inStage, sameHeader, empty⟩, -⟩ := stage_eq_ok stages
  have full : decoder.header.length + head.length = headerBytes := by
    rw [fresh, List.length_nil, Nat.zero_add, headLength]
  have fullPayload : ((s.payload ++ payload).length : Int) = s.header.length := by
    rw [empty, sameHeader, List.nil_append, payloadLength]
  have round := pushFrom_payload_full inStage fullPayload []
  rw [List.append_nil, empty, sameHeader, List.nil_append] at round
  rw [pushFrom_header_full nothing full, fresh, List.nil_append, stages]
  simp only [round]
  cases delivers : staged.deliver (parseHeader head) payload with
  | error failure => rfl
  | ok delivered =>
    obtain ⟨next, event⟩ := delivered
    simp only [pushFrom_nil (staged_of_deliver delivers), outcome]

variable {last : FrameDecoder plane}

theorem eq_nil_of_quiet {chunk : List UInt8} (nothing : decoder.staged = none)
    (quiet : decoder.pushFrom chunk = (last, [])) (empty : last.retainedBytes = 0) :
    chunk = [] := by
  cases decoder.round chunk with
  | headerShort _ _ short =>
    rw [pushFrom_header_short nothing short] at quiet
    obtain ⟨rfl, -⟩ := Prod.mk.inj quiet
    simp only [retainedBytes, withHeader, nothing, List.length_append] at empty
    exact List.length_eq_zero_iff.1 (by omega)
  | headerFull front rest _ full =>
    rw [pushFrom_header_full nothing full] at quiet
    split at quiet
    · exact absurd (Prod.mk.inj quiet).2 (by simp)
    · rename_i staged stages
      obtain ⟨-, ⟨s, inStage, -⟩, -⟩ := stage_eq_ok stages
      cases staged.round rest with
      | headerShort _ gone | headerFull _ _ gone =>
        exact absurd (inStage.symm.trans gone) (by simp)
      | payloadShort _ s' inStage' short =>
        rw [pushFrom_payload_short inStage' short] at quiet
        obtain ⟨rfl, -⟩ := Prod.mk.inj quiet
        simp only [retainedBytes, withPayload, headerBytes] at empty
        omega
      | payloadFull _ _ s' inStage' full' =>
        rw [pushFrom_payload_full inStage' full'] at quiet
        split at quiet <;> exact absurd (Prod.mk.inj quiet).2 (by simp)
  | payloadShort _ staged inStage | payloadFull _ _ staged inStage =>
    exact absurd (inStage.symm.trans nothing) (by simp)

variable {bytes : List UInt8} {frame : Frame}

/-- Bytes that are taken as one frame are a header that passes and a payload of the length it
declares, which is decoded. -/
theorem whole_of_pushFrom (nothing : decoder.staged = none) (fresh : decoder.header = [])
    (taken : decoder.pushFrom bytes = (last, [.frame frame])) (empty : last.retainedBytes = 0) :
    ∃ head payload body, bytes = head ++ payload ∧ head.length = headerBytes ∧
      (payload.length : Int) = (parseHeader head).length ∧
      decoder.validateHeader (magicOf head) (parseHeader head) = .ok () ∧
      decodeBody (parseHeader head) payload = .ok body ∧
      frame = ⟨plane, (parseHeader head).generation, (parseHeader head).connection,
        (parseHeader head).sequence, body⟩ := by
  cases decoder.round bytes with
  | headerShort _ _ short =>
    rw [pushFrom_header_short nothing short] at taken
    exact absurd (Prod.mk.inj taken).2 (by simp)
  | headerFull head rest _ full =>
    rw [pushFrom_header_full nothing full, fresh, List.nil_append] at taken
    rw [fresh, List.length_nil, Nat.zero_add] at full
    split at taken
    · rename_i failed event refused
      obtain ⟨reason, -, failure⟩ := stage_eq_error refused
      obtain rfl := (Prod.mk.inj failure).2
      exact absurd (Prod.mk.inj taken).2 (by simp)
    · rename_i staged stages
      obtain ⟨valid, ⟨s, inStage, sameHeader, emptyPayload⟩, -⟩ := stage_eq_ok stages
      cases staged.round rest with
      | headerShort _ gone | headerFull _ _ gone =>
        exact absurd (inStage.symm.trans gone) (by simp)
      | payloadShort _ s' inStage' short =>
        rw [pushFrom_payload_short inStage' short] at taken
        exact absurd (Prod.mk.inj taken).2 (by simp)
      | payloadFull payload rest s' inStage' fullPayload =>
        obtain rfl := Option.some.inj (inStage.symm.trans inStage')
        rw [pushFrom_payload_full inStage fullPayload] at taken
        rw [emptyPayload, sameHeader, List.nil_append] at taken fullPayload
        split at taken
        · rename_i failed event refused
          obtain ⟨reason, -, failure⟩ := deliver_eq_error refused
          obtain rfl := (Prod.mk.inj failure).2
          exact absurd (Prod.mk.inj taken).2 (by simp)
        · rename_i next event delivers
          obtain ⟨body, decoded, rfl, idle, -⟩ := deliver_eq_ok delivers
          obtain ⟨rfl, events⟩ := Prod.mk.inj taken
          obtain ⟨same, quiet⟩ := List.cons.inj events
          obtain rfl := eq_nil_of_quiet idle (Prod.ext rfl quiet) empty
          refine ⟨head, payload, body, by rw [List.append_nil], full, fullPayload, valid,
            decoded, ?_⟩
          exact (DecodeEvent.frame.inj same).symm
  | payloadShort _ staged inStage | payloadFull _ _ staged inStage =>
    exact absurd (inStage.symm.trans nothing) (by simp)

/-! ## From the frame to the frame -/

theorem validateHeader_of_encoded (encoded : encodePipeFrontFrame frame = .ok bytes) :
    ∃ head payload, bytes = head ++ payload ∧ head.length = headerBytes ∧
      encodeBody frame.body = .ok payload ∧
      parseHeader head = ⟨frame.generation, frame.connection, frame.sequence,
        frame.body.type.id, 0, 0, payload.length⟩ ∧
      (create frame.plane frame.generation frame.sequence).validateHeader (magicOf head)
        (parseHeader head) = .ok () := by
  obtain ⟨carried, generationRange, generationRule, connectionRange, connectionRule,
    ⟨fromFirst, notExhausted⟩, payload, written, bounded, rfl⟩ :=
    encodePipeFrontFrame_eq_ok.1 encoded
  have bound : payloadBound frame.plane ≤ 32768 := by cases frame.plane <;> decide
  have exhausted : sequenceExhausted = 18446744073709551615 := rfl
  have sequenceRange : 0 ≤ frame.sequence ∧ frame.sequence ≤ 0xffffffffffffffff := by omega
  have lengthRange : 0 ≤ (payload.length : Int) ∧ (payload.length : Int) ≤ 0xffffffff := by omega
  obtain ⟨magicRead, headerRead⟩ := parseHeader_encodeHeader frame.body.type generationRange
    connectionRange sequenceRange lengthRange
  refine ⟨_, payload, rfl, length_encodeHeader _ _ _ _ _, written, headerRead, ?_⟩
  rw [headerRead, magicRead, validateHeader_eq_ok]
  refine ⟨rfl, rfl, rfl, frame.body.type, typeNameById_id _, carried, ?_, notExhausted, rfl,
    Int.ofNat_le.2 bounded, connectionRule⟩
  split
  · rename_i bootstrap
    exact ⟨generationRule.1 bootstrap, generationRule.1 bootstrap⟩
  · rename_i later
    exact ⟨fun unchosen => later (generationRule.2 unchosen), rfl⟩

theorem push_create (generation sequence : Int) (nonempty : bytes ≠ []) :
    (create plane generation sequence).push bytes =
      (create plane generation sequence).pushFrom bytes :=
  if_neg fun stops => stops.elim (· rfl) fun empty =>
    nonempty (List.length_eq_zero_iff.1 empty)

section
variable (encoded : encodePipeFrontFrame frame = .ok bytes)
include encoded

theorem push_encoded :
    ∃ (header : ParsedHeader) (payload : List UInt8) (staged : FrameDecoder frame.plane),
      staged.latched = none ∧
      header = ⟨frame.generation, frame.connection, frame.sequence, frame.body.type.id, 0, 0,
        payload.length⟩ ∧
      decodeBody header payload = (if frame.body.SddlKindDefined then .ok frame.body.received
        else .error (.malformed .sddlKind)) ∧
      (create frame.plane frame.generation frame.sequence).push bytes =
        outcome (staged.deliver header payload) := by
  obtain ⟨head, payload, rfl, headLength, written, headerRead, valid⟩ :=
    validateHeader_of_encoded encoded
  obtain ⟨staged, stages⟩ := stage_of_valid valid
  have payloadLength : (payload.length : Int) = (parseHeader head).length := by rw [headerRead]
  refine ⟨parseHeader head, payload, staged, ?_, headerRead, ?_, ?_⟩
  · rw [(stage_eq_ok stages).2.2.2.2.2.2]
    rfl
  · rw [headerRead, decodeBody]
    simp only [typeNameById_id]
    exact decodeBodyOf_of_encode written
  · have nonempty : head ++ payload ≠ [] := by
      intro empty
      rw [(List.append_eq_nil_iff.1 empty).1] at headLength
      contradiction
    rw [push_create _ _ nonempty]
    exact pushFrom_whole rfl rfl headLength stages payloadLength

theorem push_encoded_of_defined (defined : frame.body.SddlKindDefined) :
    ((create frame.plane frame.generation frame.sequence).push bytes).2 =
        [.frame { frame with body := frame.body.received }] ∧
      ((create frame.plane frame.generation frame.sequence).push bytes).1.latched = none := by
  obtain ⟨header, payload, staged, live, rfl, decoded, pushed⟩ := push_encoded encoded
  rw [if_pos defined] at decoded
  obtain ⟨next, event, delivers⟩ := deliver_of_decoded staged decoded
  obtain ⟨body, decoded', rfl, -, -, latched, -, -⟩ := deliver_eq_ok delivers
  obtain rfl := Except.ok.inj (decoded.symm.trans decoded')
  rw [pushed, delivers]
  exact ⟨rfl, latched.trans live⟩

theorem push_encoded_of_undefined (undefined : ¬ frame.body.SddlKindDefined) :
    ((create frame.plane frame.generation frame.sequence).push bytes).1.latched ≠ none := by
  obtain ⟨header, payload, staged, -, -, decoded, pushed⟩ := push_encoded encoded
  rw [if_neg undefined] at decoded
  rw [pushed, deliver_of_malformed decoded]
  simp [fail, outcome]

end

/-! ## From the bytes to the bytes -/

/-- The text fields of the bytes of a frame, as they are written. -/
def textFields (bytes : List UInt8) : List (List UInt8) :=
  match typeNameById (parseHeader bytes).type with
  | none => []
  | some type => rawTexts (bytes.drop headerBytes) type

/-- Bytes that a fresh decoder takes as one frame are those the encoder writes for it exactly
when the frame has a sequence the encoder takes and no text in the bytes had a byte order
mark in front. -/
theorem encoded_of_push {generation sequence : Int}
    (taken : (create plane generation sequence).push bytes = (last, [.frame frame]))
    (empty : last.retainedBytes = 0) :
    encodePipeFrontFrame frame = .ok bytes ↔
      1 ≤ sequence ∧ ∀ text ∈ textFields bytes, ¬ JsString.markBytes <+: text := by
  have nonempty : bytes ≠ [] := by
    rintro rfl
    exact absurd (Prod.mk.inj taken).2 (by simp)
  rw [push_create _ _ nonempty] at taken
  obtain ⟨head, payload, body, rfl, headLength, payloadLength, valid, decoded, rfl⟩ :=
    whole_of_pushFrom rfl rfl taken empty
  obtain ⟨magicRead, flags, reserved, type, named, carried, generationRule, notExhausted,
    expected, bounded, connectionRule⟩ := validateHeader_eq_ok.1 valid
  have whole : head.length = 28 := headLength
  have sameType : (parseHeader (head ++ payload)).type = (parseHeader head).type :=
    getUnsigned_of_front (by omega)
  have written := encodeHeader_parseHeader headLength magicRead flags reserved
  have bodyDecoded : decodeBodyOf type payload = .ok body := by
    rw [decodeBody] at decoded
    simpa only [named] using decoded
  obtain ⟨bodyType, bodyWritten⟩ := encode_of_decodeBodyOf bodyDecoded
  have generationRange : 0 ≤ (parseHeader head).generation ∧
      (parseHeader head).generation < 256 ^ 4 := getUnsigned_range (by omega)
  have connectionRange : 0 ≤ (parseHeader head).connection ∧
      (parseHeader head).connection < 256 ^ 4 := getUnsigned_range (by omega)
  have bootstrapRule : type.isBootstrap = true ↔ (parseHeader head).generation = 0 := by
    split at generationRule
    · rename_i bootstrap
      exact iff_of_true bootstrap generationRule.2
    · rename_i later
      exact iff_of_false later fun unchosen => generationRule.1 (generationRule.2 ▸ unchosen)
  have texts : textFields (head ++ payload) = rawTexts payload type := by
    rw [textFields, sameType, named]
    simp only [List.drop_left' headLength]
  have start : (create plane generation sequence).expected = sequence := rfl
  rw [texts, ← bodyWritten, encodePipeFrontFrame_eq_ok]
  simp only [bodyType]
  constructor
  · rintro ⟨-, -, -, -, -, ⟨fromFirst, -⟩, payload', encoded, -, same⟩
    obtain ⟨-, rfl⟩ := List.append_inj same (by rw [headLength, length_encodeHeader])
    exact ⟨by omega, encoded⟩
  · rintro ⟨fromFirst, encoded⟩
    refine ⟨carried, ⟨generationRange.1, by omega⟩, bootstrapRule,
      ⟨connectionRange.1, by omega⟩, connectionRule, ⟨by omega, notExhausted⟩, payload, encoded,
      by omega, ?_⟩
    rw [id_of_typeNameById named, payloadLength, written]

/-! ## The round trip -/

/-- A frame the encoder accepts is given back by the decoder exactly when its kind of security
descriptor is the defined one and its texts are well formed and have no byte order mark in
front. Bytes the decoder takes as one frame are written again exactly when the decoder expected
a sequence the encoder takes and no text in them had a mark in front. -/
theorem frame_round_trip (frame : Frame) (bytes : List UInt8) :
    (encodePipeFrontFrame frame = .ok bytes →
      ((((create frame.plane frame.generation frame.sequence).push bytes).2 = [.frame frame] ∧
          ((create frame.plane frame.generation frame.sequence).push bytes).1.latched = none) ↔
        frame.body.SddlKindDefined ∧ ∀ text ∈ frame.body.texts,
          JsString.isWellFormed text = true ∧ text.head? ≠ some JsString.markUnit)) ∧
    (∀ (plane : Plane) (generation sequence : Int) (last : FrameDecoder plane),
      (create plane generation sequence).push bytes = (last, [.frame frame]) →
      last.retainedBytes = 0 →
      (encodePipeFrontFrame frame = .ok bytes ↔
        1 ≤ sequence ∧ ∀ text ∈ textFields bytes, ¬ JsString.markBytes <+: text)) := by
  constructor
  · intro encoded
    by_cases defined : frame.body.SddlKindDefined
    · obtain ⟨events, live⟩ := push_encoded_of_defined encoded defined
      rw [events, live, and_iff_left rfl, and_iff_right defined, List.singleton_inj,
        DecodeEvent.frame.injEq]
      have unchanged : ({ frame with body := frame.body.received } : Frame) = frame ↔
          frame.body.received = frame.body := by
        constructor
        · exact congrArg Frame.body
        · intro same
          rw [same]
      rw [unchanged, Body.received_eq_self]
      exact forall₂_congr fun text _ => JsString.received_eq_self
    · have ended := push_encoded_of_undefined encoded defined
      exact iff_of_false (fun given => ended given.2) (fun given => defined given.1)
  · intro plane generation sequence last taken empty
    exact encoded_of_push taken empty

/-- A refusal that is written in the four lengths of UTF-8. -/
def refusal : Frame := ⟨.controlDown, 7, 3, 12, .refuse "pipe front: accès refusé — 🔒"⟩

/-- The refusal comes back, and nothing was lost of it. -/
theorem refusal_round_trip :
    let bytes := (encodePipeFrontFrame refusal).toOption.getD []
    encodePipeFrontFrame refusal = .ok bytes ∧
      ((create .controlDown 7 12).push bytes).2 = [.frame refusal] := by
  intro bytes
  have encoded : encodePipeFrontFrame refusal = .ok bytes := by decide
  have texts : ∀ text ∈ refusal.body.texts,
      JsString.isWellFormed text = true ∧ text.head? ≠ some JsString.markUnit := by decide
  exact ⟨encoded, (((frame_round_trip refusal bytes).1 encoded).2 ⟨trivial, texts⟩).1⟩

/-- A refusal whose text starts with a byte order mark. -/
def markedRefusal : Frame := ⟨.controlDown, 7, 3, 12, .refuse "\uFEFFdenied"⟩

/-- A bootstrap that asks for a kind of security descriptor that is not defined. -/
def undefinedHello : Frame :=
  ⟨.controlDown, 0, 0, 1, .hello 1 2 32768 65536 32768 5000 0 "pipe" "timeout"⟩

/-- The encoder accepts both; the mark is lost, also from the bytes that are written again,
and the bootstrap is refused. -/
theorem round_trip_loses : (∃ bytes other, encodePipeFrontFrame markedRefusal = .ok bytes ∧
      ((create .controlDown 7 12).push bytes).2 = [.frame other] ∧ other ≠ markedRefusal ∧
      ((create .controlDown 7 12).push bytes).1.retainedBytes = 0 ∧
      encodePipeFrontFrame other ≠ .ok bytes) ∧
    ∃ bytes malformed, encodePipeFrontFrame undefinedHello = .ok bytes ∧
      ((create .controlDown 0 1).push bytes).2 = [.malformed malformed] := by
  refine ⟨⟨(encodePipeFrontFrame markedRefusal).toOption.getD [],
    ⟨.controlDown, 7, 3, 12, .refuse "denied"⟩, ?_, ?_, ?_, ?_, ?_⟩,
    ⟨(encodePipeFrontFrame undefinedHello).toOption.getD [],
      ⟨.sddlKind, .controlDown, 1, 0, 1, 36⟩, ?_, ?_⟩⟩ <;> decide +kernel

end FrameDecoder

end Vex.Mcp.PipeFront
