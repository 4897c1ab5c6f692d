import Vex.Mcp.PipeFrontRoundTrip
import Vex.Mcp.PipeFrontStream

/-!
# One codec, written twice

The encoders of the two sides refuse the same frames and write the same bytes,
for every frame that is a value on both sides (`encode_agrees`).

The decoders both follow the framing of the plane, so they deliver the same
frames and stop at the same fault, however the stream is cut for them, but for
two differences. Main's drops a byte order mark from the front of each text. The
front's answers an empty piece with an error that holds no malformed frame. The
decoders agree exactly where neither comes up (`codecs_agree`). The front's
constructor takes sequence 0 for the default of 1, which main's gives when none
is asked for; 0 itself is no sequence that a frame can carry.
-/

namespace Vex.Mcp.PipeFront

open Vex.Library
open Vex.Bridge

/-! ## The encoders -/

section Encoders

def written (w : Frames.PayloadWriter) : Option (List UInt8) :=
  match w.err with
  | some _ => none
  | none => some w.out

@[simp] theorem written_new : written .new = some [] := rfl

variable (w : Frames.PayloadWriter)

@[simp] theorem written_append (bytes : List UInt8) :
    written (w.append bytes) = (written w).map (· ++ bytes) := by
  rw [written, written, Frames.PayloadWriter.append]
  cases w.err <;> rfl

@[simp] theorem written_failIf (condition : Prop) [Decidable condition] (reason detail : String) :
    written (w.failIf condition reason detail) = if condition then none else written w := by
  rw [Frames.PayloadWriter.failIf]
  by_cases refused : condition
  · rw [if_pos refused, if_pos refused, written, Frames.PayloadWriter.fail]
    cases w.err <;> rfl
  · rw [if_neg refused, if_neg refused]

@[simp] theorem written_str (value : Frames.Text) (field : String) : written (w.str value field) =
      if value.length ≤ 0xffff then (written w).map (· ++ strField value) else none := by
  rw [Frames.PayloadWriter.str]
  by_cases short : value.length ≤ 0xffff
  · have fits : ¬ value.length > Frames.maxUint16 := Nat.not_lt.2 short
    have length : (UInt16.ofNat value.length).toNat = value.length :=
      UInt16.toNat_ofNat_of_lt' (Nat.lt_succ_of_le short)
    rw [if_neg fits, if_pos short, written_append, Frames.PayloadWriter.u16, written_append,
      length, Option.map_map]
    cases written w with
    | none => rfl
    | some out => simp [strField, u16]
  · have long : value.length > Frames.maxUint16 := Nat.not_le.1 short
    rw [if_pos long, if_neg short, written, Frames.PayloadWriter.fail]
    cases w.err <;> rfl

@[simp] theorem written_u8 (v : UInt8) :
    written (w.u8 v) = (written w).map (· ++ u8 v.toNat) := written_append w _

@[simp] theorem written_u16 (v : UInt16) :
    written (w.u16 v) = (written w).map (· ++ u16 v.toNat) := written_append w _

@[simp] theorem written_u32 (v : UInt32) :
    written (w.u32 v) = (written w).map (· ++ u32 v.toNat) := written_append w _

@[simp] theorem written_u64 (v : UInt64) :
    written (w.u64 v) = (written w).map (· ++ u64 v.toNat) := written_append w _

theorem toOption_encodeBody (payload : Frames.Payload) :
    (Frames.encodeBody payload).toOption = written (Frames.writeBody .new payload) := by
  rw [Frames.encodeBody, written]
  cases (Frames.writeBody .new payload).err <;> rfl

@[simp] theorem requireU8_toNat (v : UInt8) (field : String) :
    requireU8 v.toNat field = .ok v.toNat :=
  requireU8_eq_ok.2 ⟨by omega, by have := v.toNat_lt; omega, rfl⟩

@[simp] theorem requireU16_toNat (v : UInt16) (field : String) :
    requireU16 v.toNat field = .ok v.toNat :=
  requireU16_eq_ok.2 ⟨by omega, by have := v.toNat_lt; omega, rfl⟩

@[simp] theorem requireU32_toNat (v : UInt32) (field : String) :
    requireU32 v.toNat field = .ok v.toNat :=
  requireU32_eq_ok.2 ⟨by omega, by have := v.toNat_lt; omega, rfl⟩

@[simp] theorem requireU64_toNat (v : UInt64) (field : String) :
    requireU64 v.toNat field = .ok v.toNat :=
  requireU64_eq_ok.2 ⟨by omega, by have := v.toNat_lt; omega, rfl⟩

variable {bytes : Frames.Text} {value : JsString}

theorem encodeText_of_express (expressed : Frames.expressText bytes = some value) :
    JsString.encodeText value = bytes := by
  obtain ⟨characters, rfl, rfl⟩ := Frames.expressText_eq_some.1 expressed
  rw [JsString.encodeText, JsString.scalars_units]

theorem str_of_express (expressed : Frames.expressText bytes = some value) (field : String) :
    (str value field).toOption = if bytes.length ≤ 0xffff then some (strField bytes) else none := by
  have same := encodeText_of_express expressed
  by_cases short : bytes.length ≤ 0xffff
  · rw [if_pos short, toOption_eq_some, str_eq_ok, same]
    exact ⟨short, rfl⟩
  · rw [if_neg short, str, same, refuseIf, if_pos (Nat.not_le.1 short)]
    rfl

theorem toOption_bind {ε α β : Type} (first : Except ε α) (next : α → Except ε β) :
    (first >>= next).toOption = first.toOption.bind fun value => (next value).toOption := by
  cases first <;> rfl

theorem toOption_refuseIf {ε : Type} (condition : Prop) [Decidable condition] (failure : ε) :
    (refuseIf condition failure).toOption = if condition then none else some () := by
  rw [refuseIf]
  split <;> rfl

@[simp] theorem toOption_ok {ε α : Type} (value : α) :
    (Except.ok value : Except ε α).toOption = some value := rfl

variable {payload : Frames.Payload}

variable {body : Body}

theorem encodeBody_agrees (expressed : payload.express = some body) :
    (encodeBody body).toOption = (Frames.encodeBody payload).toOption := by
  rw [toOption_encodeBody]
  cases payload with
  | hello =>
    simp only [Frames.Payload.express, bind, Option.bind_eq_some_iff] at expressed
    obtain ⟨pipeName, first, timeoutRefusalBytes, second, same⟩ := expressed
    obtain rfl := Option.some.inj same
    simp only [encodeBody, toOption_bind, requireU8_toNat, requireU16_toNat, requireU32_toNat,
      toOption_ok, str_of_express first, str_of_express second, pure, Except.pure]
    simp [Frames.writeBody]
    split <;> split <;> simp
  | helloAck protocolVersion announcedGeneration =>
    simp only [Frames.Payload.express, bind, Option.bind_eq_some_iff] at expressed
    obtain ⟨frontVersion, first, buildHash, second, same⟩ := expressed
    obtain rfl := Option.some.inj same
    have zero : (announcedGeneration.toNat : Int) = 0 ↔ announcedGeneration = 0 := by
      rw [← UInt32.toNat_inj]
      exact_mod_cast Iff.rfl
    simp only [encodeBody, toOption_bind, requireU16_toNat, requireU32_toNat, toOption_ok,
      toOption_refuseIf, zero, str_of_express first, str_of_express second, pure, Except.pure]
    simp [Frames.writeBody]
    split <;> split <;> split <;> simp
  | bound flagsApplied =>
    simp only [Frames.Payload.express, bind, Option.bind_eq_some_iff] at expressed
    obtain ⟨pipeName, first, same⟩ := expressed
    obtain rfl := Option.some.inj same
    simp only [encodeBody, toOption_bind, requireU8_toNat, toOption_ok, toOption_refuseIf,
      str_of_express first, pure, Except.pure, Frames.writeBody, written_str, written_u8,
      written_failIf, Frames.boundFlagsReserved_iff]
    cases reserved : boundFlagsReserved flagsApplied.toNat <;> split <;> simp [reserved]
  | refuse =>
    simp only [Frames.Payload.express, bind, Option.bind_eq_some_iff] at expressed
    obtain ⟨bytes, first, same⟩ := expressed
    obtain rfl := Option.some.inj same
    rw [encodeBody, str_of_express first]
    simp [Frames.writeBody]
  | peerClosed reason =>
    simp only [Frames.Payload.express, bind, Option.bind_eq_some_iff] at expressed
    obtain ⟨name, named, same⟩ := expressed
    obtain rfl := Option.some.inj same
    have defined : ¬ (reason < 1 ∨ 3 < reason) := by
      rw [Frames.peerClosedReason_iff, named]
      exact Option.some_ne_none name
    have id : name.id = reason.toNat := by simpa using List.find?_some named
    simp only [encodeBody, toOption_bind, requireU64_toNat, toOption_ok, id, pure, Except.pure,
      Frames.writeBody, written_u64, written_u8, written_failIf, if_neg defined]
    simp
  | errorReport code count =>
    obtain rfl := Option.some.inj expressed
    simp only [encodeBody, toOption_bind, requireU16_toNat, requireU32_toNat, toOption_ok,
      toOption_refuseIf, pure, Except.pure, Frames.writeBody, written_u32, written_u16,
      written_failIf, Frames.codeDefined_iff]
    by_cases known : (code.toNat : Int) ∈ errorCodeValues
    · simp [known]
    · simp [known]
  | data payload =>
    obtain rfl := Option.some.inj expressed
    simp only [encodeBody, toOption_bind, toOption_refuseIf, pure, Except.pure, toOption_ok]
    simp [Frames.writeBody]
    split <;> simp
  | lockAck | admission | credit | lock | quit =>
    obtain rfl := Option.some.inj expressed
    simp only [encodeBody, toOption_bind, requireU32_toNat, toOption_ok, pure, Except.pure]
    simp [Frames.writeBody]
  | ping | pong | writeDone =>
    obtain rfl := Option.some.inj expressed
    simp only [encodeBody, toOption_bind, requireU64_toNat, toOption_ok, pure, Except.pure]
    simp [Frames.writeBody]
  | pause | resume | close | «open» | quitAck | «end» =>
    obtain rfl := Option.some.inj expressed
    rfl

theorem length_le_of_bound (plane : Plane) : payloadBound plane ≤ 32768 := by
  cases plane <;> decide

theorem expressPlane_eq_some {byte : Frames.Plane} {plane : Plane}
    (expressed : Frames.expressPlane byte = some plane) : byte = Frames.planeByte plane := by
  have same := List.find?_some expressed
  exact (of_decide_eq_true same).symm

variable {frame : Frames.Frame}

theorem encode_eq_some {bytes : List UInt8} (carries : frame.payload = some payload) :
    (Frames.encode frame).toOption = some bytes ↔
      Frames.carriedBy payload.frameType frame.plane = true ∧
      (Frames.isBootstrap payload.frameType = true ↔ frame.generation = 0) ∧
      ¬ (Frames.namesConnection payload.frameType = true ↔ frame.connection = 0) ∧
      (1 ≤ frame.sequence ∧ frame.sequence < Frames.sequenceExhausted) ∧
      ∃ body, (Frames.encodeBody payload).toOption = some body ∧
        body.length ≤ Frames.payloadBound frame.plane ∧
        bytes = Frames.putHeader frame.generation frame.connection frame.sequence
          payload.frameType (UInt32.ofNat body.length) ++ body := by
  rw [Frames.encode, carries, toOption_eq_some]
  simp only [bind_eq_ok, refuseIf_eq_ok, pure, Except.pure, Except.ok.injEq, toOption_eq_some]
  cases bootstrap : Frames.isBootstrap payload.frameType <;>
    cases names : Frames.namesConnection payload.frameType <;> grind

theorem frameType_of_express (expressed : payload.express = some body) :
    payload.frameType = Frames.typeByte body.type := by
  cases payload with
  | hello | helloAck =>
    simp only [Frames.Payload.express, bind, Option.bind_eq_some_iff] at expressed
    obtain ⟨_, -, _, -, same⟩ := expressed
    obtain rfl := Option.some.inj same
    rfl
  | refuse | bound | peerClosed =>
    simp only [Frames.Payload.express, bind, Option.bind_eq_some_iff] at expressed
    obtain ⟨_, -, same⟩ := expressed
    obtain rfl := Option.some.inj same
    rfl
  | admission | credit | pause | resume | close | lock | quit | ping | «open» | writeDone
  | lockAck | quitAck | pong | errorReport | data | «end» =>
    obtain rfl := Option.some.inj expressed
    rfl

theorem putHeader_eq {type : FrameType} {length : Nat} (short : length ≤ 32768)
    (generation connection : UInt32) (sequence : UInt64) :
    Frames.putHeader generation connection sequence (Frames.typeByte type) (UInt32.ofNat length) =
      encodeHeader generation.toNat connection.toNat sequence.toNat type.id length := by
  have fits : (UInt32.ofNat length).toNat = length :=
    UInt32.toNat_ofNat_of_lt' (Nat.lt_of_le_of_lt short (by decide))
  rw [Frames.putHeader, fits, Frames.toNat_typeByte]
  rfl

theorem encode_agrees {main : Frame} (expressed : frame.express = some main) :
    (encodePipeFrontFrame main).toOption = (Frames.encode frame).toOption := by
  simp only [Frames.Frame.express, bind, Option.bind_eq_some_iff] at expressed
  obtain ⟨plane, named, payload, carries, body, inMain, same⟩ := expressed
  obtain rfl := Option.some.inj same
  have byte := expressPlane_eq_some named
  have zero32 (v : UInt32) : (v.toNat : Int) = 0 ↔ v = 0 := by
    rw [← UInt32.toNat_inj]
    exact_mod_cast Iff.rfl
  have range32 (v : UInt32) : 0 ≤ (v.toNat : Int) ∧ (v.toNat : Int) ≤ 0xffffffff := by
    have := v.toNat_lt
    omega
  have sequence : (1 ≤ (frame.sequence.toNat : Int) ∧
      (frame.sequence.toNat : Int) < sequenceExhausted) ↔
      (1 ≤ frame.sequence ∧ frame.sequence < Frames.sequenceExhausted) := by
    have limit : (Frames.sequenceExhausted.toNat : Int) = sequenceExhausted := rfl
    have one : (1 : UInt64).toNat = 1 := rfl
    rw [UInt64.le_iff_toNat_le, UInt64.lt_iff_toNat_lt, one, ← limit]
    omega
  refine Option.ext fun bytes => ?_
  rw [encode_eq_some carries, toOption_eq_some, encodePipeFrontFrame_eq_ok, byte,
    frameType_of_express inMain, Frames.carriedBy_typeByte, Frames.isBootstrap_typeByte,
    Frames.namesConnection_typeByte, Frames.payloadBound_planeByte, ← encodeBody_agrees inMain,
    sequence, zero32, zero32]
  refine and_congr_right fun _ => ?_
  rw [and_iff_right (range32 frame.generation)]
  refine and_congr_right fun _ => ?_
  rw [and_iff_right (range32 frame.connection)]
  refine and_congr ?_ (and_congr_right fun _ => ?_)
  · cases connectionMustBeZero body.type <;> simp
  · refine exists_congr fun written => ?_
    rw [toOption_eq_some]
    refine and_congr_right fun _ => and_congr_right fun short => ?_
    rw [putHeader_eq (short.trans (length_le_of_bound plane))]

end Encoders

/-! ## The decoders -/

section Decoders

open FrameDecoder (framing receivedFrame expressMalformed framesOf frame? malformed?)

def frontEvents (plane : Plane) (generation : UInt32) (sequence : UInt64)
    (pieces : List (List UInt8)) : List Frames.Decoder.Event :=
  (feed Frames.Decoder.step (Frames.Decoder.new (Frames.planeByte plane) generation sequence)
    pieces).2

def mainEvents (plane : Plane) (generation : UInt32) (sequence : UInt64)
    (pieces : List (List UInt8)) : List DecodeEvent :=
  (feed FrameDecoder.push (FrameDecoder.create plane generation.toNat sequence.toNat) pieces).2

/-- An error of the front's decoder as a failure of main's; one that holds nothing is none. -/
def expressError (plane : Plane) : Frames.PushError → Option Malformed
  | .malformed error => some (expressMalformed plane error)
  | .typedNil => none

/-- The decoders deliver the same frames, and the first error of the one is that of the other. -/
structure DecodersAgree (plane : Plane) (front : List Frames.Decoder.Event)
    (main : List DecodeEvent) : Prop where
  frames : (front.filterMap Frames.Decoder.Event.frame?).map Frames.Frame.express =
    (framesOf main).map some
  stop : (front.findSome? Frames.Decoder.Event.error?).map (expressError plane) =
    (main.findSome? malformed?).map some

instance (plane : Plane) (front : List Frames.Decoder.Event) (main : List DecodeEvent) :
    Decidable (DecodersAgree plane front main) :=
  decidable_of_iff ((front.filterMap Frames.Decoder.Event.frame?).map Frames.Frame.express =
        (framesOf main).map some ∧
      (front.findSome? Frames.Decoder.Event.error?).map (expressError plane) =
        (main.findSome? malformed?).map some)
    ⟨fun ⟨frames, stop⟩ => ⟨frames, stop⟩, fun agree => ⟨agree.frames, agree.stop⟩⟩

def frontPosition (generation : UInt32) (sequence : UInt64) : Frames.Position :=
  (generation, if sequence = 0 then 1 else sequence)

/-- What keeps the two decoders together: no empty piece reaches a live decoder of the front,
no text of a frame in the stream has a byte order mark in front, and where the sequence is 0,
which the front takes for 1, the first header is answered alike at both. -/
structure Undisturbed (plane : Plane) (generation : UInt32) (sequence : UInt64)
    (pieces : List (List UInt8)) : Prop where
  nonempty : AllowedWhileLive (framing plane) (fun piece => piece ≠ [])
    (frontPosition generation sequence) [] pieces
  unmarked : ∀ frame ∈ ((framing plane).read (generation, sequence) pieces.flatten).1,
    ∀ text ∈ frame.texts, ¬ JsString.markBytes <+: text
  numbered : sequence = 0 → ∀ head rest, pieces.flatten = head ++ rest → head.length = headerBytes →
    (framing plane).check (generation, 0) head = (framing plane).check (generation, 1) head

theorem mainEvents_eq (plane : Plane) (generation : UInt32) (sequence : UInt64)
    (pieces : List (List UInt8)) :
    (framesOf (mainEvents plane generation sequence pieces)).map some =
        ((framing plane).read (generation, sequence) pieces.flatten).1.map receivedFrame ∧
      (mainEvents plane generation sequence pieces).findSome? malformed? =
        ((framing plane).read (generation, sequence) pieces.flatten).2.fault?.map
          (expressMalformed plane) := by
  have idle := FrameDecoder.idle_create plane generation sequence
  have allowed : AllowedWhileLive (framing plane) (fun _ => True) (generation, sequence) []
      pieces := fun _ _ _ _ => .inl trivial
  obtain ⟨-, frames, fault⟩ := (FrameDecoder.follows plane).feed idle (idle.waits _ _ rfl) allowed
  refine ⟨?_, fault⟩
  rw [List.nil_append] at frames
  rw [← frames, framesOf, List.map_filterMap]
  refine List.filterMap_congr fun event _ => ?_
  cases event <;> rfl

variable {plane : Plane} {generation : UInt32}

variable {sequence : UInt64} {pieces : List (List UInt8)}

theorem frontEvents_eq (nonempty : AllowedWhileLive (framing plane) (fun piece => piece ≠ [])
      (frontPosition generation sequence) [] pieces) :
    (feed Frames.Decoder.step (Frames.Decoder.new (Frames.planeByte plane) generation sequence)
        pieces).1.Represents (Frames.planeByte plane)
          ((framing plane).read (frontPosition generation sequence) pieces.flatten).2 ∧
      (frontEvents plane generation sequence pieces).filterMap Frames.Decoder.Event.frame? =
        ((framing plane).read (frontPosition generation sequence) pieces.flatten).1 ∧
      (frontEvents plane generation sequence pieces).findSome? Frames.Decoder.Event.error? =
        ((framing plane).read (frontPosition generation sequence) pieces.flatten).2.fault?.map
          Frames.PushError.malformed := by
  have read := (Frames.Decoder.follows (Frames.planeByte plane)).feed
    (Frames.Decoder.represents_new (Frames.planeByte plane) generation sequence)
    (Framing.read_short (F := framing plane) (framing plane).width_pos) nonempty
  rw [List.map_id] at read
  exact read

theorem nonempty_of_agree
    (agree : DecodersAgree plane (frontEvents plane generation sequence pieces)
      (mainEvents plane generation sequence pieces)) :
    AllowedWhileLive (framing plane) (fun piece => piece ≠ [])
      (frontPosition generation sequence) [] pieces := by
  rcases allowedWhileLive_or_first (framing plane) (fun piece => piece ≠ [])
      (frontPosition generation sequence) [] pieces with
    nonempty | ⟨front, piece, later, rfl, nonempty, empty, live⟩
  · exact nonempty
  · exfalso
    obtain rfl : piece = [] := not_not.1 empty
    obtain ⟨represents, -, quiet⟩ := frontEvents_eq nonempty
    cases ends : ((framing plane).read (frontPosition generation sequence) front.flatten).2 with
    | stopped fault => exact live fault ends
    | waiting position held =>
      rw [ends] at represents quiet
      have nilError := Frames.Decoder.step_empty represents
      have stop : (frontEvents plane generation sequence (front ++ [] :: later)).findSome?
          Frames.Decoder.Event.error? = some .typedNil := by
        rw [frontEvents] at quiet ⊢
        rw [feed_append, feed_cons, nilError, List.findSome?_append, quiet]
        rfl
      have same := agree.stop
      rw [stop] at same
      cases main : (mainEvents plane generation sequence (front ++ [] :: later)).findSome?
        malformed? with
      | none =>
        rw [main] at same
        contradiction
      | some failure =>
        rw [main] at same
        cases Option.some.inj same

/-- What the two decoders make of one stream, from the positions they start at. -/
structure ReadingsAgree (plane : Plane) (front main : Frames.Position) (stream : List UInt8) :
    Prop where
  frames : ((framing plane).read front stream).1.map Frames.Frame.express =
    ((framing plane).read main stream).1.map receivedFrame
  stop : ((framing plane).read front stream).2.fault?.map (expressMalformed plane) =
    ((framing plane).read main stream).2.fault?.map (expressMalformed plane)

/-- The decoders agree exactly where no empty piece reaches the front's while it is live, and
the two make the same of the stream. -/
theorem agree_iff_readings (plane : Plane) (generation : UInt32) (sequence : UInt64)
    (pieces : List (List UInt8)) :
    DecodersAgree plane (frontEvents plane generation sequence pieces)
        (mainEvents plane generation sequence pieces) ↔
      AllowedWhileLive (framing plane) (fun piece => piece ≠ [])
          (frontPosition generation sequence) [] pieces ∧
        ReadingsAgree plane (frontPosition generation sequence) (generation, sequence)
          pieces.flatten := by
  obtain ⟨mainFrames, mainStop⟩ := mainEvents_eq plane generation sequence pieces
  have wrap {stop : Option Frames.MalformedError} :
      (stop.map Frames.PushError.malformed).map (expressError plane) =
        (stop.map (expressMalformed plane)).map some := by
    cases stop <;> rfl
  constructor
  · intro agree
    have nonempty := nonempty_of_agree agree
    obtain ⟨-, frontFrames, frontStop⟩ := frontEvents_eq nonempty
    refine ⟨nonempty, ?_, ?_⟩
    · rw [← frontFrames, ← mainFrames]
      exact agree.frames
    · have stop := agree.stop
      rw [frontStop, mainStop, wrap] at stop
      exact Option.map_injective (Option.some_injective _) stop
  · rintro ⟨nonempty, readings⟩
    obtain ⟨-, frontFrames, frontStop⟩ := frontEvents_eq nonempty
    refine ⟨?_, ?_⟩
    · rw [frontFrames, mainFrames]
      exact readings.frames
    · rw [frontStop, mainStop, wrap, readings.stop]

/-! ### A byte order mark -/

theorem express_of_read (plane : Plane) (position : Frames.Position) (stream : List UInt8) :
    ∀ frame ∈ ((framing plane).read position stream).1,
      ∃ payload plain, frame.payload = some payload ∧ payload.express = some plain ∧
        frame.plane = Frames.planeByte plane := by
  refine (framing plane).read_induction (motive := fun position stream =>
    ∀ frame ∈ ((framing plane).read position stream).1,
      ∃ payload plain, frame.payload = some payload ∧ payload.express = some plain ∧
        frame.plane = Frames.planeByte plane) ?_ ?_ ?_ ?_ ?_ position stream
  · intro position stream short frame member
    rw [Framing.read_short short] at member
    contradiction
  · intro position head rest fault whole refused frame member
    rw [Framing.read_refused whole refused] at member
    contradiction
  · intro position head rest length whole passed short frame member
    rw [Framing.read_within whole passed short] at member
    contradiction
  · intro position head payload rest fault whole passed fails frame member
    rw [Framing.read_frame whole passed, fails] at member
    contradiction
  · intro position head payload rest next item whole passed taken ih frame member
    rw [Framing.read_frame whole passed, taken] at member
    rcases List.mem_cons.1 member with rfl | later
    · rcases decoded : Frames.decodeBody (Frames.parseHeader head).frameType payload with
        (reason | _) | body
      · rw [Frames.take_eq_error decoded] at taken
        contradiction
      · exact absurd decoded (Frames.decodeBody_ne_panics _ _)
      · rw [Frames.take_eq_ok decoded] at taken
        obtain ⟨rfl, rfl⟩ := Prod.mk.inj (Except.ok.inj taken)
        obtain ⟨plain, expressed⟩ := Frames.express_of_decodeBody decoded
        exact ⟨body, plain, rfl, expressed, rfl⟩
    · exact ih frame later

variable {position : Frames.Position} {stream : List UInt8}

theorem received_iff {frame : Frames.Frame}
    (member : frame ∈ ((framing plane).read position stream).1) :
    frame.express = receivedFrame frame ↔ ∀ text ∈ frame.texts, ¬ JsString.markBytes <+: text := by
  obtain ⟨payload, plain, carries, expressed, byte⟩ := express_of_read plane position stream _ member
  have value : frame.express = some ⟨plane, frame.generation.toNat, frame.connection.toNat,
      frame.sequence.toNat, plain⟩ := by
    simp [Frames.Frame.express, byte, carries, expressed]
  rw [receivedFrame, value, Frames.Frame.texts, carries]
  have texts := Frames.Payload.received_eq_self_iff expressed
  constructor
  · intro same
    have body : plain = plain.received := congrArg Frame.body (Option.some.inj same)
    exact texts.1 body.symm
  · intro unmarked
    have same : plain.received = plain := texts.2 unmarked
    simp [same]

theorem readings_same_position (plane : Plane) (position : Frames.Position) (stream : List UInt8) :
    ReadingsAgree plane position position stream ↔
      ∀ frame ∈ ((framing plane).read position stream).1,
        ∀ text ∈ frame.texts, ¬ JsString.markBytes <+: text := by
  constructor
  · intro readings frame member
    rw [← received_iff member]
    exact List.map_inj_left.1 readings.frames frame member
  · intro unmarked
    exact ⟨List.map_congr_left fun frame member => (received_iff member).2 (unmarked frame member),
      rfl⟩

/-! ### The sequence 0 -/

variable {expected : UInt64} {head : Frames.Header}

theorem gap_of_valid {plane : Frames.Plane} {other : UInt64} (different : expected ≠ other)
    (valid : Frames.validateHeader plane generation expected head = .ok ()) :
    Frames.validateHeader plane generation other head = .error .sequenceGap := by
  simp only [Frames.validateHeader, bind_eq_ok, refuseIf_eq_ok] at valid
  obtain ⟨_, magic, _, flags, _, reserved, _, named, _, carried, _, generations, _, below, _, same,
    _⟩ := valid
  have gap : head.sequence ≠ other := fun equal => different ((not_not.1 same).symm.trans equal)
  simp only [Frames.validateHeader, refuseIf, if_neg magic, if_neg flags, if_neg reserved,
    if_neg named, if_neg carried, if_neg generations, if_neg below, if_pos gap, ok_bind]
  rfl

theorem typed_of_valid {plane : Frames.Plane}
    (valid : Frames.validateHeader plane generation expected head = .ok ()) :
    ∃ type, head.frameType = Frames.typeByte type := by
  simp only [Frames.validateHeader, bind_eq_ok, refuseIf_eq_ok] at valid
  obtain ⟨_, -, _, -, _, -, _, named, -⟩ := valid
  rcases Frames.named_or_unknown head.frameType with ⟨nameless, -⟩ | ⟨type, same, -⟩
  · exact absurd nameless named
  · exact ⟨type, same⟩

theorem readUnsigned_ne_gap (width : Nat) (reader : List UInt8) :
    readUnsigned width reader ≠ .error (.malformed .sequenceGap) := by
  rw [ne_eq, readUnsigned_eq_error]
  simp

theorem decodeString_ne_gap (reader : List UInt8) :
    decodeString reader ≠ .error (.malformed .sequenceGap) := by
  unfold decodeString
  split
  · simp
  · split <;> simp

theorem decodeFields_ne_gap (type : FrameType) (payload : List UInt8) :
    decodeFields payload type ≠ .error (.malformed .sequenceGap) := by
  cases type with
  | peerClosed =>
    simp only [decodeFields, ne_eq, bind_eq_error, readU8, readU64, readUnsigned_ne_gap,
      nothingRemains, refuseIf_eq_error, pure, Except.pure]
    simp only [reduceCtorEq, BodyFault.malformed.injEq, and_false, false_or, not_exists, not_and]
    intro _ _ _ _ _ _
    split <;> simp
  | _ =>
    simp [decodeFields, bind_eq_error, readU8, readU16, readU32, readU64, readUnsigned_ne_gap,
      decodeString_ne_gap, nothingRemains, pure, Except.pure]

theorem decodeBody_ne_gap (type : FrameType) (payload : List UInt8) :
    Frames.decodeBody (Frames.typeByte type) payload ≠ .error (.malformed .sequenceGap) := by
  intro gap
  have agrees := Frames.decodeBody_matches type payload
  rw [gap] at agrees
  rcases main : decodeBodyOf type payload with (reason | _) | body
  · rw [main] at agrees
    obtain rfl : MalformedReason.sequenceGap = reason := agrees
    rw [decodeBodyOf] at main
    split at main
    · split at main <;> simp at main
    · split at main
      · simp at main
      · exact decodeFields_ne_gap type payload main
  · exact decodeBodyOf_ne_rangeError type payload main
  · rw [main] at agrees
    exact agrees

/-- Where the header of a stream passes, the stream does not stop at a gap before a frame was
delivered. -/
theorem reading_of_passed {head : List UInt8} (whole : head.length = headerBytes)
    (valid : Frames.validateHeader (Frames.planeByte plane) position.1 position.2
      (Frames.parseHeader head) = .ok ()) (rest : List UInt8) :
    ((framing plane).read position (head ++ rest)).1 ≠ [] ∨
      ∀ fault, ((framing plane).read position (head ++ rest)).2 = .stopped fault →
        fault.reason ≠ .sequenceGap := by
  have passed := @Frames.check_eq_ok (Frames.planeByte plane) position head valid
  by_cases short : rest.length < (Frames.parseHeader head).length.toNat
  · right
    rw [Framing.read_within (F := framing plane) whole passed short]
    intro fault stops
    contradiction
  · obtain ⟨payload, rest, rfl, length⟩ := Frames.Decoder.exists_front (Nat.not_lt.1 short)
    rw [← length] at passed
    rw [Framing.read_frame (F := framing plane) whole passed]
    rcases decoded : Frames.decodeBody (Frames.parseHeader head).frameType payload with
      (reason | _) | body
    · right
      rw [Frames.take_eq_error decoded]
      intro fault stops
      obtain rfl := Ending.stopped.inj stops
      obtain ⟨type, same⟩ := typed_of_valid valid
      rintro rfl
      rw [same] at decoded
      exact decodeBody_ne_gap type payload decoded
    · exact absurd decoded (Frames.decodeBody_ne_panics _ _)
    · left
      rw [Frames.take_eq_ok decoded]
      exact List.cons_ne_nil _ _

variable {fault : Frames.MalformedError}

theorem not_agree_of_gap {items other : List (Option Frame)}
    {ending last : Ending UInt8 Frames.Position Frames.MalformedError}
    (stopped : ending = .stopped fault) (gap : fault.reason = .sequenceGap) (nothing : items = [])
    (passed : other ≠ [] ∨ ∀ fault, last = .stopped fault → fault.reason ≠ .sequenceGap)
    (frames : items = other)
    (stop : ending.fault?.map (expressMalformed plane) = last.fault?.map (expressMalformed plane)) :
    False := by
  subst stopped nothing frames
  rcases passed with delivered | goesOn
  · exact delivered rfl
  · cases last with
    | waiting state rest => contradiction
    | stopped failure =>
      have same : (expressMalformed plane fault).reason = (expressMalformed plane failure).reason :=
        congrArg Malformed.reason (Option.some.inj stop)
      exact goesOn failure rfl ((Frames.Reason.express_injective same).symm.trans gap)

theorem expressMalformed_injective {other : Frames.MalformedError}
    (mine : fault.plane = other.plane)
    (same : expressMalformed plane fault = expressMalformed plane other) : fault = other := by
  obtain ⟨reason, byte, type, connection, sequence, length⟩ := fault
  obtain ⟨reason', byte', type', connection', sequence', length'⟩ := other
  simp only [expressMalformed, Malformed.mk.injEq] at same
  obtain ⟨reasons, -, types, connections, sequences, lengths⟩ := same
  simp only [Frames.MalformedError.mk.injEq]
  exact ⟨Frames.Reason.express_injective reasons, mine,
    UInt8.toNat_inj.1 (by exact_mod_cast types), UInt32.toNat_inj.1 (by exact_mod_cast connections),
    UInt64.toNat_inj.1 (by exact_mod_cast sequences), UInt32.toNat_inj.1 (by exact_mod_cast lengths)⟩

/-- From the sequences 1 and 0, the two readings agree exactly when the first header, if it is
there, is answered alike. -/
theorem readings_at_zero (plane : Plane) (generation : UInt32) (stream : List UInt8) :
    ReadingsAgree plane (generation, 1) (generation, 0) stream ↔
      ∀ head rest, stream = head ++ rest → head.length = headerBytes →
        (framing plane).check (generation, 0) head = (framing plane).check (generation, 1) head := by
  by_cases short : stream.length < headerBytes
  · refine iff_of_true ?_ ?_
    · have zero : (framing plane).read (generation, 0) stream =
          ([], .waiting (generation, 0) stream) := Framing.read_short short
      have one : (framing plane).read (generation, 1) stream =
          ([], .waiting (generation, 1) stream) := Framing.read_short short
      exact ⟨by rw [zero, one]; rfl, by rw [zero, one]; rfl⟩
    · rintro head rest rfl whole
      rw [List.length_append] at short
      omega
  · obtain ⟨head, rest, rfl, whole⟩ := Frames.Decoder.exists_front (Nat.not_lt.1 short)
    have only : (∀ front later, head ++ rest = front ++ later → front.length = headerBytes →
        (framing plane).check (generation, 0) front = (framing plane).check (generation, 1) front) ↔
        (framing plane).check (generation, 0) head =
          (framing plane).check (generation, 1) head := by
      constructor
      · exact fun all => all head rest rfl whole
      · intro same front later split full
        obtain ⟨rfl, -⟩ := List.append_inj split (whole.trans full.symm)
        exact same
    have whole' : head.length = headerBytes := whole
    rw [only]
    cases zero : Frames.validateHeader (Frames.planeByte plane) generation 0
      (Frames.parseHeader head) with
    | ok _ =>
      have gap := gap_of_valid (show (0 : UInt64) ≠ 1 by decide) zero
      have refused := @Frames.check_eq_error _ (generation, 1) head _ gap
      have passed := @Frames.check_eq_ok _ (generation, 0) head zero
      refine iff_of_false (fun readings => ?_) (by rw [refused, passed]; simp)
      have reading := Framing.read_refused (F := framing plane) whole' refused rest
      refine not_agree_of_gap (congrArg Prod.snd reading) rfl ?_ ?_ readings.frames readings.stop
      · rw [reading]
        rfl
      · rcases @reading_of_passed plane (generation, 0) head whole' zero rest with
          delivered | goesOn
        · exact .inl fun nothing => delivered (List.map_eq_nil_iff.1 nothing)
        · exact .inr goesOn
    | error reason =>
      have refused := @Frames.check_eq_error _ (generation, 0) head _ zero
      have reading := Framing.read_refused (F := framing plane) whole' refused rest
      cases one : Frames.validateHeader (Frames.planeByte plane) generation 1
        (Frames.parseHeader head) with
      | ok _ =>
        have gap := gap_of_valid (show (1 : UInt64) ≠ 0 by decide) one
        have passed := @Frames.check_eq_ok _ (generation, 1) head one
        obtain rfl := Except.error.inj (zero.symm.trans gap)
        refine iff_of_false (fun readings => ?_) (by rw [refused, passed]; simp)
        refine not_agree_of_gap (congrArg Prod.snd reading) rfl ?_ ?_ readings.frames.symm
          readings.stop.symm
        · rw [reading]
          rfl
        · rcases @reading_of_passed plane (generation, 1) head whole' one rest with
            delivered | goesOn
          · exact .inl fun nothing => delivered (List.map_eq_nil_iff.1 nothing)
          · exact .inr goesOn
      | error other =>
        have refusedToo := @Frames.check_eq_error _ (generation, 1) head _ one
        have readingToo := Framing.read_refused (F := framing plane) whole' refusedToo rest
        rw [refused, refusedToo]
        constructor
        · intro readings
          have stop := readings.stop
          rw [reading, readingToo] at stop
          simp only [Ending.fault?_stopped, Option.map_some] at stop
          have same := expressMalformed_injective (by rfl) (Option.some.inj stop)
          exact congrArg Except.error same.symm
        · intro same
          refine ⟨by rw [reading, readingToo]; rfl, ?_⟩
          rw [reading, readingToo, Except.error.inj same]

theorem nothing_at_zero (numbered : ∀ head rest, stream = head ++ rest → head.length = headerBytes →
      (framing plane).check (generation, 0) head = (framing plane).check (generation, 1) head) :
    ((framing plane).read (generation, 0) stream).1 = [] := by
  by_cases short : stream.length < headerBytes
  · have reading : (framing plane).read (generation, 0) stream =
        ([], .waiting (generation, 0) stream) := Framing.read_short short
    rw [reading]
  · obtain ⟨head, rest, rfl, whole⟩ := Frames.Decoder.exists_front (Nat.not_lt.1 short)
    have whole' : head.length = headerBytes := whole
    have same := numbered head rest rfl whole
    cases zero : Frames.validateHeader (Frames.planeByte plane) generation 0
      (Frames.parseHeader head) with
    | ok _ =>
      have gap := gap_of_valid (show (0 : UInt64) ≠ 1 by decide) zero
      rw [@Frames.check_eq_error _ (generation, 1) head _ gap,
        @Frames.check_eq_ok _ (generation, 0) head zero] at same
      contradiction
    | error reason =>
      have refused := @Frames.check_eq_error _ (generation, 0) head _ zero
      rw [Framing.read_refused (F := framing plane) whole' refused rest]

/-- **The two codecs are one codec** exactly where the decoders are undisturbed: the decoders
deliver the same frames and stop at the same fault, for every plane, every start and every
splitting of every stream. The encoders agree on every frame that is a value on both sides. -/
theorem codecs_agree (plane : Plane) (generation : UInt32) (sequence : UInt64)
    (pieces : List (List UInt8)) :
    (DecodersAgree plane (frontEvents plane generation sequence pieces)
        (mainEvents plane generation sequence pieces) ↔
      Undisturbed plane generation sequence pieces) ∧
    ∀ (frame : Frames.Frame) (main : Frame), frame.express = some main →
      (encodePipeFrontFrame main).toOption = (Frames.encode frame).toOption := by
  refine ⟨?_, fun frame main expressed => encode_agrees expressed⟩
  rw [agree_iff_readings]
  by_cases zero : sequence = 0
  · subst zero
    have position : frontPosition generation 0 = (generation, 1) := rfl
    rw [position, readings_at_zero]
    constructor
    · rintro ⟨nonempty, numbered⟩
      refine ⟨nonempty, fun frame member => ?_, fun _ => numbered⟩
      rw [nothing_at_zero numbered] at member
      contradiction
    · intro undisturbed
      exact ⟨undisturbed.nonempty, undisturbed.numbered rfl⟩
  · have position : frontPosition generation sequence = (generation, sequence) := by
      rw [frontPosition, if_neg zero]
    rw [position, readings_same_position]
    constructor
    · rintro ⟨nonempty, unmarked⟩
      exact ⟨by rwa [position], unmarked, fun isZero => absurd isZero zero⟩
    · intro undisturbed
      refine ⟨?_, undisturbed.unmarked⟩
      rw [← position]
      exact undisturbed.nonempty

/-- The head of a refusal with six bytes of text, for connection 3. -/
def deniedHead : List UInt8 :=
  [0x56, 0x45, 0x58, 0x46, 7, 0, 0, 0, 3, 0, 0, 0, 12, 0, 0, 0, 0, 0, 0, 0, 0x03, 0, 0, 0,
    8, 0, 0, 0]

def deniedText : Frames.Text := [0x64, 0x65, 0x6e, 0x69, 0x65, 0x64]

/-- A refusal that arrives in two pieces is delivered alike, and encoded alike. -/
theorem codecs_agree_on_refusal : DecodersAgree .controlDown
        (frontEvents .controlDown 7 12 [deniedHead ++ [6], 0 :: deniedText])
        (mainEvents .controlDown 7 12 [deniedHead ++ [6], 0 :: deniedText]) ∧
      (encodePipeFrontFrame ⟨.controlDown, 7, 3, 12, .refuse "denied"⟩).toOption =
        (Frames.encode ⟨3, 7, 3, 12, some (.refuse deniedText)⟩).toOption := by
  obtain ⟨decoders, encoders⟩ :=
    codecs_agree .controlDown 7 12 [deniedHead ++ [6], 0 :: deniedText]
  refine ⟨decoders.2 ⟨?_, ?_, fun zero => absurd zero (by decide)⟩,
    encoders ⟨3, 7, 3, 12, some (.refuse deniedText)⟩ _ (by decide)⟩
  · intro front piece later split
    have member : piece ∈ [deniedHead ++ [6], 0 :: deniedText] := by
      rw [split]
      simp
    left
    rintro rfl
    revert member
    decide
  · decide +kernel

/-- A refusal of 9 bytes of text, a byte order mark and `denied`, for connection 3. -/
def markedHead : List UInt8 :=
  [0x56, 0x45, 0x58, 0x46, 7, 0, 0, 0, 3, 0, 0, 0, 12, 0, 0, 0, 0, 0, 0, 0, 0x03, 0, 0, 0,
    11, 0, 0, 0]

def markedText : Frames.Text := [0xEF, 0xBB, 0xBF, 0x64, 0x65, 0x6e, 0x69, 0x65, 0x64]

/-- A text with a byte order mark in front is not the same on both sides, and an empty piece is
an error on one of them. -/
theorem decoders_disagree : ¬ DecodersAgree .controlDown
        (frontEvents .controlDown 7 12 [markedHead ++ ([9, 0] ++ markedText)])
        (mainEvents .controlDown 7 12 [markedHead ++ ([9, 0] ++ markedText)]) ∧
      ¬ DecodersAgree .controlDown (frontEvents .controlDown 7 1 [[]])
        (mainEvents .controlDown 7 1 [[]]) := by
  constructor <;> decide +kernel

end Decoders

end Vex.Mcp.PipeFront
