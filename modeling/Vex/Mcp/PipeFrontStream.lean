import Vex.Bridge.FrameStream
import Vex.Mcp.PipeFrontChunks

/-!
# Main's decoder on the stream of a plane

Main's decoder follows the framing of the front's side (`FrameDecoder.follows`):
its header check and its payload phase decide as the front's do, in the same
order, so it delivers the same frames and stops at the same fault. The frames it
delivers are those of the framing with a byte order mark dropped from each text.

It takes every piece, also an empty one.
-/

namespace Vex.Mcp.PipeFront

open Vex.Library
open Vex.Bridge

/-! ## Headers -/

theorem getUnsigned_eq_uintAt (width offset : Nat) (bytes : List UInt8) :
    getUnsigned width offset bytes = (Frames.uintAt width offset bytes : Int) ∧
      Frames.uintAt width offset bytes < 256 ^ width := by
  have nonneg := LittleEndian.decode_nonneg ((bytes.drop offset).take width)
  have below := LittleEndian.decode_lt ((bytes.drop offset).take width)
  have fits : (256 : Int) ^ ((bytes.drop offset).take width).length ≤ 256 ^ width :=
    pow_le_pow_right₀ (by norm_num) (List.length_take_le _ _)
  refine ⟨(Int.toNat_of_nonneg nonneg).symm, ?_⟩
  rw [Frames.uintAt]
  have bound : ((LittleEndian.decode ((bytes.drop offset).take width)).toNat : Int) <
      ((256 ^ width : Nat) : Int) := by
    rw [Int.toNat_of_nonneg nonneg]
    push_cast
    exact below.trans_le fits
  exact_mod_cast bound

theorem magicOf_eq (bytes : List UInt8) :
    magicOf bytes = (Frames.parseHeader bytes).magic.toNat := by
  obtain ⟨same, fits⟩ := getUnsigned_eq_uintAt 4 0 bytes
  rw [magicOf, same, Frames.parseHeader, (Frames.toNat_number _).2.2.1 fits]

theorem parseHeader_eq (bytes : List UInt8) :
    parseHeader bytes =
      { generation := (Frames.parseHeader bytes).generation.toNat
        connection := (Frames.parseHeader bytes).connection.toNat
        sequence := (Frames.parseHeader bytes).sequence.toNat
        type := (Frames.parseHeader bytes).frameType.toNat
        flags := (Frames.parseHeader bytes).flags.toNat
        reserved := (Frames.parseHeader bytes).reserved.toNat
        length := (Frames.parseHeader bytes).length.toNat } := by
  obtain ⟨generation, fits1⟩ := getUnsigned_eq_uintAt 4 4 bytes
  obtain ⟨connection, fits2⟩ := getUnsigned_eq_uintAt 4 8 bytes
  obtain ⟨sequence, fits3⟩ := getUnsigned_eq_uintAt 8 12 bytes
  obtain ⟨type, fits4⟩ := getUnsigned_eq_uintAt 1 20 bytes
  obtain ⟨flags, fits5⟩ := getUnsigned_eq_uintAt 1 21 bytes
  obtain ⟨reserved, fits6⟩ := getUnsigned_eq_uintAt 2 22 bytes
  obtain ⟨length, fits7⟩ := getUnsigned_eq_uintAt 4 24 bytes
  rw [parseHeader, generation, connection, sequence, type, flags, reserved, length]
  simp only [Frames.parseHeader]
  rw [(Frames.toNat_number _).2.2.1 fits1, (Frames.toNat_number _).2.2.1 fits2,
    (Frames.toNat_number _).2.2.2 fits3, (Frames.toNat_number _).1 fits4,
    (Frames.toNat_number _).1 fits5, (Frames.toNat_number _).2.1 fits6,
    (Frames.toNat_number _).2.2.1 fits7]

theorem refuseIf_agrees {p q : Prop} [Decidable p] [Decidable q] (reason : Frames.Reason)
    {front : Except Frames.Reason Unit} {main : Except MalformedReason Unit} (same : q ↔ p)
    (later : ¬ p → main = front.mapError Frames.Reason.express) :
    (refuseIf q reason.express >>= fun _ => main) =
      (refuseIf p reason >>= fun _ => front).mapError Frames.Reason.express := by
  by_cases refused : p
  · have other := same.2 refused
    rw [refuseIf, refuseIf, if_pos refused, if_pos other]
    rfl
  · have other : ¬ q := fun holds => refused (same.1 holds)
    rw [refuseIf, refuseIf, if_neg refused, if_neg other]
    exact later refused

theorem refuseIf_last {p q : Prop} [Decidable p] [Decidable q] (reason : Frames.Reason)
    (same : q ↔ p) :
    (refuseIf q reason.express : Except MalformedReason Unit) =
      (refuseIf p reason).mapError Frames.Reason.express := by
  by_cases refused : p
  · rw [refuseIf, refuseIf, if_pos refused, if_pos (same.2 refused)]
    rfl
  · rw [refuseIf, refuseIf, if_neg refused, if_neg fun holds => refused (same.1 holds)]
    rfl

namespace FrameDecoder

variable {plane : Plane}

theorem validateHeader_agrees {decoder : FrameDecoder plane} {position : Frames.Position}
    (generation : decoder.generation = position.1.toNat)
    (expected : decoder.expected = position.2.toNat) (bytes : List UInt8) :
    decoder.validateHeader (magicOf bytes) (parseHeader bytes) =
      (Frames.validateHeader (Frames.planeByte plane) position.1 position.2
        (Frames.parseHeader bytes)).mapError Frames.Reason.express := by
  rw [magicOf_eq, parseHeader_eq]
  generalize Frames.parseHeader bytes = head
  have zero8 (v : UInt8) : (v.toNat : Int) = 0 ↔ v = 0 := by
    rw [← UInt8.toNat_inj]
    exact_mod_cast Iff.rfl
  have zero16 (v : UInt16) : (v.toNat : Int) = 0 ↔ v = 0 := by
    rw [← UInt16.toNat_inj]
    exact_mod_cast Iff.rfl
  have same32 (v w : UInt32) : (v.toNat : Int) = w.toNat ↔ v = w := by
    rw [← UInt32.toNat_inj]
    exact_mod_cast Iff.rfl
  have zero32 (v : UInt32) : (v.toNat : Int) = 0 ↔ v = 0 := same32 v 0
  have same64 (v w : UInt64) : (v.toNat : Int) = w.toNat ↔ v = w := by
    rw [← UInt64.toNat_inj]
    exact_mod_cast Iff.rfl
  rw [validateHeader, Frames.validateHeader]
  refine refuseIf_agrees .badMagic (not_congr (same32 head.magic Frames.magic)) fun _ => ?_
  refine refuseIf_agrees .flagsSet (not_congr (zero8 head.flags)) fun _ => ?_
  refine refuseIf_agrees .reservedSet (not_congr (zero16 head.reserved)) fun _ => ?_
  dsimp only
  rcases Frames.named_or_unknown head.frameType with ⟨nameless, unknown⟩ | ⟨type, same, named⟩
  · have refused : refuseIf (Frames.typeName head.frameType = "") Frames.Reason.unknownType =
        .error .unknownType := if_pos nameless
    rw [unknown, refused]
    rfl
  · have defined : ¬ Frames.typeName (Frames.typeByte type) = "" := by
      rw [Frames.typeName_typeByte]
      cases type <;> decide
    have passes : refuseIf (Frames.typeName (Frames.typeByte type) = "")
        Frames.Reason.unknownType = .ok () := if_neg defined
    rw [named, same, passes, ok_bind]
    refine refuseIf_agrees .typeNotOnPlane (by rw [Frames.carriedBy_typeByte]) fun _ => ?_
    refine refuseIf_agrees .badGeneration ?_ fun _ => ?_
    · rw [Frames.isBootstrap_typeByte, generation]
      split
      · rw [ne_eq, ne_eq, zero32, zero32]
      · rw [ne_eq, zero32, same32]
    refine refuseIf_agrees .sequenceExhausted ?_ fun _ => ?_
    · have limit : (Frames.sequenceExhausted.toNat : Int) = sequenceExhausted := rfl
      rw [UInt64.le_iff_toNat_le, ← limit]
      exact Int.ofNat_le
    refine refuseIf_agrees .sequenceGap ?_ fun _ => ?_
    · rw [expected, ne_eq, same64]
    refine refuseIf_agrees .lengthOverBound ?_ fun _ => ?_
    · rw [Frames.payloadBound_planeByte]
      exact_mod_cast Iff.rfl
    rw [Frames.namesConnection_typeByte]
    cases connectionMustBeZero type with
    | false => exact refuseIf_last .connectionZero (zero32 head.connection)
    | true => exact refuseIf_last .connectionNotZero (not_congr (zero32 head.connection))

/-! ## The decoder follows the framing -/

/-- A malformed frame of the front's side as a value of main's. -/
def expressMalformed (plane : Plane) (error : Frames.MalformedError) : Malformed :=
  ⟨error.reason.express, plane, error.type.toNat, error.connection.toNat, error.sequence.toNat,
    error.length.toNat⟩

/-- What main's decoder delivers of a frame of the front's side. -/
def receivedFrame (frame : Frames.Frame) : Option Frame :=
  frame.express.map fun plain => { plain with body := plain.body.received }

def frame? : DecodeEvent → Option (Option Frame)
  | .frame delivered => some (some delivered)
  | .malformed _ => none

def malformed? : DecodeEvent → Option Malformed
  | .frame _ => none
  | .malformed failure => some failure

/-- A live decoder holds the beginning of a frame; one that failed holds its failure. -/
inductive Represents (decoder : FrameDecoder plane) :
    Ending UInt8 Frames.Position Frames.MalformedError → Prop
  | header (position : Frames.Position) (generation : decoder.generation = position.1.toNat)
      (expected : decoder.expected = position.2.toNat) (live : decoder.latched = none)
      (nothing : decoder.staged = none) : Represents decoder (.waiting position decoder.header)
  | payload (position : Frames.Position) (staged : Staged plane) (bytes : List UInt8)
      (generation : decoder.generation = position.1.toNat)
      (expected : decoder.expected = position.2.toNat) (live : decoder.latched = none)
      (empty : decoder.header = []) (inStage : decoder.staged = some staged)
      (whole : bytes.length = headerBytes) (parsed : parseHeader bytes = staged.header)
      (passed : decoder.validateHeader (magicOf bytes) (parseHeader bytes) = .ok ()) :
      Represents decoder (.waiting position (bytes ++ staged.payload))
  | failed (error : Frames.MalformedError)
      (latched : decoder.latched = some (expressMalformed plane error)) :
      Represents decoder (.stopped error)

theorem represents_create (plane : Plane) (generation : UInt32) (sequence : UInt64) :
    (create plane generation.toNat sequence.toNat).Represents
      (.waiting (generation, sequence) []) :=
  .header (generation, sequence) rfl rfl rfl rfl

structure Reads (result : FrameDecoder plane × List DecodeEvent)
    (reading : List Frames.Frame × Ending UInt8 Frames.Position Frames.MalformedError) :
    Prop where
  represents : result.1.Represents reading.2
  frames : result.2.filterMap frame? = reading.1.map receivedFrame
  failure : result.2.findSome? malformed? = reading.2.fault?.map (expressMalformed plane)

abbrev framing (plane : Plane) := Frames.framing (Frames.planeByte plane)

variable {decoder : FrameDecoder plane} {position : Frames.Position}

variable {bytes : List UInt8}

theorem check_eq_ok (generation : decoder.generation = position.1.toNat)
    (expected : decoder.expected = position.2.toNat)
    (passed : decoder.validateHeader (magicOf bytes) (parseHeader bytes) = .ok ()) :
    (framing plane).check position bytes = .ok (parseHeader bytes).length.toNat := by
  rw [validateHeader_agrees generation expected, mapError_eq_ok] at passed
  rw [Frames.check_eq_ok passed, parseHeader_eq]
  simp

theorem check_eq_error (generation : decoder.generation = position.1.toNat)
    (expected : decoder.expected = position.2.toNat) {reason : MalformedReason}
    (refused : decoder.validateHeader (magicOf bytes) (parseHeader bytes) = .error reason) :
    ∃ error, (framing plane).check position bytes = .error error ∧
      (decoder.fail reason (parseHeader bytes)).1.latched = some (expressMalformed plane error) ∧
      (decoder.fail reason (parseHeader bytes)).2 = .malformed (expressMalformed plane error) := by
  rw [validateHeader_agrees generation expected] at refused
  cases front : Frames.validateHeader (Frames.planeByte plane) position.1 position.2
    (Frames.parseHeader bytes) with
  | ok _ =>
    rw [front] at refused
    contradiction
  | error other =>
    rw [front] at refused
    obtain rfl := Except.error.inj refused
    refine ⟨_, Frames.check_eq_error front, ?_, ?_⟩
    · simp [fail, expressMalformed, parseHeader_eq]
    · simp [fail, expressMalformed, parseHeader_eq]

theorem decodeBody_matches
    (passed : decoder.validateHeader (magicOf bytes) (parseHeader bytes) = .ok ())
    (payload : List UInt8) :
    Frames.Matches (Frames.decodeBody (Frames.parseHeader bytes).frameType payload)
      (decodeBody (parseHeader bytes) payload) := by
  obtain ⟨-, -, -, type, named, -⟩ := validateHeader_eq_ok.1 passed
  rw [decodeBody, named]
  have number : (parseHeader bytes).type = (Frames.parseHeader bytes).frameType.toNat := by
    rw [parseHeader_eq]
  rw [number] at named
  rcases Frames.named_or_unknown (Frames.parseHeader bytes).frameType with
    ⟨-, unknown⟩ | ⟨other, same, knownAs⟩
  · rw [unknown] at named
    contradiction
  · obtain rfl := Option.some.inj (knownAs.symm.trans named)
    rw [same]
    exact Frames.decodeBody_matches other payload

theorem learned_generation (generation : decoder.generation = position.1.toNat)
    (head : Frames.Header) {payload : Frames.Payload} {plain : Body}
    (expressed : payload.express = some plain) :
    (decoder.learned plain.received).1 = (position.after head payload).1.toNat := by
  cases payload with
  | hello | refuse | bound | peerClosed =>
    simp only [Frames.Payload.express, bind, Option.bind_eq_some_iff, pure,
      Option.some.injEq] at expressed
    grind [Body.received, learned, Frames.Position.after]
  | helloAck =>
    simp only [Frames.Payload.express, bind, Option.bind_eq_some_iff, pure,
      Option.some.injEq] at expressed
    obtain ⟨_, -, _, -, rfl⟩ := expressed
    rfl
  | admission | credit | pause | resume | close | lock | quit | ping | «open» | writeDone
  | lockAck | quitAck | pong | errorReport | data | «end» =>
    obtain rfl := Option.some.inj expressed
    exact generation

theorem sequence_after (position : Frames.Position) (bytes : List UInt8)
    (payload : Frames.Payload) (below : (parseHeader bytes).sequence < sequenceExhausted) :
    (parseHeader bytes).sequence + 1 =
      (position.after (Frames.parseHeader bytes) payload).2.toNat := by
  have same : (position.after (Frames.parseHeader bytes) payload).2 =
      (Frames.parseHeader bytes).sequence + 1 := by
    cases payload <;> rfl
  have number : (parseHeader bytes).sequence = (Frames.parseHeader bytes).sequence.toNat := by
    rw [parseHeader_eq]
  rw [number] at below ⊢
  have room : (Frames.parseHeader bytes).sequence.toNat < 18446744073709551615 := by
    rw [sequenceExhausted] at below
    omega
  rw [same, UInt64.toNat_add]
  have one : (1 : UInt64).toNat = 1 := rfl
  rw [one, Nat.mod_eq_of_lt (by omega)]
  push_cast
  rfl

variable {event : DecodeEvent}

theorem take_of_deliver {payload : List UInt8} {next : FrameDecoder plane}
    (passed : decoder.validateHeader (magicOf bytes) (parseHeader bytes) = .ok ())
    (delivered : decoder.deliver (parseHeader bytes) payload = .ok (next, event))
    (generation : decoder.generation = position.1.toNat) (live : decoder.latched = none)
    (empty : decoder.header = []) :
    ∃ after frame, (framing plane).take position bytes payload = .ok (after, frame) ∧
      frame? event = some (receivedFrame frame) ∧ malformed? event = none ∧
      next.Represents (.waiting after []) := by
  obtain ⟨body, decoded, rfl, nothing, header, latched, expected, learns⟩ :=
    deliver_eq_ok delivered
  have agrees := decodeBody_matches passed payload
  rw [decoded] at agrees
  cases front : Frames.decodeBody (Frames.parseHeader bytes).frameType payload with
  | error fault =>
    rw [front] at agrees
    cases fault <;> exact agrees.elim
  | ok body' =>
    rw [front] at agrees
    obtain ⟨plain, expressed, rfl⟩ := agrees
    refine ⟨_, _, Frames.take_eq_ok front, ?_, rfl, ?_⟩
    · simp [frame?, receivedFrame, Frames.Frame.express, expressed, parseHeader_eq]
    · have below : (parseHeader bytes).sequence < sequenceExhausted := by
        obtain ⟨-, -, -, _, -, -, -, below, -⟩ := validateHeader_eq_ok.1 passed
        exact below
      rw [← header.trans empty]
      refine .header _ ?_ ?_ (latched.trans live) nothing
      · rw [← learned_generation generation (Frames.parseHeader bytes) expressed]
        exact congrArg Prod.fst learns
      · rw [expected]
        exact sequence_after position bytes body' below

theorem take_of_malformed {payload : List UInt8} {failed : FrameDecoder plane}
    (passed : decoder.validateHeader (magicOf bytes) (parseHeader bytes) = .ok ())
    (refused : decoder.deliver (parseHeader bytes) payload = .error (failed, event)) :
    ∃ error, (framing plane).take position bytes payload = .error error ∧
      failed.latched = some (expressMalformed plane error) ∧
      event = .malformed (expressMalformed plane error) := by
  obtain ⟨reason, decoded, failure⟩ := deliver_eq_error refused
  obtain ⟨rfl, rfl⟩ := Prod.mk.inj failure
  have agrees := decodeBody_matches passed payload
  rw [decoded] at agrees
  rcases front : Frames.decodeBody (Frames.parseHeader bytes).frameType payload with
    (other | _) | body
  · rw [front] at agrees
    obtain rfl : other.express = reason := agrees
    refine ⟨_, Frames.take_eq_error front, ?_, ?_⟩
    · simp [expressMalformed, parseHeader_eq]
    · simp [expressMalformed, parseHeader_eq]
  · exact absurd front (Frames.decodeBody_ne_panics _ _)
  · rw [front] at agrees
    exact agrees.elim

theorem pushFrom_reads (decoder : FrameDecoder plane) (chunk : List UInt8) :
    ∀ (held : List UInt8) (position : Frames.Position),
      decoder.Represents (.waiting position held) →
      Reads (decoder.pushFrom chunk) ((framing plane).read position (held ++ chunk)) := by
  refine pushFrom_induction (motive := fun decoder chunk =>
    ∀ (held : List UInt8) (position : Frames.Position),
      decoder.Represents (.waiting position held) →
      Reads (decoder.pushFrom chunk) ((framing plane).read position (held ++ chunk)))
    ?_ ?_ ?_ ?_ ?_ ?_ decoder chunk
  · intro decoder chunk nothing short held position represents
    cases represents with
    | payload _ _ _ _ _ _ _ inStage => exact absurd (nothing.symm.trans inStage) (by simp)
    | header _ generation expected live =>
      have reading : (framing plane).read position (decoder.header ++ chunk) =
          ([], .waiting position (decoder.header ++ chunk)) := Framing.read_short short
      rw [pushFrom_header_short nothing short, reading]
      exact ⟨.header position generation expected live nothing, rfl, rfl⟩
  · intro decoder front rest failed event nothing full refused held position represents
    cases represents with
    | payload _ _ _ _ _ _ _ inStage => exact absurd (nothing.symm.trans inStage) (by simp)
    | header _ generation expected live =>
      obtain ⟨reason, invalid, failure⟩ := stage_eq_error refused
      obtain ⟨error, check, latched, reported⟩ := check_eq_error generation expected invalid
      rw [failure] at latched reported
      obtain rfl : event = _ := reported
      have whole : (decoder.header ++ front).length = headerBytes := by
        rw [List.length_append, full]
      rw [pushFrom_header_full nothing full, refused, ← List.append_assoc,
        Framing.read_refused (F := framing plane) whole check]
      exact ⟨.failed error latched, rfl, rfl⟩
  · intro decoder front rest next nothing full stages ih held position represents
    cases represents with
    | payload _ _ _ _ _ _ _ inStage => exact absurd (nothing.symm.trans inStage) (by simp)
    | header _ generation expected live =>
      obtain ⟨valid, ⟨staged, inStage, parsed, payload⟩, empty, generation', -, expected',
        latched⟩ := stage_eq_ok stages
      have whole : (decoder.header ++ front).length = headerBytes := by
        rw [List.length_append, full]
      have valid' : next.validateHeader (magicOf (decoder.header ++ front))
          (parseHeader (decoder.header ++ front)) = .ok () := by
        rw [validateHeader_agrees (generation'.trans generation) (expected'.trans expected),
          ← validateHeader_agrees generation expected]
        exact valid
      have represents : next.Represents
          (.waiting position ((decoder.header ++ front) ++ staged.payload)) :=
        .payload position staged _ (generation'.trans generation) (expected'.trans expected)
          (latched.trans live) empty inStage whole parsed.symm valid'
      rw [payload, List.append_nil] at represents
      rw [pushFrom_header_full nothing full, stages, ← List.append_assoc]
      exact ih _ _ represents
  · intro decoder staged chunk inStage short held position represents
    cases represents with
    | header _ _ _ _ nothing => exact absurd (nothing.symm.trans inStage) (by simp)
    | payload _ staged' bytes generation expected live empty inStage' whole parsed passed =>
      obtain rfl := Option.some.inj (inStage.symm.trans inStage')
      have check := check_eq_ok generation expected passed
      have room : (staged.payload ++ chunk).length < (parseHeader bytes).length.toNat := by
        rw [parsed]
        omega
      rw [pushFrom_payload_short inStage short, List.append_assoc,
        Framing.read_within (F := framing plane) whole check room]
      exact ⟨.payload position { staged with payload := staged.payload ++ chunk, filled_le := short.le }
        bytes generation expected live empty rfl whole parsed passed, rfl, rfl⟩
  · intro decoder staged front rest failed event inStage full refused held position represents
    cases represents with
    | header _ _ _ _ nothing => exact absurd (nothing.symm.trans inStage) (by simp)
    | payload _ staged' bytes generation expected live empty inStage' whole parsed passed =>
      obtain rfl := Option.some.inj (inStage.symm.trans inStage')
      have check := check_eq_ok generation expected passed
      have length : (parseHeader bytes).length.toNat = (staged.payload ++ front).length := by
        rw [parsed]
        omega
      rw [length] at check
      have refused' := refused
      rw [← parsed] at refused'
      obtain ⟨error, taken, latched, rfl⟩ := take_of_malformed passed refused'
      rw [pushFrom_payload_full inStage full, refused, List.append_assoc,
        ← List.append_assoc staged.payload,
        Framing.read_frame (F := framing plane) whole check, taken]
      exact ⟨.failed error latched, rfl, rfl⟩
  · intro decoder staged front rest next event inStage full delivers ih held position represents
    cases represents with
    | header _ _ _ _ nothing => exact absurd (nothing.symm.trans inStage) (by simp)
    | payload _ staged' bytes generation expected live empty inStage' whole parsed passed =>
      obtain rfl := Option.some.inj (inStage.symm.trans inStage')
      have check := check_eq_ok generation expected passed
      have length : (parseHeader bytes).length.toNat = (staged.payload ++ front).length := by
        rw [parsed]
        omega
      rw [length] at check
      have delivers' := delivers
      rw [← parsed] at delivers'
      obtain ⟨after, frame, taken, delivered, quiet, boundary⟩ :=
        take_of_deliver passed delivers' generation live empty
      have next := ih [] after boundary
      rw [List.nil_append] at next
      rw [pushFrom_payload_full inStage full, delivers, List.append_assoc,
        ← List.append_assoc staged.payload,
        Framing.read_frame (F := framing plane) whole check, taken]
      refine ⟨next.represents, ?_, ?_⟩
      · simp [delivered, next.frames]
      · simpa [List.findSome?_cons, quiet] using next.failure

/-- A decoder between two pushes: what it holds is not a whole frame. -/
structure Idle (decoder : FrameDecoder plane)
    (ending : Ending UInt8 Frames.Position Frames.MalformedError) : Prop where
  represents : decoder.Represents ending
  waits : ∀ position held, ending = .waiting position held →
    (framing plane).read position held = ([], .waiting position held)

theorem follows (plane : Plane) :
    Follows (framing plane) (push : FrameDecoder plane → _) frame? malformed? receivedFrame
      (expressMalformed plane) (fun _ => True) Idle where
  waiting decoder position held piece idle _ := by
    have live : decoder.latched = none := by
      cases idle.represents <;> assumption
    by_cases empty : piece = []
    · subst empty
      have waits := idle.waits position held rfl
      rw [push_nil, List.append_nil, waits]
      exact ⟨idle, rfl, rfl⟩
    · have reads := pushFrom_reads decoder piece held position idle.represents
      have pushed : decoder.push piece = decoder.pushFrom piece :=
        if_neg (by simp [live, empty])
      rw [pushed]
      exact ⟨⟨reads.represents, fun _ _ ends => Framing.read_waiting ends⟩, reads.frames,
        reads.failure⟩
  stopped decoder error piece idle := by
    cases idle.represents with
    | failed _ latched =>
      rw [push_latched (by simp [latched])]
      exact ⟨idle, rfl⟩

theorem idle_create (plane : Plane) (generation : UInt32) (sequence : UInt64) :
    (create plane generation.toNat sequence.toNat).Idle (.waiting (generation, sequence) []) := by
  refine ⟨represents_create plane generation sequence, ?_⟩
  rintro position held same
  obtain ⟨rfl, rfl⟩ := Ending.waiting.inj same
  exact Framing.read_short (F := framing plane) (framing plane).width_pos

end FrameDecoder

end Vex.Mcp.PipeFront
