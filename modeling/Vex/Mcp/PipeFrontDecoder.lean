import Vex.Library.Streams
import Vex.Mcp.PipeFrontPayload

/-!
# The incremental decoder of a plane

The decoder stages at most the bytes of one header, checks the header in full
once it is there, and only then collects a payload of the length the header
declares. A malformed frame ends it for good.

The buffers carry their bounds: a header that is still being staged is shorter
than a header, and a staged payload is no longer than its header declares, which
is no more than the plane allows. What is retained is therefore bounded by the
type of the state.
-/

namespace Vex.Mcp.PipeFront

open Vex.Library

/-! ## Headers -/

structure ParsedHeader where
  generation : Int
  connection : Int
  sequence : Int
  type : Int
  flags : Int
  reserved : Int
  length : Int

/-- `view.getUint8(offset)`, and so on for the other widths. -/
def getUnsigned (width offset : Nat) (bytes : List UInt8) : Int :=
  LittleEndian.decode ((bytes.drop offset).take width)

def parseHeader (bytes : List UInt8) : ParsedHeader where
  generation := getUnsigned 4 4 bytes
  connection := getUnsigned 4 8 bytes
  sequence := getUnsigned 8 12 bytes
  type := getUnsigned 1 20 bytes
  flags := getUnsigned 1 21 bytes
  reserved := getUnsigned 2 22 bytes
  length := getUnsigned 4 24 bytes

/-- `decodeBody`: the payload phase, in its frozen order. -/
def decodeBody (header : ParsedHeader) (payload : List UInt8) : Except BodyFault Body :=
  match typeNameById header.type with
  | none => .error (.malformed .unknownType)
  | some type => decodeBodyOf type payload

theorem decodeBody_ne_rangeError (header : ParsedHeader) (payload : List UInt8) :
    decodeBody header payload ≠ .error .rangeError := by
  unfold decodeBody
  split
  · simp
  · exact decodeBodyOf_ne_rangeError _ payload

def magicOf (bytes : List UInt8) : Int := getUnsigned 4 0 bytes

/-- `PipeFrontMalformed`. -/
structure Malformed where
  reason : MalformedReason
  plane : Plane
  type : Int
  connection : Int
  sequence : Int
  length : Int
  deriving DecidableEq

/-- `PipeFrontDecodeEvent`. -/
inductive DecodeEvent where
  | frame (frame : Frame)
  | malformed (malformed : Malformed)
  deriving DecidableEq

/-! ## The state of a decoder -/

/-- A header that passed its checks, and the part of its payload that has arrived. -/
structure Staged (plane : Plane) where
  header : ParsedHeader
  payload : List UInt8
  filled_le : (payload.length : Int) ≤ header.length
  length_le : header.length ≤ payloadBound plane

/-- `PipeFrontFrameDecoder`. The staged header bytes are the filled part of the
header buffer, and a payload is there exactly when its header is staged. -/
@[ext]
structure FrameDecoder (plane : Plane) where
  generation : Int
  adopted : Bool
  expected : Int
  header : List UInt8
  header_lt : header.length < headerBytes
  staged : Option (Staged plane)
  peak : Nat
  peak_le : peak ≤ retentionBound plane
  latched : Option Malformed

namespace FrameDecoder

variable {plane : Plane}

/-- The constructor: generation 0 is that of the bootstrap, and a decoder that is
given another has spent its one adoption. -/
def create (plane : Plane) (generation sequence : Int) : FrameDecoder plane where
  generation := generation
  adopted := generation ≠ 0
  expected := sequence
  header := []
  header_lt := by decide
  staged := none
  peak := headerBytes
  peak_le := Nat.le_add_right _ _
  latched := none

def retainedBytes (decoder : FrameDecoder plane) : Nat :=
  match decoder.staged with
  | none => decoder.header.length
  | some staged => headerBytes + staged.payload.length

/-- The reasons of `PipeFrontDecoderStateError`. -/
inductive StateError where
  | adoptGenerationZero
  | adoptGenerationTwice (generation : Int)
  deriving DecidableEq

def StateError.message : StateError → String
  | .adoptGenerationZero => "pipe-front decoder refused (adopt_generation_zero): " ++
      "0 is the bootstrap generation and can never be adopted"
  | .adoptGenerationTwice generation =>
    "pipe-front decoder refused (adopt_generation_twice): " ++
      "this decoder already reads generation " ++ toString generation

def adoptGeneration (decoder : FrameDecoder plane) (generation : Int) :
    Except StateError (FrameDecoder plane) := do
  refuseIf (generation = 0) .adoptGenerationZero
  refuseIf (decoder.adopted = true) (.adoptGenerationTwice decoder.generation)
  return { decoder with adopted := true, generation := generation }

/-- `validateHeader`: the header phase, in its frozen order. -/
def validateHeader (decoder : FrameDecoder plane) (magicValue : Int) (header : ParsedHeader) :
    Except MalformedReason Unit := do
  refuseIf (magicValue ≠ magic) .badMagic
  refuseIf (header.flags ≠ 0) .flagsSet
  refuseIf (header.reserved ≠ 0) .reservedSet
  match typeNameById header.type with
  | none => .error .unknownType
  | some type => do
    refuseIf (planeCarries plane type = false) .typeNotOnPlane
    refuseIf (if type.isBootstrap then decoder.generation ≠ 0 ∨ header.generation ≠ 0
      else decoder.generation = 0 ∨ header.generation ≠ decoder.generation) .badGeneration
    refuseIf (sequenceExhausted ≤ header.sequence) .sequenceExhausted
    refuseIf (header.sequence ≠ decoder.expected) .sequenceGap
    refuseIf (header.length > payloadBound plane) .lengthOverBound
    if connectionMustBeZero type then
      refuseIf (header.connection ≠ 0) .connectionNotZero
    else refuseIf (header.connection = 0) .connectionZero

/-- `fail`: the failure is latched and the buffers are dropped. -/
def fail (decoder : FrameDecoder plane) (reason : MalformedReason) (header : ParsedHeader) :
    FrameDecoder plane × DecodeEvent :=
  let malformed : Malformed :=
    ⟨reason, plane, header.type, header.connection, header.sequence, header.length⟩
  ({ decoder with
      latched := some malformed, header := [], header_lt := by decide, staged := none },
    .malformed malformed)

variable {decoder : FrameDecoder plane} {header : ParsedHeader}

theorem validateHeader_eq_ok {magicValue : Int} {u : Unit} :
    decoder.validateHeader magicValue header = .ok u ↔
      magicValue = magic ∧ header.flags = 0 ∧ header.reserved = 0 ∧
        ∃ type, typeNameById header.type = some type ∧ planeCarries plane type = true ∧
          (if type.isBootstrap then decoder.generation = 0 ∧ header.generation = 0
            else decoder.generation ≠ 0 ∧ header.generation = decoder.generation) ∧
          header.sequence < sequenceExhausted ∧ header.sequence = decoder.expected ∧
          header.length ≤ payloadBound plane ∧
          (connectionMustBeZero type = true ↔ header.connection = 0) := by
  cases named : typeNameById header.type with
  | none => simp [validateHeader, bind_eq_ok, named]
  | some type =>
    cases bootstrap : type.isBootstrap <;> cases mustBeZero : connectionMustBeZero type <;>
      simp [validateHeader, bind_eq_ok, named, bootstrap, mustBeZero]

/-! ## Staging a header and delivering a frame -/

/-- A full header is checked, and then staged with a payload buffer of the length
it declares. -/
def stage (decoder : FrameDecoder plane) (filled : List UInt8) :
    Except (FrameDecoder plane × DecodeEvent) (FrameDecoder plane) :=
  match valid : decoder.validateHeader (magicOf filled) (parseHeader filled) with
  | .error reason => .error (decoder.fail reason (parseHeader filled))
  | .ok _ =>
    have bounded : (parseHeader filled).length ≤ payloadBound plane :=
      (validateHeader_eq_ok.1 valid).2.2.2.elim fun _ passed => passed.2.2.2.2.2.1
    .ok { decoder with
      header := []
      header_lt := by decide
      staged := some
        { header := parseHeader filled
          payload := []
          filled_le := LittleEndian.decode_nonneg _
          length_le := bounded }
      peak := max decoder.peak (headerBytes + (parseHeader filled).length.toNat)
      peak_le := max_le decoder.peak_le (Nat.add_le_add_left (by omega) _) }

/-- A full payload is decoded; its frame is delivered, and the next one expected.
A plane learns its generation from the frame that announces it. -/
def deliver (decoder : FrameDecoder plane) (header : ParsedHeader) (payload : List UInt8) :
    Except (FrameDecoder plane × DecodeEvent) (FrameDecoder plane × DecodeEvent) :=
  match decoded : decodeBody header payload with
  | .error .rangeError => absurd decoded (decodeBody_ne_rangeError header payload)
  | .error (.malformed reason) => .error (decoder.fail reason header)
  | .ok body =>
    let delivered := { decoder with staged := none, expected := header.sequence + 1 }
    let event := .frame ⟨plane, header.generation, header.connection, header.sequence, body⟩
    match body with
    | .helloAck _ announcedGeneration _ _ _ =>
      .ok ({ delivered with generation := announcedGeneration, adopted := true }, event)
    | _ => .ok (delivered, event)

variable {filled : List UInt8}

variable {next : FrameDecoder plane}

theorem stage_eq_ok (staged : decoder.stage filled = .ok next) :
    decoder.validateHeader (magicOf filled) (parseHeader filled) = .ok () ∧
      (∃ s, next.staged = some s ∧ s.header = parseHeader filled ∧ s.payload = []) ∧
      next.header = [] ∧ next.generation = decoder.generation ∧
      next.adopted = decoder.adopted ∧ next.expected = decoder.expected ∧
      next.latched = decoder.latched := by
  unfold stage at staged
  split at staged
  · contradiction
  · obtain rfl := Except.ok.inj staged
    exact ⟨‹_›, ⟨_, rfl, rfl, rfl⟩, rfl, rfl, rfl, rfl, rfl⟩

theorem stage_of_valid
    (valid : decoder.validateHeader (magicOf filled) (parseHeader filled) = .ok ()) :
    ∃ next, decoder.stage filled = .ok next := by
  unfold stage
  split
  · rename_i refused
    rw [valid] at refused
    contradiction
  · exact ⟨_, rfl⟩

variable {event : DecodeEvent}

variable {failed : FrameDecoder plane}

theorem stage_eq_error (refused : decoder.stage filled = .error (failed, event)) :
    ∃ reason, decoder.validateHeader (magicOf filled) (parseHeader filled) = .error reason ∧
      decoder.fail reason (parseHeader filled) = (failed, event) := by
  unfold stage at refused
  split at refused
  · exact ⟨_, ‹_›, Except.error.inj refused⟩
  · contradiction

/-- The generation and the adoption after a frame was delivered. -/
def learned (decoder : FrameDecoder plane) : Body → Int × Bool
  | .helloAck _ announcedGeneration _ _ _ => (announcedGeneration, true)
  | _ => (decoder.generation, decoder.adopted)

variable {payload : List UInt8}

theorem deliver_eq_ok (delivered : decoder.deliver header payload = .ok (next, event)) :
    ∃ body, decodeBody header payload = .ok body ∧
      event = .frame ⟨plane, header.generation, header.connection, header.sequence, body⟩ ∧
      next.staged = none ∧ next.header = decoder.header ∧ next.latched = decoder.latched ∧
      next.expected = header.sequence + 1 ∧
      (next.generation, next.adopted) = decoder.learned body := by
  unfold deliver at delivered
  split at delivered
  · exact absurd ‹_› (decodeBody_ne_rangeError header payload)
  · contradiction
  · rename_i body decoded
    refine ⟨body, decoded, ?_⟩
    cases body <;>
    · obtain ⟨rfl, rfl⟩ := Prod.mk.inj (Except.ok.inj delivered)
      exact ⟨rfl, rfl, rfl, rfl, rfl, rfl⟩

theorem deliver_of_decoded (decoder : FrameDecoder plane) {body : Body}
    (decoded : decodeBody header payload = .ok body) :
    ∃ next event, decoder.deliver header payload = .ok (next, event) := by
  unfold deliver
  split
  · exact absurd ‹_› (decodeBody_ne_rangeError header payload)
  · rename_i refused
    rw [decoded] at refused
    contradiction
  · split <;> exact ⟨_, _, rfl⟩

theorem deliver_eq_error (refused : decoder.deliver header payload = .error (failed, event)) :
    ∃ reason, decodeBody header payload = .error (.malformed reason) ∧
      decoder.fail reason header = (failed, event) := by
  unfold deliver at refused
  split at refused
  · exact absurd ‹_› (decodeBody_ne_rangeError header payload)
  · exact ⟨_, ‹_›, Except.error.inj refused⟩
  · split at refused <;> contradiction

theorem deliver_of_malformed {reason : MalformedReason}
    (refused : decodeBody header payload = .error (.malformed reason)) :
    decoder.deliver header payload = .error (decoder.fail reason header) := by
  unfold deliver
  split
  · exact absurd ‹_› (decodeBody_ne_rangeError header payload)
  · rename_i other
    rw [refused] at other
    obtain rfl := BodyFault.malformed.inj (Except.error.inj other)
    rfl
  · rename_i decoded
    rw [refused] at decoded
    contradiction

theorem staged_of_deliver (delivered : decoder.deliver header payload = .ok (next, event)) :
    next.staged = none := by
  obtain ⟨_, -, -, nothing, -⟩ := deliver_eq_ok delivered
  exact nothing

/-! ## The loop -/

set_option linter.unusedVariables false in
/-- The loop of `push`, for what is left of the chunk. -/
def pushFrom (decoder : FrameDecoder plane) (chunk : List UInt8) :
    FrameDecoder plane × List DecodeEvent :=
  match inStage : decoder.staged with
  | none =>
    if exhausted : chunk.length = 0 then (decoder, [])
    else
      let take := min (headerBytes - decoder.header.length) chunk.length
      let filled := decoder.header ++ chunk.take take
      if short : filled.length < headerBytes then
        ({ decoder with header := filled, header_lt := short }, [])
      else
        match decoder.stage filled with
        | .error (failed, event) => (failed, [event])
        | .ok staged => staged.pushFrom (chunk.drop take)
  | some staged =>
    let take := min (staged.header.length.toNat - staged.payload.length) chunk.length
    let payload := staged.payload ++ chunk.take take
    if short : (payload.length : Int) < staged.header.length then
      ({ decoder with staged := some { staged with payload, filled_le := short.le } }, [])
    else
      match delivered : decoder.deliver staged.header payload with
      | .error (failed, event) => (failed, [event])
      | .ok (next, event) =>
        ((next.pushFrom (chunk.drop take)).1, event :: (next.pushFrom (chunk.drop take)).2)
  termination_by 2 * chunk.length + (if decoder.staged.isSome then 1 else 0)
  decreasing_by
    · have room := decoder.header_lt
      have nothingStaged : (if decoder.staged.isSome then 1 else 0) = 0 := by rw [inStage]; rfl
      rw [List.length_drop, nothingStaged]
      split <;> omega
    · have nothingStaged : (if next.staged.isSome then 1 else 0) = 0 := by
        rw [staged_of_deliver delivered]
        rfl
      have inStaging : (if decoder.staged.isSome then 1 else 0) = 1 := by rw [inStage]; rfl
      rw [List.length_drop, nothingStaged, inStaging]
      omega

def push (decoder : FrameDecoder plane) (chunk : List UInt8) :
    FrameDecoder plane × List DecodeEvent :=
  if decoder.latched ≠ none ∨ chunk.length = 0 then (decoder, [])
  else decoder.pushFrom chunk

/-! ## One round of the loop

What is pushed is cut where the round stops taking: at the end of the chunk, of
the header, or of the payload. -/

def withHeader (decoder : FrameDecoder plane) (header : List UInt8)
    (short : header.length < headerBytes) : FrameDecoder plane :=
  { decoder with header := header, header_lt := short }

def withPayload (decoder : FrameDecoder plane) (staged : Staged plane) (payload : List UInt8)
    (fits : (payload.length : Int) ≤ staged.header.length) : FrameDecoder plane :=
  { decoder with staged := some { staged with payload, filled_le := fits } }

variable {chunk : List UInt8}

theorem pushFrom_header_short (nothing : decoder.staged = none)
    (short : (decoder.header ++ chunk).length < headerBytes) :
    decoder.pushFrom chunk = (decoder.withHeader (decoder.header ++ chunk) short, []) := by
  have room := short
  rw [List.length_append] at room
  have all : chunk.take (min (headerBytes - decoder.header.length) chunk.length) = chunk :=
    List.take_of_length_le (by omega)
  unfold pushFrom
  split
  · split
    · rename_i exhausted
      obtain rfl := List.length_eq_zero_iff.1 exhausted
      simp [withHeader]
    · simp only [all, dif_pos short]
      rfl
  · rename_i inStage
    rw [nothing] at inStage
    contradiction

variable {front : List UInt8}

theorem pushFrom_header_full (nothing : decoder.staged = none)
    (full : decoder.header.length + front.length = headerBytes) (rest : List UInt8) :
    decoder.pushFrom (front ++ rest) =
      match decoder.stage (decoder.header ++ front) with
      | .error (failed, event) => (failed, [event])
      | .ok staged => staged.pushFrom rest := by
  have room := decoder.header_lt
  have taken : min (headerBytes - decoder.header.length) (front ++ rest).length =
      front.length := by
    rw [List.length_append]
    omega
  have enough : ¬ (decoder.header ++ front).length < headerBytes := by
    rw [List.length_append]
    omega
  conv => lhs; unfold pushFrom
  split
  · rw [dif_neg (by rw [List.length_append]; omega)]
    simp only [taken, List.take_left, List.drop_left, dif_neg enough]
  · rename_i inStage
    rw [nothing] at inStage
    contradiction

variable {staged : Staged plane}

theorem pushFrom_payload_short (inStage : decoder.staged = some staged)
    (short : ((staged.payload ++ chunk).length : Int) < staged.header.length) :
    decoder.pushFrom chunk =
      (decoder.withPayload staged (staged.payload ++ chunk) (Int.le_of_lt short), []) := by
  have room := short
  rw [List.length_append] at room
  have all : chunk.take (min (staged.header.length.toNat - staged.payload.length)
      chunk.length) = chunk := List.take_of_length_le (by omega)
  unfold pushFrom
  split
  · rename_i nothing
    rw [nothing] at inStage
    contradiction
  · rename_i other same
    obtain rfl := Option.some.inj (inStage.symm.trans same)
    simp only [all, dif_pos short]
    rfl

theorem pushFrom_payload_full (inStage : decoder.staged = some staged)
    (full : ((staged.payload ++ front).length : Int) = staged.header.length) (rest : List UInt8) :
    decoder.pushFrom (front ++ rest) =
      match decoder.deliver staged.header (staged.payload ++ front) with
      | .error (failed, event) => (failed, [event])
      | .ok (next, event) => ((next.pushFrom rest).1, event :: (next.pushFrom rest).2) := by
  have room := full
  rw [List.length_append] at room
  have taken : min (staged.header.length.toNat - staged.payload.length) (front ++ rest).length =
      front.length := by
    rw [List.length_append]
    omega
  have enough : ¬ ((staged.payload ++ front).length : Int) < staged.header.length := by omega
  conv => lhs; unfold pushFrom
  split
  · rename_i nothing
    rw [nothing] at inStage
    contradiction
  · rename_i other same
    obtain rfl := Option.some.inj (inStage.symm.trans same)
    simp only [taken, List.take_left, List.drop_left, dif_neg enough]
    split <;> simp_all

inductive Round (decoder : FrameDecoder plane) : List UInt8 → Prop
  | headerShort (chunk : List UInt8) (nothing : decoder.staged = none)
      (short : (decoder.header ++ chunk).length < headerBytes) : Round decoder chunk
  | headerFull (front rest : List UInt8) (nothing : decoder.staged = none)
      (full : decoder.header.length + front.length = headerBytes) : Round decoder (front ++ rest)
  | payloadShort (chunk : List UInt8) (staged : Staged plane)
      (inStage : decoder.staged = some staged)
      (short : ((staged.payload ++ chunk).length : Int) < staged.header.length) :
      Round decoder chunk
  | payloadFull (front rest : List UInt8) (staged : Staged plane)
      (inStage : decoder.staged = some staged)
      (full : ((staged.payload ++ front).length : Int) = staged.header.length) :
      Round decoder (front ++ rest)

theorem round (decoder : FrameDecoder plane) (chunk : List UInt8) : Round decoder chunk := by
  cases inStage : decoder.staged with
  | none =>
    have room := decoder.header_lt
    by_cases short : (decoder.header ++ chunk).length < headerBytes
    · exact .headerShort chunk inStage short
    · rw [List.length_append] at short
      have cut := Round.headerFull (chunk.take (headerBytes - decoder.header.length))
        (chunk.drop (headerBytes - decoder.header.length)) inStage
        (by rw [List.length_take_of_le (by omega)]; omega)
      rwa [List.take_append_drop] at cut
  | some staged =>
    have room := staged.filled_le
    by_cases short : ((staged.payload ++ chunk).length : Int) < staged.header.length
    · exact .payloadShort chunk staged inStage short
    · rw [List.length_append] at short
      have cut := Round.payloadFull
        (chunk.take (staged.header.length.toNat - staged.payload.length))
        (chunk.drop (staged.header.length.toNat - staged.payload.length)) staged inStage
        (by rw [List.length_append, List.length_take_of_le (by omega)]; omega)
      rwa [List.take_append_drop] at cut

/-- What holds where the loop stops, and is carried back over each round that goes on,
holds of every chunk. -/
theorem pushFrom_induction {motive : FrameDecoder plane → List UInt8 → Prop}
    (headerShort : ∀ (decoder : FrameDecoder plane) (chunk : List UInt8),
      decoder.staged = none → (decoder.header ++ chunk).length < headerBytes →
      motive decoder chunk)
    (refused : ∀ (decoder : FrameDecoder plane) (front rest : List UInt8)
      (failed : FrameDecoder plane) (event : DecodeEvent), decoder.staged = none →
      decoder.header.length + front.length = headerBytes →
      decoder.stage (decoder.header ++ front) = .error (failed, event) →
      motive decoder (front ++ rest))
    (headerFull : ∀ (decoder : FrameDecoder plane) (front rest : List UInt8)
      (next : FrameDecoder plane), decoder.staged = none →
      decoder.header.length + front.length = headerBytes →
      decoder.stage (decoder.header ++ front) = .ok next → motive next rest →
      motive decoder (front ++ rest))
    (payloadShort : ∀ (decoder : FrameDecoder plane) (staged : Staged plane)
      (chunk : List UInt8), decoder.staged = some staged →
      ((staged.payload ++ chunk).length : Int) < staged.header.length → motive decoder chunk)
    (malformed : ∀ (decoder : FrameDecoder plane) (staged : Staged plane)
      (front rest : List UInt8) (failed : FrameDecoder plane) (event : DecodeEvent),
      decoder.staged = some staged →
      ((staged.payload ++ front).length : Int) = staged.header.length →
      decoder.deliver staged.header (staged.payload ++ front) = .error (failed, event) →
      motive decoder (front ++ rest))
    (payloadFull : ∀ (decoder : FrameDecoder plane) (staged : Staged plane)
      (front rest : List UInt8) (next : FrameDecoder plane) (event : DecodeEvent),
      decoder.staged = some staged →
      ((staged.payload ++ front).length : Int) = staged.header.length →
      decoder.deliver staged.header (staged.payload ++ front) = .ok (next, event) →
      motive next rest → motive decoder (front ++ rest))
    (decoder : FrameDecoder plane) (chunk : List UInt8) : motive decoder chunk := by
  have bounded (n : Nat) : ∀ (decoder : FrameDecoder plane) (chunk : List UInt8),
      2 * chunk.length + (if decoder.staged.isSome then 1 else 0) < n → motive decoder chunk := by
    induction n with
    | zero => exact fun _ _ below => absurd below (Nat.not_lt_zero _)
    | succ n ih =>
      intro decoder chunk below
      cases decoder.round chunk with
      | headerShort _ nothing short => exact headerShort decoder chunk nothing short
      | payloadShort _ staged inStage short =>
        exact payloadShort decoder staged chunk inStage short
      | headerFull front rest nothing full =>
        cases stages : decoder.stage (decoder.header ++ front) with
        | error failure =>
          exact refused decoder front rest failure.1 failure.2 nothing full stages
        | ok next =>
          -- a header that is not full yet takes at least one byte
          have room := decoder.header_lt
          refine headerFull decoder front rest next nothing full stages (ih next rest ?_)
          rw [List.length_append] at below
          split <;> omega
      | payloadFull front rest staged inStage full =>
        cases delivers : decoder.deliver staged.header (staged.payload ++ front) with
        | error failure =>
          exact malformed decoder staged front rest failure.1 failure.2 inStage full delivers
        | ok delivered =>
          -- the payload that was staged is gone
          refine payloadFull decoder staged front rest delivered.1 delivered.2 inStage full
            delivers (ih delivered.1 rest ?_)
          have nothingStaged : (if delivered.1.staged.isSome then 1 else 0) = 0 := by
            rw [staged_of_deliver delivers]
            rfl
          have inStaging : (if decoder.staged.isSome then 1 else 0) = 1 := by
            rw [inStage]
            rfl
          rw [inStaging, List.length_append] at below
          rw [nothingStaged]
          omega
  exact bounded _ decoder chunk (Nat.lt_succ_self _)

end FrameDecoder

end Vex.Mcp.PipeFront
