import Vex.Bridge.FrameBodies
import Vex.Library.Framing

/-!
# The stream of a plane

A plane is a framed stream: a header of 28 bytes, checked in full, and a payload
of the length it declares. What may follow depends on the generation the reader
is at and on the sequence it expects (`framing`).

The decoder of the front's side follows this framing for every piece that is not
empty (`Decoder.follows`). What it has staged is the beginning of a frame.
-/

namespace Vex.Bridge.Frames

open Vex.Library

/-- The generation a reader is at, and the sequence it expects. -/
abbrev Position := UInt32 × UInt64

def Position.after (position : Position) (head : Header) : Payload → Position
  | .helloAck _ announcedGeneration _ _ _ => (announcedGeneration, head.sequence + 1)
  | _ => (position.1, head.sequence + 1)

def framing (plane : Plane) : Framing UInt8 Position Frame MalformedError where
  width := headerBytes
  width_pos := by decide
  check position bytes :=
    let head := parseHeader bytes
    match validateHeader plane position.1 position.2 head with
    | .error reason => .error
        ⟨reason, plane, head.frameType, head.connection, head.sequence, head.length⟩
    | .ok _ => .ok head.length.toNat
  take position bytes payload :=
    let head := parseHeader bytes
    match decoded : decodeBody head.frameType payload with
    | .error (.malformed reason) => .error
        ⟨reason, plane, head.frameType, head.connection, head.sequence, head.length⟩
    | .error .panics => absurd decoded (decodeBody_ne_panics head.frameType payload)
    | .ok body => .ok (position.after head body,
        ⟨plane, head.generation, head.connection, head.sequence, some body⟩)

variable {plane : Plane} {position : Position} {bytes : List UInt8}

theorem check_eq_ok
    (passed : validateHeader plane position.1 position.2 (parseHeader bytes) = .ok ()) :
    (framing plane).check position bytes = .ok (parseHeader bytes).length.toNat := by
  simp only [framing, passed]

theorem check_eq_error {reason : Reason}
    (refused : validateHeader plane position.1 position.2 (parseHeader bytes) = .error reason) :
    (framing plane).check position bytes = .error ⟨reason, plane, (parseHeader bytes).frameType,
      (parseHeader bytes).connection, (parseHeader bytes).sequence,
      (parseHeader bytes).length⟩ := by
  simp only [framing, refused]

theorem take_eq_ok {payload : List UInt8} {body : Payload}
    (decoded : decodeBody (parseHeader bytes).frameType payload = .ok body) :
    (framing plane).take position bytes payload = .ok (position.after (parseHeader bytes) body,
      ⟨plane, (parseHeader bytes).generation, (parseHeader bytes).connection,
        (parseHeader bytes).sequence, some body⟩) := by
  simp only [framing]
  split
  · rename_i refused
    rw [decoded] at refused
    contradiction
  · exact absurd ‹_› (decodeBody_ne_panics _ payload)
  · rename_i other same
    obtain rfl := Except.ok.inj (decoded.symm.trans same)
    rfl

theorem take_eq_error {payload : List UInt8} {reason : Reason}
    (refused : decodeBody (parseHeader bytes).frameType payload = .error (.malformed reason)) :
    (framing plane).take position bytes payload = .error ⟨reason, plane,
      (parseHeader bytes).frameType, (parseHeader bytes).connection,
      (parseHeader bytes).sequence, (parseHeader bytes).length⟩ := by
  simp only [framing]
  split
  · rename_i other same
    obtain rfl := BodyFault.malformed.inj (Except.error.inj (refused.symm.trans same))
    rfl
  · exact absurd ‹_› (decodeBody_ne_panics _ payload)
  · rename_i same
    rw [refused] at same
    contradiction

/-! ## What a decoder has staged -/

namespace Decoder

/-- A live decoder holds the beginning of a frame; one that failed holds its failure. -/
inductive Represents (plane : Plane) (d : Decoder) : Ending UInt8 Position MalformedError → Prop
  | header (mine : d.plane = plane) (live : d.latched = none) (nothing : d.staged = none) :
      Represents plane d (.waiting (d.generation, d.expected) d.headerStage)
  | payload (staged : Staged) (bytes : List UInt8) (mine : d.plane = plane)
      (live : d.latched = none) (empty : d.headerStage = []) (inStage : d.staged = some staged)
      (whole : bytes.length = headerBytes) (parsed : parseHeader bytes = staged.head)
      (passed : validateHeader d.plane d.generation d.expected staged.head = .ok ()) :
      Represents plane d (.waiting (d.generation, d.expected) (bytes ++ staged.payload))
  | failed (error : MalformedError) (latched : d.latched = some error) :
      Represents plane d (.stopped error)

theorem represents_new (plane : Plane) (generation : UInt32) (sequence : UInt64) :
    (new plane generation sequence).Represents plane
      (.waiting (generation, if sequence = 0 then 1 else sequence) []) :=
  .header rfl rfl rfl

/-! ## One round of the loop -/

variable {d : Decoder} {plane : Plane}

variable {chunk : List UInt8}

theorem pushFrom_header_short (nothing : d.staged = none)
    (short : (d.headerStage ++ chunk).length < headerBytes) :
    d.pushFrom chunk =
      ({ d with headerStage := d.headerStage ++ chunk, headerStage_lt := short }, [], none) := by
  have room := short
  rw [List.length_append] at room
  have all : chunk.take (min (headerBytes - d.headerStage.length) chunk.length) = chunk :=
    List.take_of_length_le (by omega)
  unfold pushFrom
  split
  · split
    · rename_i exhausted
      obtain rfl := List.length_eq_zero_iff.1 exhausted
      simp
    · simp only [all, dif_pos short]
  · rename_i inStage
    rw [nothing] at inStage
    contradiction

variable {front : List UInt8}

theorem pushFrom_header_full (nothing : d.staged = none)
    (full : d.headerStage.length + front.length = headerBytes) (rest : List UInt8) :
    d.pushFrom (front ++ rest) =
      match validateHeader d.plane d.generation d.expected
          (parseHeader (d.headerStage ++ front)) with
      | .error reason =>
        ((d.fail reason (parseHeader (d.headerStage ++ front))).1, [],
          some (.malformed (d.fail reason (parseHeader (d.headerStage ++ front))).2))
      | .ok _ => (d.stage (parseHeader (d.headerStage ++ front))).pushFrom rest := by
  have room := d.headerStage_lt
  have taken : min (headerBytes - d.headerStage.length) (front ++ rest).length =
      front.length := by
    rw [List.length_append]
    omega
  have enough : ¬ (d.headerStage ++ front).length < headerBytes := by
    rw [List.length_append]
    omega
  conv => lhs; unfold pushFrom
  split
  · rw [dif_neg (by rw [List.length_append]; omega)]
    simp only [taken, List.take_left, List.drop_left, dif_neg enough] <;>
      cases validateHeader d.plane d.generation d.expected
        (parseHeader (d.headerStage ++ front)) <;>
      rfl
  · rename_i inStage
    rw [nothing] at inStage
    contradiction

variable {staged : Staged}

theorem pushFrom_payload_short (inStage : d.staged = some staged)
    (short : (staged.payload ++ chunk).length < staged.head.length.toNat) :
    d.pushFrom chunk =
      ({ d with staged := some ⟨staged.head, staged.payload ++ chunk, short.le⟩ }, [], none) := by
  have room := short
  rw [List.length_append] at room
  have all : chunk.take (min (staged.head.length.toNat - staged.payload.length)
      chunk.length) = chunk := List.take_of_length_le (by omega)
  unfold pushFrom
  split
  · rename_i nothing
    rw [nothing] at inStage
    contradiction
  · rename_i other same
    obtain rfl := Option.some.inj (inStage.symm.trans same)
    simp only [all, dif_pos short]

theorem pushFrom_payload_full (inStage : d.staged = some staged)
    (full : (staged.payload ++ front).length = staged.head.length.toNat) (rest : List UInt8) :
    d.pushFrom (front ++ rest) =
      match decodeBody staged.head.frameType (staged.payload ++ front) with
      | .error (.malformed reason) =>
        ((d.fail reason staged.head).1, [], some (.malformed (d.fail reason staged.head).2))
      | .error .panics => (d, [], none)
      | .ok body =>
        (((d.deliver staged.head body).1.pushFrom rest).1, (d.deliver staged.head body).2 ::
            ((d.deliver staged.head body).1.pushFrom rest).2.1,
          ((d.deliver staged.head body).1.pushFrom rest).2.2) := by
  have room := full
  rw [List.length_append] at room
  have taken : min (staged.head.length.toNat - staged.payload.length) (front ++ rest).length =
      front.length := by
    rw [List.length_append]
    omega
  have enough : ¬ (staged.payload ++ front).length < staged.head.length.toNat := by omega
  conv => lhs; unfold pushFrom
  split
  · rename_i nothing
    rw [nothing] at inStage
    contradiction
  · rename_i other same
    obtain rfl := Option.some.inj (inStage.symm.trans same)
    simp only [taken, List.take_left, List.drop_left, dif_neg enough] <;>
      rcases decodeBody staged.head.frameType (staged.payload ++ front) with (reason | _) | body <;>
      rfl

/-! ## The decoder follows the framing -/

structure Reads (plane : Plane) (result : Decoder × List Frame × Option PushError)
    (reading : List Frame × Ending UInt8 Position MalformedError) : Prop where
  represents : result.1.Represents plane reading.2
  frames : result.2.1 = reading.1
  error : result.2.2 = reading.2.fault?.map PushError.malformed

section
variable (mine : d.plane = plane)
include mine

theorem reads_header_short (live : d.latched = none) (nothing : d.staged = none)
    (short : (d.headerStage ++ chunk).length < headerBytes) :
    Reads plane (d.pushFrom chunk)
      ((framing plane).read (d.generation, d.expected) (d.headerStage ++ chunk)) := by
  have reading : (framing plane).read (d.generation, d.expected) (d.headerStage ++ chunk) =
      ([], .waiting (d.generation, d.expected) (d.headerStage ++ chunk)) := Framing.read_short short
  rw [pushFrom_header_short nothing short, reading]
  exact ⟨.header mine live nothing, rfl, rfl⟩

theorem reads_header_refused {reason : Reason} (nothing : d.staged = none)
    (full : (d.headerStage ++ front).length = headerBytes)
    (refused : validateHeader d.plane d.generation d.expected
      (parseHeader (d.headerStage ++ front)) = .error reason) (rest : List UInt8) :
    Reads plane (d.pushFrom (front ++ rest))
      ((framing plane).read (d.generation, d.expected) ((d.headerStage ++ front) ++ rest)) := by
  have check := @check_eq_error plane (d.generation, d.expected) _ _ (mine ▸ refused)
  rw [List.length_append] at full
  rw [pushFrom_header_full nothing full, refused,
    Framing.read_refused (F := framing plane) (by rw [List.length_append]; exact full) check]
  exact ⟨.failed _ (by simp [fail, mine]), rfl, by simp [fail, mine]⟩

theorem reads_header_passed (live : d.latched = none)
    (full : (d.headerStage ++ front).length = headerBytes)
    (valid : validateHeader d.plane d.generation d.expected
      (parseHeader (d.headerStage ++ front)) = .ok ()) :
    (d.stage (parseHeader (d.headerStage ++ front))).Represents plane
      (.waiting (d.generation, d.expected) (d.headerStage ++ front)) := by
  have represents : (d.stage (parseHeader (d.headerStage ++ front))).Represents plane
      (.waiting (d.generation, d.expected) ((d.headerStage ++ front) ++ [])) :=
    .payload ⟨_, [], Nat.zero_le _⟩ _ mine live rfl rfl full rfl valid
  rwa [List.append_nil] at represents

theorem reads_payload_short {bytes : List UInt8} (live : d.latched = none)
    (empty : d.headerStage = []) (inStage : d.staged = some staged)
    (whole : bytes.length = headerBytes) (parsed : parseHeader bytes = staged.head)
    (passed : validateHeader d.plane d.generation d.expected staged.head = .ok ())
    (short : (staged.payload ++ chunk).length < staged.head.length.toNat) :
    Reads plane (d.pushFrom chunk)
      ((framing plane).read (d.generation, d.expected) (bytes ++ staged.payload ++ chunk)) := by
  have check := @check_eq_ok plane (d.generation, d.expected) bytes (by
    rw [parsed, ← mine]
    exact passed)
  rw [parsed] at check
  rw [pushFrom_payload_short inStage short, List.append_assoc,
    Framing.read_within (F := framing plane) whole check short]
  exact ⟨.payload ⟨staged.head, staged.payload ++ chunk, short.le⟩ bytes mine live empty rfl whole
    parsed passed, rfl, rfl⟩

theorem reads_payload_full {bytes : List UInt8} (live : d.latched = none)
    (empty : d.headerStage = []) (inStage : d.staged = some staged)
    (whole : bytes.length = headerBytes) (parsed : parseHeader bytes = staged.head)
    (passed : validateHeader d.plane d.generation d.expected staged.head = .ok ())
    (full : (staged.payload ++ front).length = staged.head.length.toNat) (rest : List UInt8)
    (later : ∀ body, decodeBody staged.head.frameType (staged.payload ++ front) = .ok body →
      (d.deliver staged.head body).1.Represents plane
        (.waiting (Position.after (d.generation, d.expected) staged.head body) []) →
      Reads plane ((d.deliver staged.head body).1.pushFrom rest)
        ((framing plane).read (Position.after (d.generation, d.expected) staged.head body) rest)) :
    Reads plane (d.pushFrom (front ++ rest)) ((framing plane).read (d.generation, d.expected)
        (bytes ++ staged.payload ++ (front ++ rest))) := by
  have check := @check_eq_ok plane (d.generation, d.expected) bytes (by
    rw [parsed, ← mine]
    exact passed)
  rw [parsed, ← full] at check
  rw [pushFrom_payload_full inStage full, List.append_assoc, ← List.append_assoc staged.payload,
    Framing.read_frame (F := framing plane) whole check]
  rcases decoded : decodeBody staged.head.frameType (staged.payload ++ front) with
    (reason | _) | body
  · have taken := @take_eq_error plane (d.generation, d.expected) bytes _ _ (parsed.symm ▸ decoded)
    rw [taken]
    exact ⟨.failed _ (by simp [fail, mine, parsed]), rfl, by simp [fail, mine, parsed]⟩
  · exact absurd decoded (decodeBody_ne_panics _ _)
  · have taken := @take_eq_ok plane (d.generation, d.expected) bytes _ _ (parsed.symm ▸ decoded)
    have boundary : (d.deliver staged.head body).1.Represents plane
        (.waiting (Position.after (d.generation, d.expected) staged.head body) []) := by
      rw [← empty]
      cases body <;> exact .header mine live rfl
    have next := later body decoded boundary
    rw [taken, parsed]
    refine ⟨next.represents, ?_, next.error⟩
    have same : (d.deliver staged.head body).2 = ⟨plane, staged.head.generation,
        staged.head.connection, staged.head.sequence, some body⟩ := by
      rw [← mine]
      rfl
    dsimp only
    rw [next.frames, same]

end

theorem exists_front {n : Nat} (enough : n ≤ chunk.length) :
    ∃ front rest, chunk = front ++ rest ∧ front.length = n :=
  ⟨chunk.take n, chunk.drop n, (List.take_append_drop n chunk).symm, List.length_take_of_le enough⟩

theorem pushFrom_reads (chunk : List UInt8) (held : List UInt8) (position : Position)
    (represents : d.Represents plane (.waiting position held)) :
    Reads plane (d.pushFrom chunk) ((framing plane).read position (held ++ chunk)) := by
  induction count : 2 * chunk.length + (if d.staged.isSome then 1 else 0) using Nat.strongRecOn
    generalizing d chunk held position with
  | ind n ih =>
    subst count
    cases represents with
    | header mine live nothing =>
      have room := d.headerStage_lt
      by_cases short : (d.headerStage ++ chunk).length < headerBytes
      · exact reads_header_short mine live nothing short
      · rw [List.length_append] at short
        obtain ⟨front, rest, rfl, taken⟩ :=
          @exists_front chunk (headerBytes - d.headerStage.length) (by omega)
        have full : (d.headerStage ++ front).length = headerBytes := by
          rw [List.length_append]
          omega
        rw [← List.append_assoc]
        cases valid : validateHeader d.plane d.generation d.expected
          (parseHeader (d.headerStage ++ front)) with
        | error reason => exact reads_header_refused mine nothing full valid rest
        | ok _ =>
          have lengths : d.headerStage.length + front.length = headerBytes := by omega
          rw [pushFrom_header_full nothing lengths, valid]
          refine ih _ ?_ rest _ _ (reads_header_passed mine live full valid) rfl
          -- a header that is not full yet takes at least one byte
          simp only [stage, nothing, Option.isSome_some, Option.isSome_none, if_true,
            Bool.false_eq_true, if_false, List.length_append]
          omega
    | payload staged bytes mine live empty inStage whole parsed passed =>
      have room := staged.filled_le
      by_cases short : (staged.payload ++ chunk).length < staged.head.length.toNat
      · exact reads_payload_short mine live empty inStage whole parsed passed short
      · rw [List.length_append] at short
        obtain ⟨front, rest, rfl, taken⟩ :=
          @exists_front chunk (staged.head.length.toNat - staged.payload.length) (by omega)
        have full : (staged.payload ++ front).length = staged.head.length.toNat := by
          rw [List.length_append]
          omega
        refine reads_payload_full mine live empty inStage whole parsed passed full rest
          fun body _ boundary => ih _ ?_ rest [] _ boundary rfl
        -- the payload that was staged is gone
        simp only [staged_deliver, inStage, Option.isSome_some, Option.isSome_none, if_true,
          Bool.false_eq_true, if_false, List.length_append]
        omega

theorem step_events (d : Decoder) (chunk : List UInt8) :
    (d.step chunk).2.filterMap Event.frame? = (d.push chunk).2.1 ∧
      (d.step chunk).2.findSome? Event.error? = (d.push chunk).2.2 := by
  have frames (items : List Frame) : (items.map Event.frame).filterMap Event.frame? = items := by
    induction items with
    | nil => rfl
    | cons item items ih => simp [Event.frame?, ih]
  have quiet (items : List Frame) : (items.map Event.frame).findSome? Event.error? = none := by
    induction items with
    | nil => rfl
    | cons item items ih => simp [Event.error?]
  rw [step, List.filterMap_append, List.findSome?_append, frames, quiet]
  cases (d.push chunk).2.2 with
  | none => simp
  | some error => simp [Event.frame?, Event.error?]

theorem follows (plane : Plane) :
    Follows (framing plane) step Event.frame? Event.error? id PushError.malformed
      (fun piece => piece ≠ []) (Represents plane) where
  waiting d position held piece represents nonempty := by
    have live : d.latched = none := by cases represents <;> assumption
    have pushed : d.push piece = d.pushFrom piece := by
      rw [push, live]
      exact if_neg fun nothing => nonempty (List.length_eq_zero_iff.1 nothing)
    have reads := pushFrom_reads piece held position represents
    have events := step_events d piece
    rw [pushed] at events
    rw [events.1, events.2, List.map_id]
    refine ⟨?_, reads.frames, reads.error⟩
    rw [step, pushed]
    exact reads.represents
  stopped d error piece represents := by
    cases represents with
    | failed _ latched =>
      have pushed : d.push piece = (d, [], some (.malformed error)) := by rw [push, latched]
      have events := step_events d piece
      rw [pushed] at events
      refine ⟨?_, events.1⟩
      rw [step, pushed]
      exact .failed error latched

theorem step_empty {position : Position} {held : List UInt8}
    (represents : d.Represents plane (.waiting position held)) :
    d.step [] = (d, [.error .typedNil]) := by
  have live : d.latched = none := by cases represents <;> assumption
  rw [step, push, live]
  rfl

end Decoder

end Vex.Bridge.Frames
