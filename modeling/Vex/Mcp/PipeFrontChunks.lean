import Vex.Mcp.PipeFrontBodies
import Vex.Mcp.PipeFrontDecoder

/-!
# However the stream is cut

A decoder is pushed the pieces in which its plane is read. Here it is shown that
the pieces do not matter: pushing two of them is pushing both at once, so a
decoder is seamless, and every splitting of a stream gives the same frames, the
same failure and the same decoder.

A decoder's run is what its owner does with it: it pushes chunks, and it may
adopt the generation once. Over every such run the frames carry consecutive
sequence numbers, those of the bootstrap carry generation 0 and all others one
generation, a failure is the last event, and what is retained stays within the
header and the largest payload of the plane.
-/

namespace Vex.Mcp.PipeFront

open Vex.Library

namespace FrameDecoder

variable {plane : Plane}

/-! ## Two pieces are one -/

theorem stage_withHeader (decoder : FrameDecoder plane) {header : List UInt8}
    (short : header.length < headerBytes) (filled : List UInt8) :
    (decoder.withHeader header short).stage filled = decoder.stage filled := rfl

variable {payload : List UInt8}

theorem deliver_withPayload (decoder : FrameDecoder plane) (staged : Staged plane)
    (fits : (payload.length : Int) ≤ staged.header.length) (header : ParsedHeader)
    (whole : List UInt8) :
    (decoder.withPayload staged payload fits).deliver header whole =
      decoder.deliver header whole := rfl

variable {decoder : FrameDecoder plane}

variable {chunk : List UInt8}

theorem pushFrom_withHeader (nothing : decoder.staged = none)
    (short : (decoder.header ++ chunk).length < headerBytes) (later : List UInt8) :
    (decoder.withHeader (decoder.header ++ chunk) short).pushFrom later =
      decoder.pushFrom (chunk ++ later) := by
  cases (decoder.withHeader (decoder.header ++ chunk) short).round later with
  | headerShort _ nothing' short' =>
    have whole : (decoder.header ++ (chunk ++ later)).length < headerBytes := by
      rw [← List.append_assoc]
      exact short'
    rw [pushFrom_header_short nothing' short', pushFrom_header_short nothing whole]
    simp only [withHeader, List.append_assoc]
  | headerFull front rest nothing' full =>
    have whole : decoder.header.length + (chunk ++ front).length = headerBytes := by
      rw [List.length_append, ← Nat.add_assoc, ← List.length_append]
      exact full
    rw [pushFrom_header_full nothing' full, ← List.append_assoc, pushFrom_header_full nothing whole,
      stage_withHeader, ← List.append_assoc]
    rfl
  | payloadShort _ staged inStage | payloadFull _ _ staged inStage =>
    have gone : decoder.staged = some staged := inStage
    rw [nothing] at gone
    contradiction

variable {staged : Staged plane}

theorem pushFrom_withPayload (inStage : decoder.staged = some staged)
    (short : ((staged.payload ++ chunk).length : Int) < staged.header.length) (later : List UInt8) :
    (decoder.withPayload staged (staged.payload ++ chunk) (Int.le_of_lt short)).pushFrom later =
      decoder.pushFrom (chunk ++ later) := by
  cases (decoder.withPayload staged (staged.payload ++ chunk) short.le).round later with
  | headerShort _ nothing | headerFull _ _ nothing => exact absurd nothing (by simp [withPayload])
  | payloadShort _ other inStage' short' =>
    obtain rfl := Option.some.inj inStage'
    have whole : ((staged.payload ++ (chunk ++ later)).length : Int) < staged.header.length := by
      rw [← List.append_assoc]
      exact short'
    rw [pushFrom_payload_short inStage' short', pushFrom_payload_short inStage whole]
    simp only [withPayload, List.append_assoc]
  | payloadFull front rest other inStage' full =>
    obtain rfl := Option.some.inj inStage'
    have whole : ((staged.payload ++ (chunk ++ front)).length : Int) =
        staged.header.length := by
      rw [← List.append_assoc]
      exact full
    rw [pushFrom_payload_full inStage' full, ← List.append_assoc,
      pushFrom_payload_full inStage whole, deliver_withPayload, ← List.append_assoc]

theorem push_latched (failed : decoder.latched ≠ none) (chunk : List UInt8) :
    decoder.push chunk = (decoder, []) :=
  if_pos (Or.inl failed)

theorem push_nil (decoder : FrameDecoder plane) : decoder.push [] = (decoder, []) :=
  if_pos (Or.inr rfl)

theorem push_eq_pushFrom (live : decoder.latched = none)
    (waiting : decoder.pushFrom [] = (decoder, [])) (chunk : List UInt8) :
    decoder.push chunk = decoder.pushFrom chunk := by
  by_cases empty : chunk.length = 0
  · obtain rfl := List.length_eq_zero_iff.1 empty
    rw [push_nil, waiting]
  · exact if_neg (by simp [live, empty])

theorem fail_latched (decoder : FrameDecoder plane) (reason : MalformedReason)
    (header : ParsedHeader) : (decoder.fail reason header).1.latched ≠ none := by
  simp [fail]

theorem pushFrom_append (decoder : FrameDecoder plane) (chunk : List UInt8) :
    decoder.latched = none → ∀ later, decoder.pushFrom (chunk ++ later) =
        (((decoder.pushFrom chunk).1.push later).1,
          (decoder.pushFrom chunk).2 ++ ((decoder.pushFrom chunk).1.push later).2) := by
  refine pushFrom_induction (motive := fun decoder chunk => decoder.latched = none → ∀ later,
      decoder.pushFrom (chunk ++ later) = (((decoder.pushFrom chunk).1.push later).1,
        (decoder.pushFrom chunk).2 ++ ((decoder.pushFrom chunk).1.push later).2))
    ?_ ?_ ?_ ?_ ?_ ?_ decoder chunk
  · intro decoder chunk nothing short live later
    have waiting : (decoder.withHeader (decoder.header ++ chunk) short).pushFrom [] =
        (decoder.withHeader (decoder.header ++ chunk) short, []) := by
      rw [pushFrom_withHeader nothing, List.append_nil, pushFrom_header_short nothing short]
    rw [pushFrom_header_short nothing short]
    have live' : (decoder.withHeader (decoder.header ++ chunk) short).latched = none := live
    rw [push_eq_pushFrom live' waiting, pushFrom_withHeader nothing, List.nil_append]
  · intro decoder front rest failed event nothing full refused live later
    obtain ⟨reason, -, failure⟩ := stage_eq_error refused
    have ended : failed.latched ≠ none := by
      have latches := fail_latched decoder reason (parseHeader (decoder.header ++ front))
      rwa [failure] at latches
    rw [List.append_assoc, pushFrom_header_full nothing full, pushFrom_header_full nothing full]
    simp only [refused, push_latched ended, List.append_nil]
  · intro decoder front rest next nothing full stages ih live later
    have live' : next.latched = none := by
      rw [(stage_eq_ok stages).2.2.2.2.2.2]
      exact live
    rw [List.append_assoc, pushFrom_header_full nothing full, pushFrom_header_full nothing full]
    simp only [stages]
    exact ih live' later
  · intro decoder staged chunk inStage short live later
    have waiting : (decoder.withPayload staged (staged.payload ++ chunk) short.le).pushFrom [] =
        (decoder.withPayload staged (staged.payload ++ chunk) short.le, []) := by
      rw [pushFrom_withPayload inStage short, List.append_nil, pushFrom_payload_short inStage short]
    have live' : (decoder.withPayload staged (staged.payload ++ chunk) short.le).latched = none :=
      live
    rw [pushFrom_payload_short inStage short]
    rw [push_eq_pushFrom live' waiting, pushFrom_withPayload inStage short, List.nil_append]
  · intro decoder staged front rest failed event inStage full refused live later
    obtain ⟨reason, -, failure⟩ := deliver_eq_error refused
    have ended : failed.latched ≠ none := by
      have latches := fail_latched decoder reason staged.header
      rwa [failure] at latches
    rw [List.append_assoc, pushFrom_payload_full inStage full, pushFrom_payload_full inStage full]
    simp only [refused, push_latched ended, List.append_nil]
  · intro decoder staged front rest next event inStage full delivers ih live later
    obtain ⟨_, -, -, -, -, latched, -, -⟩ := deliver_eq_ok delivers
    rw [List.append_assoc, pushFrom_payload_full inStage full, pushFrom_payload_full inStage full]
    simp only [delivers]
    rw [ih (latched.trans live) later, List.cons_append]

theorem push_seamless : Seamless (push : FrameDecoder plane → _) where
  nothing := push_nil
  append decoder front rest := by
    by_cases failed : decoder.latched = none
    · by_cases empty : front.length = 0
      · obtain rfl := List.length_eq_zero_iff.1 empty
        rw [List.nil_append, push_nil, List.nil_append]
      · have both : ¬ (decoder.latched ≠ none ∨ (front ++ rest).length = 0) := by
          rw [List.length_append]
          rintro (latched | nothing)
          · exact latched failed
          · omega
        have first : ¬ (decoder.latched ≠ none ∨ front.length = 0) :=
          fun stops => stops.elim (· failed) empty
        have whole : decoder.push (front ++ rest) = decoder.pushFrom (front ++ rest) := if_neg both
        have piece : decoder.push front = decoder.pushFrom front := if_neg first
        rw [whole, piece, pushFrom_append decoder front failed rest]
    · rw [push_latched failed, push_latched failed, push_latched failed, List.nil_append]

/-! ## Runs -/

inductive Operation where
  | push (chunk : List UInt8)
  | adoptGeneration (generation : Int)

/-- An adoption that is refused leaves the decoder as it is. -/
def operate (decoder : FrameDecoder plane) : Operation → FrameDecoder plane × List DecodeEvent
  | .push chunk => decoder.push chunk
  | .adoptGeneration generation =>
    match decoder.adoptGeneration generation with
    | .error _ => (decoder, [])
    | .ok adopted => (adopted, [])

def framesOf (events : List DecodeEvent) : List Frame :=
  events.filterMap fun
    | .frame frame => some frame
    | .malformed _ => none

@[simp] theorem framesOf_nil : framesOf [] = [] := rfl

@[simp] theorem framesOf_append (events later : List DecodeEvent) :
    framesOf (events ++ later) = framesOf events ++ framesOf later :=
  List.filterMap_append

@[simp] theorem framesOf_frame (frame : Frame) : framesOf [.frame frame] = [frame] := rfl

@[simp] theorem framesOf_malformed (malformed : Malformed) : framesOf [.malformed malformed] = [] :=
  rfl

/-- A frame carries the generation its type asks for: the bootstrap pair 0, and every
other type the one generation, which is not 0. -/
def Carries (generation : Int) (type : FrameType) (carried : Int) : Prop :=
  if type.isBootstrap then carried = 0 else carried = generation ∧ generation ≠ 0

/-- What holds of a decoder and of the events it has emitted, from its first sequence on. -/
structure Delivered (first : Int) (decoder : FrameDecoder plane) (events : List DecodeEvent) :
    Prop where
  ordered : events =
    (framesOf events).map .frame ++ (decoder.latched.map DecodeEvent.malformed).toList
  expected : decoder.expected = first + (framesOf events).length
  consecutive : ∀ (k : Nat) (frame : Frame),
    (framesOf events)[k]? = some frame → frame.sequence = first + k
  adopted : decoder.adopted = true ↔ decoder.generation ≠ 0
  generations : ∀ frame ∈ framesOf events,
    Carries decoder.generation frame.body.type frame.generation
  staged : ∀ staged, decoder.staged = some staged →
    ∃ type, typeNameById staged.header.type = some type ∧
      staged.header.sequence = decoder.expected ∧
      Carries decoder.generation type staged.header.generation ∧
      (type.isBootstrap = true → ∀ frame ∈ framesOf events, frame.body.type.isBootstrap = true)

theorem delivered_create (generation sequence : Int) :
    Delivered sequence (create plane generation sequence) [] where
  ordered := rfl
  expected := (Int.add_zero sequence).symm
  consecutive := by simp
  adopted := by simp [create]
  generations := by simp
  staged := by simp [create]

variable {first : Int} {events : List DecodeEvent}

theorem Delivered.bootstrap (delivered : Delivered first decoder events)
    (unchosen : decoder.generation = 0) :
    ∀ frame ∈ framesOf events, frame.body.type.isBootstrap = true := by
  intro frame member
  have carries := delivered.generations frame member
  rw [Carries] at carries
  split at carries
  · assumption
  · exact absurd unchosen carries.2

variable {generation : Int}

theorem Carries.of_bootstrap {other carried : Int} {type : FrameType}
    (bootstrap : type.isBootstrap = true) (carries : Carries generation type carried) :
    Carries other type carried := by
  rw [Carries, if_pos bootstrap] at carries ⊢
  exact carries

/-! ### The step lemmas -/

theorem Delivered.failed (delivered : Delivered first decoder events)
    (live : decoder.latched = none) (reason : MalformedReason) (header : ParsedHeader) :
    Delivered first (decoder.fail reason header).1
      (events ++ [(decoder.fail reason header).2]) where
  ordered := by
    have before := delivered.ordered
    rw [live, Option.map_none, Option.toList_none, List.append_nil] at before
    simp only [fail, framesOf_append, framesOf_malformed, List.append_nil]
    conv => lhs; rw [before]
    rfl
  expected := by simpa [fail] using delivered.expected
  consecutive := by simpa [fail] using delivered.consecutive
  adopted := delivered.adopted
  generations := by simpa [fail] using delivered.generations
  staged := by simp [fail]

variable {next : FrameDecoder plane}

theorem Delivered.stage (delivered : Delivered first decoder events) {filled : List UInt8}
    (stages : decoder.stage filled = .ok next) : Delivered first next events := by
  obtain ⟨valid, ⟨s, inStage, same, -⟩, -, generation, adopted, expected, latched⟩ :=
    stage_eq_ok stages
  obtain ⟨-, -, -, type, named, -, rule, -, sequence, -⟩ := validateHeader_eq_ok.1 valid
  refine ⟨latched ▸ delivered.ordered, expected ▸ delivered.expected, delivered.consecutive, ?_,
    generation ▸ delivered.generations, ?_⟩
  · rw [adopted, generation]
    exact delivered.adopted
  · intro staged isStaged
    obtain rfl := Option.some.inj (inStage.symm.trans isStaged)
    rw [same, generation, expected]
    refine ⟨type, named, sequence, ?_, ?_⟩
    · rw [Carries]
      split at rule
      · rename_i bootstrap
        rw [if_pos bootstrap]
        exact rule.2
      · rename_i later
        rw [if_neg later]
        exact ⟨rule.2, rule.1⟩
    · intro bootstrap
      rw [if_pos bootstrap] at rule
      exact delivered.bootstrap rule.1

variable {header : ParsedHeader}

theorem announced_ne_zero {protocolVersion announcedGeneration pid : Int}
    {frontVersion buildHash : JsString} (decoded : decodeBody header payload =
      .ok (.helloAck protocolVersion announcedGeneration pid frontVersion buildHash)) :
    announcedGeneration ≠ 0 := by
  unfold decodeBody at decoded
  split at decoded
  · contradiction
  · rename_i type named
    obtain rfl : FrameType.helloAck = type := (encode_of_decodeBodyOf decoded).1
    rw [decodeBodyOf, if_neg (by decide)] at decoded
    split at decoded
    · contradiction
    · simp only [decodeFields, bind_eq_ok, Prod.exists, refuseIf_eq_ok] at decoded
      obtain ⟨_, _, -, _, _, -, _, _, -, _, _, -, _, _, -, _, -, _, fresh, result⟩ := decoded
      cases result
      exact fresh

theorem type_of_decodeBody {body : Body} (decoded : decodeBody header payload = .ok body) :
    typeNameById header.type = some body.type := by
  unfold decodeBody at decoded
  split at decoded
  · contradiction
  · rename_i type named
    rw [named, (encode_of_decodeBodyOf decoded).1]

/-- A frame that is delivered has the sequence that was expected, and the next one is
expected after it. -/
theorem Delivered.deliver (delivered : Delivered first decoder events)
    (live : decoder.latched = none) (inStage : decoder.staged = some staged) {event : DecodeEvent}
    (delivers : decoder.deliver staged.header payload = .ok (next, event)) :
    Delivered first next (events ++ [event]) := by
  obtain ⟨body, decoded, rfl, nothing, -, latched, expected, generation⟩ :=
    deliver_eq_ok delivers
  obtain ⟨type, named, sequence, carries, bootstrap⟩ := delivered.staged staged inStage
  obtain rfl : body.type = type := by
    rw [type_of_decodeBody decoded] at named
    exact Option.some.inj named
  -- the generation only changes with a frame of the bootstrap, and then nothing else came before
  have onward : (next.adopted = true ↔ next.generation ≠ 0) ∧
      (next.generation = decoder.generation ∨ body.type.isBootstrap = true) := by
    cases body with
    | helloAck =>
      obtain ⟨announced, adopted⟩ := Prod.mk.inj generation
      rw [announced, adopted]
      exact ⟨iff_of_true rfl (announced_ne_zero decoded), Or.inr rfl⟩
    | _ =>
      obtain ⟨same, adopted⟩ := Prod.mk.inj generation
      rw [same, adopted]
      exact ⟨delivered.adopted, Or.inl rfl⟩
  have carried : ∀ type generation', (body.type.isBootstrap = true → type.isBootstrap = true) →
      Carries decoder.generation type generation' → Carries next.generation type generation' := by
    intro type generation' also carries
    obtain same | bootstrap := onward.2
    · rw [same]
      exact carries
    · exact carries.of_bootstrap (also bootstrap)
  have before := delivered.ordered
  rw [live, Option.map_none, Option.toList_none, List.append_nil] at before
  refine ⟨?_, ?_, ?_, onward.1, ?_, ?_⟩
  · rw [latched, live, framesOf_append, framesOf_frame, List.map_append]
    conv => lhs; rw [before]
    simp
  · rw [expected, sequence, delivered.expected, framesOf_append, framesOf_frame,
      List.length_append, List.length_singleton]
    omega
  · intro k frame found
    rw [framesOf_append, framesOf_frame, List.getElem?_append] at found
    split at found
    · exact delivered.consecutive k frame found
    · rename_i beyond
      rw [List.getElem?_singleton] at found
      split at found
      · obtain rfl := Option.some.inj found
        show staged.header.sequence = first + k
        rw [sequence, delivered.expected]
        omega
      · contradiction
  · intro frame member
    rw [framesOf_append, framesOf_frame, List.mem_append, List.mem_singleton] at member
    obtain earlier | rfl := member
    · exact carried _ _ (fun isBootstrap => bootstrap isBootstrap frame earlier)
        (delivered.generations frame earlier)
    · exact carried _ _ id carries
  · intro other isStaged
    rw [nothing] at isStaged
    contradiction

theorem Delivered.pushFrom (decoder : FrameDecoder plane) (chunk : List UInt8) :
    ∀ events, Delivered first decoder events → decoder.latched = none →
      Delivered first (decoder.pushFrom chunk).1 (events ++ (decoder.pushFrom chunk).2) := by
  refine pushFrom_induction (motive := fun decoder chunk =>
    ∀ events, Delivered first decoder events → decoder.latched = none →
      Delivered first (decoder.pushFrom chunk).1 (events ++ (decoder.pushFrom chunk).2))
    ?_ ?_ ?_ ?_ ?_ ?_ decoder chunk
  · intro decoder chunk nothing short events delivered live
    rw [pushFrom_header_short nothing short, List.append_nil]
    exact ⟨delivered.ordered, delivered.expected, delivered.consecutive, delivered.adopted,
      delivered.generations, delivered.staged⟩
  · intro decoder front rest failed event nothing full refused events delivered live
    obtain ⟨reason, -, failure⟩ := stage_eq_error refused
    rw [pushFrom_header_full nothing full, refused]
    have ended := delivered.failed live reason (parseHeader (decoder.header ++ front))
    rwa [failure] at ended
  · intro decoder front rest next nothing full stages ih events delivered live
    have live' : next.latched = none := by
      rw [(stage_eq_ok stages).2.2.2.2.2.2]
      exact live
    rw [pushFrom_header_full nothing full, stages]
    exact ih events (delivered.stage stages) live'
  · intro decoder staged chunk inStage short events delivered live
    rw [pushFrom_payload_short inStage short, List.append_nil]
    refine ⟨delivered.ordered, delivered.expected, delivered.consecutive, delivered.adopted,
      delivered.generations, ?_⟩
    intro other isStaged
    obtain rfl := Option.some.inj isStaged
    exact delivered.staged staged inStage
  · intro decoder staged front rest failed event inStage full refused events delivered live
    obtain ⟨reason, -, failure⟩ := deliver_eq_error refused
    rw [pushFrom_payload_full inStage full, refused]
    have ended := delivered.failed live reason staged.header
    rwa [failure] at ended
  · intro decoder staged front rest next event inStage full delivers ih events delivered live
    obtain ⟨_, -, -, -, -, latched, -, -⟩ := deliver_eq_ok delivers
    have onward := ih _ (delivered.deliver live inStage delivers) (latched.trans live)
    rw [List.append_assoc, List.singleton_append] at onward
    rw [pushFrom_payload_full inStage full, delivers]
    exact onward

/-- An adoption is refused unless no generation was chosen, so no frame that was
delivered loses its own. -/
theorem Delivered.adoptGeneration {adopted : FrameDecoder plane}
    (delivered : Delivered first decoder events)
    (adopts : decoder.adoptGeneration generation = .ok adopted) :
    Delivered first adopted events := by
  simp only [FrameDecoder.adoptGeneration, bind_eq_ok, refuseIf_eq_ok] at adopts
  obtain ⟨_, fresh, _, notAdopted, result⟩ := adopts
  obtain rfl := Except.ok.inj result
  have unchosen : decoder.generation = 0 := by
    by_contra chosen
    exact notAdopted (delivered.adopted.2 chosen)
  refine ⟨delivered.ordered, delivered.expected, delivered.consecutive, iff_of_true rfl fresh,
    ?_, ?_⟩
  · intro frame member
    exact (delivered.generations frame member).of_bootstrap
      (delivered.bootstrap unchosen frame member)
  · intro staged inStage
    obtain ⟨type, named, sequence, carries, onlyBootstrap⟩ := delivered.staged staged inStage
    have bootstrap : type.isBootstrap = true := by
      rw [Carries] at carries
      split at carries
      · assumption
      · exact absurd unchosen carries.2
    exact ⟨type, named, sequence, carries.of_bootstrap bootstrap, onlyBootstrap⟩

theorem Delivered.operate (delivered : Delivered first decoder events) (operation : Operation) :
    Delivered first (decoder.operate operation).1 (events ++ (decoder.operate operation).2) := by
  cases operation with
  | push chunk =>
    by_cases stops : decoder.latched ≠ none ∨ chunk.length = 0
    · have idle : decoder.operate (.push chunk) = (decoder, []) := if_pos stops
      rw [idle, List.append_nil]
      exact delivered
    · have goes : decoder.operate (.push chunk) = decoder.pushFrom chunk := if_neg stops
      rw [goes]
      exact delivered.pushFrom decoder chunk events (not_not.1 fun failed => stops (.inl failed))
  | adoptGeneration generation =>
    rw [FrameDecoder.operate]
    split
    · rw [List.append_nil]
      exact delivered
    · rename_i adopts
      rw [List.append_nil]
      exact delivered.adoptGeneration adopts

theorem operate_latched (failed : decoder.latched ≠ none) (operation : Operation) :
    (decoder.operate operation).2 = [] ∧
      (decoder.operate operation).1.latched = decoder.latched := by
  cases operation with
  | push chunk =>
    rw [operate, push_latched failed]
    exact ⟨rfl, rfl⟩
  | adoptGeneration generation =>
    rw [operate]
    split
    · exact ⟨rfl, rfl⟩
    · rename_i adopted adopts
      simp only [FrameDecoder.adoptGeneration, bind_eq_ok] at adopts
      obtain ⟨_, -, _, -, result⟩ := adopts
      obtain rfl := Except.ok.inj result
      exact ⟨rfl, rfl⟩

theorem run_latched (failed : decoder.latched ≠ none) (operations : List Operation) :
    (feed operate decoder operations).2 = [] ∧
      (feed operate decoder operations).1.latched = decoder.latched := by
  induction operations generalizing decoder with
  | nil => exact ⟨rfl, rfl⟩
  | cons operation operations ih =>
    obtain ⟨quiet, same⟩ := operate_latched failed operation
    obtain ⟨quietLater, sameLater⟩ := ih (same.symm ▸ failed)
    rw [feed_cons, quiet, quietLater]
    exact ⟨rfl, sameLater.trans same⟩

theorem retainedBytes_le (decoder : FrameDecoder plane) :
    decoder.retainedBytes ≤ retentionBound plane := by
  rw [retainedBytes, retentionBound]
  split
  · have room := decoder.header_lt
    omega
  · rename_i staged _
    have filled := staged.filled_le
    have bounded := staged.length_le
    omega

/-- However a stream is split, after whatever was done with the decoder before, the frames,
the failure and the decoder are the same. A failure is terminal and is the last event. The
frames carry consecutive sequence numbers; those of the bootstrap carry generation 0, and
all others one generation. What is retained stays within the bound of the plane. -/
theorem decoding_ignores_chunks (generation sequence : Int) (operations : List Operation) :
    let reached := feed operate (create plane generation sequence) operations
    (∀ chunks, pushAll push reached.1 chunks = reached.1.push chunks.flatten) ∧
      (reached.1.latched ≠ none → ∀ later, (feed operate reached.1 later).2 = [] ∧
        (feed operate reached.1 later).1.latched = reached.1.latched) ∧
      reached.2 = (framesOf reached.2).map .frame ++
        (reached.1.latched.map DecodeEvent.malformed).toList ∧
      (∀ (k : Nat) (frame : Frame),
        (framesOf reached.2)[k]? = some frame → frame.sequence = sequence + k) ∧
      (∃ chosen, ∀ frame ∈ framesOf reached.2, Carries chosen frame.body.type frame.generation) ∧
      reached.1.retainedBytes ≤ retentionBound plane ∧ reached.1.peak ≤ retentionBound plane := by
  intro reached
  have delivered : Delivered sequence reached.1 reached.2 :=
    feed_induction (fun decoder operation events held => held.operate operation)
      (delivered_create generation sequence) operations
  refine ⟨push_seamless.pushAll_eq reached.1, fun failed => run_latched failed,
    delivered.ordered, delivered.consecutive, ⟨_, delivered.generations⟩,
    retainedBytes_le reached.1, reached.1.peak_le⟩

/-- An announcement of generation 7 and the frame behind it. -/
def announcement : List Frame :=
  [⟨.controlUp, 0, 0, 1, .helloAck 1 7 4711 "1.0" "abc"⟩, ⟨.controlUp, 7, 0, 2, .bound 3 "front"⟩]

/-- The frame that announces a generation does not carry it. -/
theorem announcement_carries_bootstrap_generation :
    ¬ ∀ bytes, ∃ constant, ∀ frame ∈ framesOf ((create .controlUp 0 1).push bytes).2,
      frame.generation = constant := by
  intro constantAlways
  obtain ⟨constant, carries⟩ :=
    constantAlways (announcement.flatMap fun frame => (encodePipeFrontFrame frame).toOption.getD [])
  have delivered : framesOf ((create .controlUp 0 1).push
      (announcement.flatMap fun frame => (encodePipeFrontFrame frame).toOption.getD [])).2 =
        announcement := by decide +kernel
  rw [delivered] at carries
  have first : 0 = constant := carries _ (List.mem_cons_self ..)
  have second : 7 = constant := carries _ (List.mem_cons_of_mem _ (List.mem_singleton_self _))
  omega

end FrameDecoder

end Vex.Mcp.PipeFront
