import Mathlib.Data.List.Basic
import Mathlib.Data.List.Nodup
import Vex.Library.JsString

/-!
# What the cutover archives is what was planned

`selectWatermarkBoundedPrefix` cuts the transcript at a place of the order in
which it is read; `archivePrefix` deletes by one comparison of ids. The two are
one cut when the ids agree with the order around it (`archives_iff_clean`), and
neither function checks that they do (`exact_iff_aligned`).
-/

namespace Vex.Compaction

open Vex.Library

inductive Role where
  | system | user | assistant | tool
  deriving DecidableEq

/-- `MessageWithId`; of `toolCalls`, the ids. -/
structure Message where
  id : Nat
  role : Role
  content : JsString
  toolCallId : Option JsString
  toolCalls : List JsString
  deriving DecidableEq

inductive NoopReason where
  | emptySession | noCompactable | watermarkNotLive
  deriving DecidableEq

/-- `WatermarkPrefixPlan`. -/
inductive WatermarkPrefixPlan where
  | prefixed (front tail : List Message) (cutoffMessageId : Nat)
  | noop (reason : NoopReason)

variable (messages : List Message) (watermark : Nat)

def toolAt (index : Nat) : Bool := messages[index]?.any fun message => message.role = .tool

/-- The first loop: the rows from the oldest on that are within the watermark. -/
def boundary : Nat := (messages.takeWhile fun message => message.id ≤ watermark).length

/-- The second loop: back while the first row retained is a tool result. -/
def shrink : Nat → Nat
  | 0 => 0
  | index + 1 => if toolAt messages (index + 1) then shrink index else index + 1

def selectWatermarkBoundedPrefix : WatermarkPrefixPlan :=
  match messages with
  | [] => .noop .emptySession
  | oldest :: _ =>
    if oldest.id > watermark then .noop .watermarkNotLive
    else
      let cut := shrink messages (boundary messages watermark)
      -- a slice up to 0 is the one without a last row
      match (messages.take cut).getLast? with
      | none => .noop .noCompactable
      | some last => .prefixed (messages.take cut) (messages.drop cut) last.id

/-- The rows of a session; those that are live in the order of the read. -/
structure Tables where
  messages : List Message
  messagesArchive : List Message
  messageCount : Nat
  distinct : (messages.map Message.id).Nodup

/-- `runArchivePrefixStatements`. -/
def Tables.archivePrefix (tables : Tables) (cutoffMessageId remainingCount : Nat) : Tables where
  messages := tables.messages.filter fun message => ¬message.id ≤ cutoffMessageId
  messagesArchive := tables.messagesArchive ++
    (tables.messages.filter fun message => message.id ≤ cutoffMessageId).filter fun message =>
      message.id ∉ tables.messagesArchive.map Message.id
  messageCount := remainingCount
  distinct := tables.distinct.sublist (List.filter_sublist.map _)

/-! ## What is promised -/

/-- A result of one of the calls of an assistant message. -/
def Answers (call result : Message) : Prop :=
  call.role = .assistant ∧ result.role = .tool ∧ ∃ id ∈ call.toolCalls, result.toolCallId = some id

/-- No call is in one part and a result of it in the other. -/
def Whole (front tail : List Message) : Prop :=
  ∀ call result, Answers call result →
    ¬(call ∈ front ∧ result ∈ tail) ∧ ¬(call ∈ tail ∧ result ∈ front)

/-- A row is past the watermark: its id is, or it comes behind the watermark's row. -/
def Beyond (message : Message) : Prop :=
  watermark < message.id ∨
    ∃ front back, messages = front ++ back ∧ watermark ∈ front.map Message.id ∧ message ∈ back

/-- The rows of a prefix are archived, and those of its tail are what is left. -/
structure Archives (before after : Tables) (front tail : List Message) : Prop where
  archived : ∀ message, message ∈ after.messagesArchive ↔ message ∈ before.messagesArchive ∨
    message ∈ front ∧ message.id ∉ before.messagesArchive.map Message.id
  live : after.messages = tail
  count : after.messageCount = after.messages.length
  within : ∀ message ∈ front, ¬Beyond before.messages watermark message
  whole : Whole front tail

/-- A plan archives its prefix, and where there is none, no prefix could be archived. -/
def Exact (tables : Tables) : Prop :=
  match selectWatermarkBoundedPrefix tables.messages watermark with
  | .prefixed front tail cutoff =>
    Archives watermark tables (tables.archivePrefix cutoff tail.length) front tail
  | .noop _ => ∀ k last, (tables.messages.take k).getLast? = some last →
      ¬Archives watermark tables (tables.archivePrefix last.id (tables.messages.drop k).length)
        (tables.messages.take k) (tables.messages.drop k)

/-! ## Where ids and places agree -/

/-- The rows before a place are within the watermark. -/
def Within (k : Nat) : Prop := ∀ message ∈ messages.take k, message.id ≤ watermark

/-- The last place within the watermark that is not in front of a tool result. -/
structure IsCut (k : Nat) : Prop where
  bounded : k ≤ messages.length
  within : Within messages watermark k
  front : toolAt messages k = false
  last : ∀ j > k, j ≤ messages.length → Within messages watermark j → toolAt messages j = true

/-- The ids split where the rows do, and no call is answered from the other side. -/
structure Clean (k : Nat) (last : Message) : Prop where
  below : ∀ message ∈ messages.take k, message.id ≤ last.id
  above : ∀ message ∈ messages.drop k, last.id < message.id
  whole : Whole (messages.take k) (messages.drop k)

/-- The place to cut at is clean; without one, no place within the watermark is. -/
def Aligned : Prop :=
  (∀ k last, IsCut messages watermark k → (messages.take k).getLast? = some last →
    Clean messages k last) ∧
  ((∀ k > 0, ¬IsCut messages watermark k) → ∀ k last, Within messages watermark k →
    (messages.take k).getLast? = some last → ¬Clean messages k last)

section Places

variable {messages : List Message} {watermark k : Nat}

theorem within_iff (bounded : k ≤ messages.length) :
    Within messages watermark k ↔ k ≤ boundary messages watermark := by
  induction messages generalizing k with
  | nil => simp_all [Within]
  | cons oldest rest ih =>
    cases k with
    | zero => simp [Within]
    | succ k =>
      rw [boundary, List.takeWhile_cons]
      have rest := ih (Nat.le_of_succ_le_succ bounded)
      rw [Within, boundary] at rest
      rw [Within, List.take_succ_cons, List.forall_mem_cons, rest]
      split_ifs with inside <;> simp_all

theorem shrink_le : shrink messages k ≤ k := by
  induction k with
  | zero => rfl
  | succ k ih =>
    rw [shrink]
    split_ifs
    · exact Nat.le_succ_of_le ih
    · rfl

theorem shrink_stops : shrink messages k = 0 ∨ toolAt messages (shrink messages k) = false := by
  induction k with
  | zero => exact .inl rfl
  | succ k ih =>
    rw [shrink]
    split_ifs with tool
    · exact ih
    · exact .inr (Bool.not_eq_true _ ▸ tool)

theorem shrink_passes {j : Nat} (passed : shrink messages k < j) (upTo : j ≤ k) :
    toolAt messages j = true := by
  induction k with
  | zero => omega
  | succ k ih =>
    rw [shrink] at passed
    split_ifs at passed with tool
    · rcases Nat.lt_or_eq_of_le upTo with earlier | rfl
      · exact ih passed (Nat.le_of_lt_succ earlier)
      · exact tool
    · omega

theorem boundary_le : boundary messages watermark ≤ messages.length :=
  (List.takeWhile_sublist _).length_le

/-- The loops find the place to cut at. -/
theorem isCut_iff (positive : 0 < k) :
    IsCut messages watermark k ↔ k = shrink messages (boundary messages watermark) := by
  constructor
  · rintro ⟨bounded, within, front, last⟩
    have upTo := (within_iff bounded).1 within
    rcases lt_trichotomy k (shrink messages (boundary messages watermark)) with short | same | long
    · have bounded' : shrink messages (boundary messages watermark) ≤ messages.length :=
        shrink_le.trans boundary_le
      have tool := last _ short bounded' ((within_iff bounded').2 shrink_le)
      have stop := shrink_stops.resolve_left (Nat.zero_lt_of_lt short).ne'
      rw [stop] at tool
      cases tool
    · exact same
    · rw [shrink_passes long upTo] at front
      cases front
  · rintro rfl
    refine ⟨shrink_le.trans boundary_le, (within_iff (shrink_le.trans boundary_le)).2 shrink_le,
      shrink_stops.resolve_left positive.ne', fun j later bounded within => ?_⟩
    exact shrink_passes later ((within_iff bounded).1 within)

end Places

variable {tables : Tables} {watermark k : Nat} {last message : Message}

theorem not_mem_drop (member : message ∈ tables.messages.take k) :
    message ∉ tables.messages.drop k :=
  List.disjoint_take_drop tables.distinct.of_map (Nat.le_refl k) member

/-- Behind the watermark's row the ids would have to go down before the cut. -/
theorem not_beyond (within : Within tables.messages watermark k)
    (ends : (tables.messages.take k).getLast? = some last)
    (below : ∀ message ∈ tables.messages.take k, message.id ≤ last.id)
    (member : message ∈ tables.messages.take k) : ¬Beyond tables.messages watermark message := by
  rintro (above | ⟨front, back, parts, named, behind⟩)
  · exact absurd (within message member) (Nat.not_le.2 above)
  · have apart := not_mem_drop member
    have once := tables.distinct
    rw [parts] at ends below member apart once within
    rw [List.take_append] at ends below member
    rw [List.drop_append, List.mem_append, not_or] at apart
    obtain ⟨row, inFront, rfl⟩ := List.mem_map.1 named
    -- the cut is behind the watermark's row, so the last row before it is not that row
    have later : front.length < k := by
      by_contra short
      rw [Nat.sub_eq_zero_of_le (Nat.not_lt.1 short), List.drop_zero] at apart
      exact apart.2 behind
    rw [List.take_of_length_le later.le] at ends below member
    have lastBehind : last ∈ back := by
      have some : back.take (k - front.length) ≠ [] := by
        simp only [ne_eq, List.take_eq_nil_iff, not_or]
        exact ⟨by omega, List.ne_nil_of_mem behind⟩
      rw [List.getLast?_append_of_ne_nil _ some] at ends
      exact List.mem_of_mem_take (List.mem_of_getLast? ends)
    have up := below row (List.mem_append_left _ inFront)
    have down := within last (by
      rw [List.take_append, List.take_of_length_le later.le]
      exact List.mem_of_getLast? ends)
    rw [List.map_append, List.nodup_append] at once
    exact once.2.2 _ (List.mem_map_of_mem inFront) _ (List.mem_map_of_mem lastBehind)
      (Nat.le_antisymm up down)

theorem archives_iff_clean (within : Within tables.messages watermark k)
    (ends : (tables.messages.take k).getLast? = some last) :
    Archives watermark tables (tables.archivePrefix last.id (tables.messages.drop k).length)
      (tables.messages.take k) (tables.messages.drop k) ↔ Clean tables.messages k last := by
  have parts := List.take_append_drop k tables.messages
  constructor
  · intro archives
    have live (message : Message) :
        message ∈ tables.messages.drop k ↔ message ∈ tables.messages ∧ last.id < message.id := by
      rw [← archives.live]
      simp [Tables.archivePrefix]
    refine ⟨fun message member => ?_, fun message member => ((live message).1 member).2, archives.whole⟩
    by_contra above
    exact not_mem_drop member ((live message).2 ⟨List.mem_of_mem_take member, Nat.not_le.1 above⟩)
  · intro clean
    have live : tables.messages.filter (fun message => ¬message.id ≤ last.id) =
        tables.messages.drop k := by
      conv_lhs => rw [← parts, List.filter_append]
      rw [List.filter_eq_nil_iff.2 (by simpa using clean.below), List.nil_append,
        List.filter_eq_self.2 (by simpa using clean.above)]
    have left (message : Message) :
        message ∈ tables.messages ∧ message.id ≤ last.id ↔ message ∈ tables.messages.take k := by
      constructor
      · rintro ⟨member, upTo⟩
        rw [← parts, List.mem_append] at member
        exact member.resolve_right fun behind => absurd upTo (Nat.not_le.2 (clean.above _ behind))
      · exact fun member => ⟨List.mem_of_mem_take member, clean.below _ member⟩
    refine ⟨fun message => ?_, live, congrArg List.length live.symm,
      fun message member => not_beyond within ends clean.below member, clean.whole⟩
    simp [Tables.archivePrefix, ← left, and_assoc, and_comm, and_left_comm]

theorem noop_or_prefixed (messages : List Message) (watermark : Nat) :
    (shrink messages (boundary messages watermark) = 0 ∧
      ∃ reason, selectWatermarkBoundedPrefix messages watermark = .noop reason) ∨
    ∃ last, (messages.take (shrink messages (boundary messages watermark))).getLast? = some last ∧
      selectWatermarkBoundedPrefix messages watermark =
        .prefixed (messages.take (shrink messages (boundary messages watermark)))
          (messages.drop (shrink messages (boundary messages watermark))) last.id := by
  cases messages with
  | nil => exact .inl ⟨rfl, _, rfl⟩
  | cons oldest rest =>
    rw [selectWatermarkBoundedPrefix]
    split_ifs with above
    · refine .inl ⟨?_, _, rfl⟩
      rw [boundary, List.takeWhile_cons_of_neg (by simpa using above)]
      rfl
    · cases ends : ((oldest :: rest).take
        (shrink (oldest :: rest) (boundary (oldest :: rest) watermark))).getLast? with
      | none =>
        refine .inl ⟨?_, _, by simp only [ends]; rfl⟩
        simpa using ends
      | some last => exact .inr ⟨last, rfl, by simp only [ends]⟩

theorem exact_iff_aligned (tables : Tables) (watermark : Nat) :
    Exact watermark tables ↔ Aligned tables.messages watermark := by
  have positive {k last} (ends : (tables.messages.take k).getLast? = some last) : 0 < k := by
    cases k with
    | zero => cases ends
    | succ k => exact Nat.succ_pos k
  rcases noop_or_prefixed tables.messages watermark with ⟨none, reason, noop⟩ | ⟨last, ends, plan⟩
  · have uncut : ∀ k > 0, ¬IsCut tables.messages watermark k := fun k some cut =>
      some.ne' ((isCut_iff some).1 cut |>.trans none)
    rw [Exact, noop]
    constructor
    · refine fun never => ⟨fun k last cut ends => absurd cut (uncut k (positive ends)),
        fun _ k last within ends clean => never k last ends ((archives_iff_clean within ends).2 clean)⟩
    · intro aligned k last ends archives
      have within : Within tables.messages watermark k := fun message member =>
        Nat.not_lt.1 fun above => archives.within message member (.inl above)
      exact aligned.2 uncut k last within ends ((archives_iff_clean within ends).1 archives)
  · have cut := (isCut_iff (positive ends)).2 rfl
    simp only [Exact, plan]
    rw [archives_iff_clean cut.within ends]
    constructor
    · refine fun clean => ⟨fun k last' other ends' => ?_, fun uncut => absurd cut (uncut _ (positive ends))⟩
      obtain rfl := (isCut_iff (positive ends')).1 other
      obtain rfl := Option.some.inj (ends.symm.trans ends')
      exact clean
    · exact fun aligned => aligned.1 _ last cut ends

/-- A row of a user, under its id. -/
def said (id : Nat) : Message := ⟨id, .user, [], none, []⟩

/-- Row 3 is in front of row 2 and stays live behind a cut at 2. -/
theorem cut_leaves_planned_row :
    ¬Exact 3 ⟨[said 1, said 3, said 2, said 4], [], 4, by decide⟩ := by
  intro held
  have live : [said 3, said 4] = [said 4] := held.live
  exact absurd live (by decide)

end Vex.Compaction
