import Vex.Studio.SocketTransport

/-!
# The stream of a peer

What the transport makes of a stream is a function of its lines: the messages up to the first line
that cannot be read, and the failure of that line, or of an over-long beginning of a line. A longer
stream has the same messages first, and fails in the same way.
-/

namespace Vex.Studio

open Vex.Library

/-- Failures of one kind: over-long lines are, whatever their length. -/
def SocketTransportFailure.kind : SocketTransportFailure → SocketTransportFailure
  | .lineTooLong _ => .lineTooLong 0
  | .queueOverflow _ => .queueOverflow 0
  | failure => failure

namespace StudioSocketTransport

/-! ## What a stream says -/

/-- The messages of lines, up to the first that cannot be read, and its failure. -/
def readLines (parse : List UInt8 → Option JsonValue) (maxLineBytes : Nat) :
    List (List UInt8) → List JsonValue × Option SocketTransportFailure
  | [] => ([], none)
  | line :: rest =>
    match readLine parse maxLineBytes line with
    | .blank => readLines parse maxLineBytes rest
    | .message message =>
      (message :: (readLines parse maxLineBytes rest).1, (readLines parse maxLineBytes rest).2)
    | .failure failure => ([], some failure)

def messages (parse : List UInt8 → Option JsonValue) (maxLineBytes : Nat) (stream : List UInt8) :
    List JsonValue :=
  (readLines parse maxLineBytes (lines newline stream).1).1

/-- The failure of the first line of a stream that cannot be read. -/
def lineFailure (parse : List UInt8 → Option JsonValue) (maxLineBytes : Nat)
    (stream : List UInt8) : Option SocketTransportFailure :=
  (readLines parse maxLineBytes (lines newline stream).1).2

def firstFailure (parse : List UInt8 → Option JsonValue) (maxLineBytes : Nat)
    (stream : List UInt8) : Option SocketTransportFailure :=
  match lineFailure parse maxLineBytes stream with
  | some failure => some failure
  | none =>
    if maxLineBytes < (lines newline stream).2.length then
      some (.lineTooLong (lines newline stream).2.length)
    else none

variable {parse : List UInt8 → Option JsonValue} {maxLineBytes : Nat}

variable {first : List (List UInt8)}

theorem readLines_append (read : (readLines parse maxLineBytes first).2 = none)
    (second : List (List UInt8)) :
    readLines parse maxLineBytes (first ++ second) =
      ((readLines parse maxLineBytes first).1 ++ (readLines parse maxLineBytes second).1,
        (readLines parse maxLineBytes second).2) := by
  induction first with
  | nil => rfl
  | cons line rest ih =>
    rw [readLines] at read
    rw [List.cons_append, readLines, readLines]
    cases here : readLine parse maxLineBytes line with
    | blank =>
      rw [here] at read
      exact ih read
    | failure failure =>
      rw [here] at read
      cases read
    | message message =>
      rw [here] at read
      dsimp only at read ⊢
      rw [ih read, List.cons_append]

theorem readLines_failed {failure : SocketTransportFailure}
    (failed : (readLines parse maxLineBytes first).2 = some failure) (second : List (List UInt8)) :
    readLines parse maxLineBytes (first ++ second) = readLines parse maxLineBytes first := by
  induction first with
  | nil => cases failed
  | cons line rest ih =>
    rw [readLines] at failed
    rw [List.cons_append, readLines, readLines]
    cases here : readLine parse maxLineBytes line with
    | blank =>
      rw [here] at failed
      exact ih failed
    | failure failure => rfl
    | message message =>
      rw [here] at failed
      dsimp only at failed ⊢
      rw [ih failed]

theorem messages_earlier (stream more : List UInt8) :
    messages parse maxLineBytes stream <+: messages parse maxLineBytes (stream ++ more) := by
  unfold messages
  rw [lines_append]
  cases failed : (readLines parse maxLineBytes (lines newline stream).1).2 with
  | some failure =>
    rw [readLines_failed failed]
  | none =>
    rw [readLines_append failed]
    exact List.prefix_append _ _

variable {stream : List UInt8}

theorem lineFailure_later {failure : SocketTransportFailure}
    (failed : lineFailure parse maxLineBytes stream = some failure) (more : List UInt8) :
    lineFailure parse maxLineBytes (stream ++ more) = some failure := by
  unfold lineFailure at failed ⊢
  rw [lines_append, readLines_failed failed]
  exact failed

theorem firstFailure_later {failure : SocketTransportFailure}
    (failed : firstFailure parse maxLineBytes stream = some failure) (more : List UInt8) :
    ∃ later, firstFailure parse maxLineBytes (stream ++ more) = some later ∧
      later.kind = failure.kind := by
  unfold firstFailure at failed ⊢
  cases inLine : lineFailure parse maxLineBytes stream with
  | some earlier =>
    rw [inLine] at failed
    rw [lineFailure_later inLine more]
    exact ⟨earlier, rfl, by cases failed; rfl⟩
  | none =>
    rw [inLine] at failed
    dsimp only at failed
    split at failed
    · rename_i long
      cases failed
      -- The over-long beginning of a line is the beginning of an over-long line.
      rw [lineFailure, lines_append, readLines_append inLine]
      dsimp only
      have grows := takeLine_append (@takeLine_rest _ _ newline stream) more
      cases taken : takeLine newline more with
      | none =>
        rw [taken] at grows
        rw [lines_of_takeLine_none grows]
        have longer : maxLineBytes < ((lines newline stream).2 ++ more).length := by
          rw [List.length_append]
          omega
        simp only [readLines, if_pos longer]
        exact ⟨_, rfl, rfl⟩
      | some cut =>
        obtain ⟨line, rest⟩ := cut
        rw [taken] at grows
        rw [lines_of_takeLine_some grows, readLines, readLine]
        have longer : maxLineBytes < ((lines newline stream).2 ++ line).length := by
          rw [List.length_append]
          omega
        rw [if_pos longer]
        exact ⟨_, rfl, rfl⟩
    · cases failed

/-! ## Streams that can be framed -/

variable {t : StudioSocketTransport}

/-- The bytes are lines that can be read and for whose messages there is room, and the beginning of
a line that is not over-long. -/
def Framed (parse : List UInt8 → Option JsonValue) (t : StudioSocketTransport)
    (bytes : List UInt8) : Prop :=
  firstFailure parse t.maxLineBytes bytes = none ∧
    t.queue.length + (messages parse t.maxLineBytes bytes).length ≤ t.maxQueuedMessages

theorem firstFailure_eq_none : firstFailure parse maxLineBytes stream = none ↔
      lineFailure parse maxLineBytes stream = none ∧
        (lines newline stream).2.length ≤ maxLineBytes := by
  unfold firstFailure
  cases lineFailure parse maxLineBytes stream <;> simp

theorem Framed.short (framed : Framed parse t t.inbound)
    (cut : takeLine newline t.inbound = none) : ¬t.maxLineBytes < t.inbound.length := by
  have short := (firstFailure_eq_none.mp framed.1).2
  rw [lines_of_takeLine_none cut] at short
  exact Nat.not_lt.mpr short

theorem Framed.turn {line rest : List UInt8} (framed : Framed parse t t.inbound)
    (cut : takeLine newline t.inbound = some (line, rest)) :
    ({ t with inbound := rest }.consumeLine parse line = { t with inbound := rest } ∨
      ∃ message, { t with inbound := rest }.consumeLine parse line =
        { t with inbound := rest }.join message) ∧
    Framed parse ({ t with inbound := rest }.consumeLine parse line)
      ({ t with inbound := rest }.consumeLine parse line).inbound := by
  obtain ⟨sound, room⟩ := framed
  obtain ⟨readable, short⟩ := firstFailure_eq_none.mp sound
  unfold lineFailure at readable
  unfold messages at room
  rw [lines_of_takeLine_some cut] at readable short room
  dsimp only at readable short room
  unfold consumeLine
  rw [readLines] at readable room
  dsimp only
  cases kind : readLine parse t.maxLineBytes line with
  | blank =>
    rw [kind] at readable room
    exact ⟨.inl rfl, firstFailure_eq_none.mpr ⟨readable, short⟩, room⟩
  | failure failure =>
    rw [kind] at readable
    cases readable
  | message message =>
    rw [kind] at readable room
    dsimp only [List.length_cons] at room
    have free : ¬t.maxQueuedMessages ≤ t.queue.length := by omega
    dsimp only
    unfold push
    rw [if_neg free]
    refine ⟨.inr ⟨message, rfl⟩, firstFailure_eq_none.mpr ⟨readable, short⟩, ?_⟩
    change (t.queue ++ [message]).length + _ ≤ t.maxQueuedMessages
    rw [List.length_append, List.length_singleton, Nat.add_right_comm, Nat.add_assoc]
    exact room

end StudioSocketTransport

end Vex.Studio
