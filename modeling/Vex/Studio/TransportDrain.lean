import Vex.Studio.TransportStream

/-!
# The drain after the peer has ended its side

An answer is taken off the outstanding requests when it is given to `send`, and its line is written
later. So the drain can be complete while a line is still being written, and what looks at it next
ends and destroys the wire under that write: the peer's half-close, the callbacks of another write,
or the return of a message that asks for nothing.

`last_answer_kept` says in which runs that does not happen: those in which nothing looks at a
complete drain while a frame is with the writer, and in which neither framing nor the consumer fails.
-/

namespace Vex.Studio

open Vex.Library

/-! ## What was asked and what was written -/

/-- The requests that have no answer, after one more act. -/
def unansweredStep (keys : List JsString) : TransportAct → List JsString
  | .delivered message =>
    match message.jsonRpcRequestKey with
    | some key => key :: keys
    | none => keys
  | .answered key => keys.filter (· ≠ key)
  | _ => keys

/-- The requests that were given to the consumer and have no answer yet. -/
def unanswered (history : List TransportAct) : List JsString := history.foldl unansweredStep []

/-- The frames whose write is open, after one more act. -/
def unwrittenStep (frames : List Nat) : TransportAct → List Nat
  | .passed frame => frames ++ [frame]
  | .written frame => frames.filter (· ≠ frame)
  | _ => frames

/-- The frames that were given to the writer and whose write is not settled. -/
def unwritten (history : List TransportAct) : List Nat := history.foldl unwrittenStep []

/-- Every request is answered and every write is settled. -/
def Complete (history : List TransportAct) : Prop :=
  unanswered history = [] ∧ unwritten history = []

/-- The act takes the wire away from the peer. -/
def TearsDown (act : TransportAct) : Prop := act = .endWire ∨ act = .destroyWire

/-- After the peer has ended its side, and before the deadline, the wire is taken away only when
every request is answered and every write is settled. -/
def KeepsAnswers (history : List TransportAct) : Prop :=
  ∀ before act, before ++ [act] <+: history → TearsDown act → .peerEnded ∈ before →
    .deadline ∉ before → Complete before

@[simp] theorem unanswered_concat (history : List TransportAct) (act : TransportAct) :
    unanswered (history ++ [act]) = unansweredStep (unanswered history) act := by
  rw [unanswered, List.foldl_append]
  rfl

@[simp] theorem unwritten_concat (history : List TransportAct) (act : TransportAct) :
    unwritten (history ++ [act]) = unwrittenStep (unwritten history) act := by
  rw [unwritten, List.foldl_append]
  rfl

theorem KeepsAnswers.concat {history : List TransportAct} (keeps : KeepsAnswers history)
    {act : TransportAct} (rightly : TearsDown act → .deadline ∉ history → Complete history) :
    KeepsAnswers (history ++ [act]) := by
  intro before last here tears ended early
  rcases List.prefix_concat_iff.mp here with same | earlier
  · obtain ⟨rfl, rfl⟩ := List.append_inj' same rfl |>.imp_right List.singleton_inj.mp
    exact rightly tears early
  · exact keeps before last earlier tears ended early

theorem KeepsAnswers.nil : KeepsAnswers [] := by
  intro before act here
  simp at here

namespace StudioSocketTransport

variable {parse : List UInt8 → Option JsonValue} {t : StudioSocketTransport}

/-! ## When the drain is looked at -/

/-- Nothing is queued, scheduled or unanswered, and still a frame is with the writer. -/
def Hurries (t : StudioSocketTransport) : Prop :=
  t.draining = false ∧ t.queue = [] ∧ t.outstandingRequests = [] ∧ t.sends ≠ []

instance (t : StudioSocketTransport) : Decidable t.Hurries := by
  unfold Hurries; infer_instance

/-- The wire is not taken away by another party, and the owner does not close the transport. -/
def WireOpen (t : StudioSocketTransport) : TransportEvent → Prop
  | .error _ => False
  | .close => False
  | .shutdownDeadline => False
  | .wireDestroyed => False
  | .wireEnded => False
  | .wireClose => t.destroyed = true
  | _ => True

/-- What arrives can be framed, the consumer returns from it, and the drain is not looked at while
it is complete and a frame is with the writer. -/
def Unhurried (parse : List UInt8 → Option JsonValue) (t : StudioSocketTransport) :
    TransportEvent → Prop
  | .start => Framed parse t t.inbound
  | .data chunk => Framed parse t (t.inbound ++ chunk)
  | .returned threw => threw = false ∧ (t.peerEnded = true → ¬t.Hurries)
  | .settled _ => t.peerEnded = true → ¬t.Hurries
  | .peerEnd => ¬t.Hurries
  | _ => True

/-! ## What the drain keeps -/

/-- What holds of a transport on whose wire the peer can still hear every answer, until the drain
is over. -/
structure Draining (t : StudioSocketTransport) : Prop where
  unfailed : t.failed = false
  silent : t.announcing = false
  timed : t.drainTimer = true → t.peerEnded = true
  over' : t.closeAnnounced = true → t.peerEnded = true
  ongoing : t.closeAnnounced = false →
    t.destroyed = false ∧ t.writableEnded = false ∧ t.closing = false
  unanswered : ∀ key ∈ unanswered t.history, key ∈ t.outstandingRequests
  unwritten : ∀ frame ∈ unwritten t.history, frame ∈ t.sends
  kept : KeepsAnswers t.history

theorem construct_draining (maxLineBytes maxQueuedMessages : Nat) (remainder : List UInt8) :
    (construct maxLineBytes maxQueuedMessages remainder false false).Draining := by
  constructor
  case kept => exact .nil
  all_goals simp [construct, Vex.Studio.unanswered, Vex.Studio.unwritten]

theorem Draining.complete (draining : t.Draining) (answered : t.outstandingRequests = [])
    (written : t.sends = []) : Complete t.history := by
  constructor
  · refine List.eq_nil_iff_forall_not_mem.mpr fun key member => ?_
    have outstanding := draining.unanswered key member
    rw [answered] at outstanding
    cases outstanding
  · refine List.eq_nil_iff_forall_not_mem.mpr fun frame member => ?_
    have sent := draining.unwritten frame member
    rw [written] at sent
    cases sent

theorem finishAfterDrain_eq (ongoing : t.closeAnnounced = false) (present : t.destroyed = false)
    (opened : t.writableEnded = false) : t.finishAfterDrain = { t with
        drainTimer := false, closing := true, writableEnded := true, destroyed := true
        closeAnnounced := true, queue := []
        history := t.history ++ [.endWire] ++ [.destroyWire] ++ [.announced] } := by
  simp [finishAfterDrain, endWire, destroyWire, announceClose, log, ongoing, present, opened]

section
variable (draining : t.Draining)
include draining

theorem finishAfterDrain_draining (ended : t.peerEnded = true)
    (rightly : t.closeAnnounced = false → .deadline ∉ t.history → Complete t.history) :
    t.finishAfterDrain.Draining := by
  cases announced : t.closeAnnounced with
  | true =>
    have same : t.finishAfterDrain = { t with drainTimer := false } := by
      simp [finishAfterDrain, announced]
    rw [same]
    exact { draining with timed := fun unset => by cases unset }
  | false =>
    obtain ⟨present, opened, _⟩ := draining.ongoing announced
    rw [finishAfterDrain_eq announced present opened]
    refine { draining with
        timed := fun _ => ended
        over' := fun _ => ended
        ongoing := fun unset => by cases unset
        unanswered := ?_, unwritten := ?_, kept := ?_ }
    · simpa only [unanswered_concat, unansweredStep] using draining.unanswered
    · simpa only [unwritten_concat, unwrittenStep] using draining.unwritten
    · have endKept : KeepsAnswers (t.history ++ [.endWire]) :=
        draining.kept.concat fun _ => rightly announced
      have destroyKept : KeepsAnswers (t.history ++ [.endWire] ++ [.destroyWire]) := by
        refine endKept.concat fun _ early => ?_
        have complete := rightly announced fun passed => early (List.mem_append_left _ passed)
        exact ⟨by simpa [unansweredStep] using complete.1,
          by simpa [unwrittenStep] using complete.2⟩
      refine destroyKept.concat fun tears _ => ?_
      rcases tears with tears | tears <;> cases tears

theorem settleIfDrained_draining (calm : t.peerEnded = true → ¬t.Hurries) :
    t.settleIfDrained.Draining := by
  unfold settleIfDrained
  split
  · exact draining
  · rename_i ended
    split
    · exact draining
    · rename_i settled
      split
      · exact draining
      · rename_i answered
        have ended : t.peerEnded = true := by simpa using ended
        have nothing : t.draining = false ∧ t.queue = [] := by simpa using settled
        have answered : t.outstandingRequests = [] := by simpa using answered
        have written : t.sends = [] := by
          by_contra sends
          exact calm ended ⟨nothing.1, nothing.2, answered, sends⟩
        exact finishAfterDrain_draining draining ended fun _ _ =>
          draining.complete answered written

/-! ## What arrives -/

theorem join_draining (message : JsonValue) : (t.join message).Draining := by
  refine { draining with unanswered := ?_, unwritten := ?_, kept := ?_ }
  · simpa [join, scheduleDrain, unansweredStep] using draining.unanswered
  · simpa [join, scheduleDrain, unwrittenStep] using draining.unwritten
  · refine draining.kept.concat fun tears => ?_
    rcases tears with tears | tears <;> cases tears

theorem consumeTurns_draining (framed : Framed parse t t.inbound) (turns : Nat) :
    (t.consumeTurns parse turns).Draining := by
  induction turns generalizing t with
  | zero => exact draining
  | succ turns ih =>
    rw [consumeTurns]
    split
    · exact draining
    · split
      · rename_i cut
        rw [if_neg (framed.short cut)]
        exact draining
      · rename_i line rest cut
        obtain ⟨turn, framed⟩ := framed.turn cut
        have taken : { t with inbound := rest }.Draining := { draining with }
        refine ih ?_ framed
        rcases turn with same | ⟨message, same⟩
        · rw [same]
          exact taken
        · rw [same]
          exact join_draining taken message

/-! ## Every event -/

theorem answer_draining (message : JsonValue) : (t.answer message).Draining := by
  unfold answer
  split
  · rename_i key _
    refine { draining with unanswered := ?_, unwritten := ?_, kept := ?_ }
    · intro other member
      simp only [log, unanswered_concat, unansweredStep, List.mem_filter] at member ⊢
      exact ⟨draining.unanswered other member.1, member.2⟩
    · simpa [log, unwrittenStep] using draining.unwritten
    · refine draining.kept.concat fun tears => ?_
      rcases tears with tears | tears <;> cases tears
  · exact draining

theorem step_draining (event : TransportEvent) (opened : t.WireOpen event)
    (unhurried : Unhurried parse t event) : (t.step parse event).Draining := by
  cases event with
  | start =>
    simp only [step, start]
    split
    · exact draining
    · have started : { t with started := true }.Draining := { draining with }
      split
      · exact consumeTurns_draining started unhurried _
      · exact started
  | data chunk =>
    simp only [step, handleData]
    split
    · exact draining
    · have received : { t with received := t.received ++ chunk }.Draining := { draining with }
      split
      · exact received
      · have buffered : ({ t with
            received := t.received ++ chunk
            inbound := t.inbound ++ chunk }).Draining := { draining with }
        exact consumeTurns_draining buffered unhurried _
  | error message => exact opened.elim
  | close => exact opened.elim
  | shutdownDeadline => exact opened.elim
  | wireDestroyed => exact opened.elim
  | wireEnded => exact opened.elim
  | framed =>
    simp only [step, draining.silent]
    exact draining
  | peerEnd =>
    simp only [step, notifyPeerEnd]
    split
    · exact draining
    · rename_i first
      have first : t.peerEnded = false := by simpa using first
      have alive : t.closeAnnounced = false := by
        by_contra announced
        rw [draining.over' (by simpa using announced)] at first
        cases first
      obtain ⟨present, writable, running⟩ := draining.ongoing alive
      have ended : (({ t with peerEnded := true }.log .peerEnded)).Draining := by
        refine { draining with
            timed := fun _ => rfl, over' := fun _ => rfl, unanswered := ?_, unwritten := ?_, kept := ?_ }
        · simpa [log, unansweredStep] using draining.unanswered
        · simpa [log, unwrittenStep] using draining.unwritten
        · refine draining.kept.concat fun tears => ?_
          rcases tears with tears | tears <;> cases tears
      rw [if_neg (by simp [log, present, writable, running, draining.unfailed])]
      have armed : ({ { t with peerEnded := true }.log .peerEnded with
        drainTimer := true }).Draining := { ended with timed := fun _ => rfl }
      exact settleIfDrained_draining armed fun _ => unhurried
  | wireClose =>
    simp only [step, handleSocketClosed]
    have announced : t.closeAnnounced = true := by
      by_contra alive
      have present := (draining.ongoing (by simpa using alive)).1
      rw [show t.destroyed = true from opened] at present
      cases present
    have closed : ({ t with wireClosed := true, destroyed := true }).Draining :=
      { draining with ongoing := fun alive => absurd (announced.symm.trans alive) (by simp) }
    split
    · rw [announceClose, if_pos announced]
      exact { closed with timed := fun unset => by cases unset }
    · exact closed
  | immediate =>
    simp only [step, immediate]
    split
    · exact draining
    · have unscheduled : { t with draining := false }.Draining := { draining with }
      split
      · exact unscheduled
      · rename_i next rest queued
        refine { draining with unanswered := ?_, unwritten := ?_, kept := ?_ }
        · intro key member
          simp only [log, unanswered_concat, unansweredStep] at member ⊢
          cases asked : next.jsonRpcRequestKey with
          | none =>
            rw [asked] at member
            exact draining.unanswered key member
          | some requestKey =>
            rw [asked] at member
            rcases List.mem_cons.mp member with rfl | earlier
            · exact List.mem_cons_self
            · by_cases same : key = requestKey
              · exact same ▸ List.mem_cons_self
              · refine List.mem_cons_of_mem _ (List.mem_filter.mpr ⟨?_, by simpa using same⟩)
                exact draining.unanswered key earlier
        · simpa [log, unwrittenStep] using draining.unwritten
        · refine draining.kept.concat fun tears => ?_
          rcases tears with tears | tears <;> cases tears
  | returned threw =>
    obtain ⟨rfl, calm⟩ := unhurried
    simp only [step, returned]
    split
    · exact draining
    · have back : { t with delivering := none }.Draining := { draining with }
      rw [release]
      split
      · exact { draining with }
      · exact settleIfDrained_draining back calm
      · simp
  | send message =>
    simp only [step, send]
    have answered := answer_draining draining message
    generalize t.answer message = t' at answered
    split
    · rename_i gone
      -- The wire is gone once the drain is over, and then there is nothing left to look at.
      have announced : t'.closeAnnounced = true := by
        by_contra alive
        obtain ⟨present, writable, _⟩ := answered.ongoing (by simpa using alive)
        simp [present, writable] at gone
      unfold settleIfDrained
      split_ifs
      · exact answered
      · exact answered
      · exact answered
      · exact finishAfterDrain_draining answered (answered.over' announced) fun alive =>
          absurd (announced.symm.trans alive) (by simp)
    · refine { answered with unanswered := ?_, unwritten := ?_, kept := ?_ }
      · simpa [log, unansweredStep] using answered.unanswered
      · intro frame member
        simp only [log, unwritten_concat, unwrittenStep, List.mem_append] at member ⊢
        exact member.imp_left (answered.unwritten frame)
      · refine answered.kept.concat fun tears => ?_
        rcases tears with tears | tears <;> cases tears
  | wrote frame =>
    simp only [step, wrote]
    split
    · refine { draining with unanswered := ?_, unwritten := ?_, kept := ?_ }
      · simpa [log, unansweredStep] using draining.unanswered
      · intro other member
        simp only [log, unwritten_concat, unwrittenStep, List.mem_filter] at member ⊢
        exact ⟨draining.unwritten other member.1, member.2⟩
      · refine draining.kept.concat fun tears => ?_
        rcases tears with tears | tears <;> cases tears
    · exact draining
  | settled frame =>
    simp only [step, settled]
    split
    · have called : ({ t with callbacks := t.callbacks.filter (· ≠ frame) }).Draining :=
        { draining with }
      exact settleIfDrained_draining called unhurried
    · exact draining
  | drainDeadline =>
    simp only [step]
    split
    · rename_i armed
      have passed : ({ t with drainTimer := false }.log .deadline).Draining := by
        refine { draining with
            timed := fun unset => by cases unset
            unanswered := ?_, unwritten := ?_, kept := ?_ }
        · simpa [log, unansweredStep] using draining.unanswered
        · simpa [log, unwrittenStep] using draining.unwritten
        · refine draining.kept.concat fun tears => ?_
          rcases tears with tears | tears <;> cases tears
      refine finishAfterDrain_draining passed (draining.timed armed) fun _ early => ?_
      exact absurd (List.mem_append_right _ (List.mem_singleton_self _)) early
    · exact draining

end

/-- In every run in which nothing looks at a complete drain while a frame is with the writer, and
framing and the consumer do not fail, the wire is taken away after the peer's half-close and before
the deadline only when every request is answered and every write is settled. -/
theorem last_answer_kept (parse : List UInt8 → Option JsonValue)
    (maxLineBytes maxQueuedMessages : Nat) (remainder : List UInt8) (events : List TransportEvent)
    (along : Along (step parse) (fun t event => t.WireOpen event ∧ Unhurried parse t event)
      (construct maxLineBytes maxQueuedMessages remainder false false) events) :
    KeepsAnswers (run (step parse)
      (construct maxLineBytes maxQueuedMessages remainder false false) events).history := by
  have draining := along.induction (motive := Draining)
    (fun _ event held draining => step_draining draining event held.1 held.2)
    (construct_draining maxLineBytes maxQueuedMessages remainder)
  exact draining.kept

/-! ## A request, its answer, and the peer's half-close -/

def callLine : List UInt8 :=
  "\x7b\"id\":1,\"method\":\"m\"\x7d".toList.map fun character => character.toNat.toUInt8

def call : JsonValue :=
  .object [(JsString.ofString "id", .number (JsString.ofString "1")),
    (JsString.ofString "method", .string (JsString.ofString "m"))]

def answerToCall : JsonValue :=
  .object [(JsString.ofString "id", .number (JsString.ofString "1")),
    (JsString.ofString "result", .object [])]

def parseCall (line : List UInt8) : Option JsonValue := if line = callLine then some call else none

/-- The peer ends its side once the answer is written. -/
theorem last_answer_kept_example :
    KeepsAnswers (run (step parseCall) (construct 64 16 [] false false)
      [.start, .data (callLine ++ [newline]), .immediate, .returned false, .send answerToCall,
        .wrote 0, .settled 0, .peerEnd]).history := by
  refine last_answer_kept parseCall 64 16 [] _ ?_
  refine ⟨⟨trivial, rfl, by decide⟩, ⟨trivial, rfl, by decide⟩,
    ⟨trivial, trivial⟩, ⟨trivial, rfl, ?_⟩, ⟨trivial, trivial⟩, ⟨trivial, trivial⟩, ⟨trivial, ?_⟩,
    ⟨trivial, ?_⟩, trivial⟩
  · intro ended; cases ended
  · intro ended; cases ended
  · exact fun hurries => hurries.2.2.2 rfl

/-- The peer ends its side while the answer is being written, and the wire is destroyed. -/
theorem answer_destroyed_while_written :
    ¬KeepsAnswers (run (step parseCall) (construct 64 16 [] false false)
      [.start, .data (callLine ++ [newline]), .immediate, .returned false, .send answerToCall,
        .peerEnd]).history := by
  intro keeps
  have complete := keeps [.queued call, .delivered call,
    .answered (JsString.ofString "n:" ++ JsString.ofString "1"), .passed 0, .peerEnded] .endWire
    ⟨[.destroyWire, .announced], rfl⟩ (.inl rfl) (by simp) (by simp)
  cases complete.2

end StudioSocketTransport

end Vex.Studio
