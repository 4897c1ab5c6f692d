import Vex.Studio.TransportStream

/-!
# Framing what the peer sends

The bytes of a stream reach the transport as a remainder and as chunks. Its lines are those of the
stream however it is split, and the first line that cannot be read, or an over-long beginning of a
line, is the failure of framing. Only how many bytes of an unfinished line had arrived depends on
the split, so the count a failure reports is that of the stream if over-long lines arrive whole.

A failure of framing does not take the queue away. What is queued when the failure is found is still
given to the consumer by the callback that is scheduled for it. `framing` is what holds in every run,
and what holds in those in which nothing is queued when framing fails.
-/

namespace Vex.Studio

open Vex.Library

/-! ## What a history says -/

def queuedMessages (history : List TransportAct) : List JsonValue :=
  history.filterMap fun act => match act with
    | .queued message => some message
    | _ => none

def deliveredMessages (history : List TransportAct) : List JsonValue :=
  history.filterMap fun act => match act with
    | .delivered message => some message
    | _ => none

def SocketTransportFailure.ofFraming : SocketTransportFailure → Bool
  | .socketError _ => false
  | _ => true

def framingFailures (history : List TransportAct) : List SocketTransportFailure :=
  history.filterMap fun act => match act with
    | .failure failure => if failure.ofFraming then some failure else none
    | _ => none

/-- How often `onclose` was called. -/
def announcements (history : List TransportAct) : Nat :=
  history.countP fun act => match act with
    | .announced => true
    | _ => false

section
variable (first second : List TransportAct)
include first second

@[simp] theorem queuedMessages_append :
    queuedMessages (first ++ second) = queuedMessages first ++ queuedMessages second :=
  List.filterMap_append

@[simp] theorem deliveredMessages_append :
    deliveredMessages (first ++ second) = deliveredMessages first ++ deliveredMessages second :=
  List.filterMap_append

@[simp] theorem framingFailures_append :
    framingFailures (first ++ second) = framingFailures first ++ framingFailures second :=
  List.filterMap_append

@[simp] theorem announcements_append :
    announcements (first ++ second) = announcements first + announcements second :=
  List.countP_append

end

namespace StudioSocketTransport

variable {parse : List UInt8 → Option JsonValue}

/-! ## What holds of a transport -/

variable {t : StudioSocketTransport}

/-- What the transport has read of what it received: the lines it has taken are read, and the others
and the beginning of a line are in the buffer. -/
def ReadSoFar (parse : List UInt8 → Option JsonValue) (t : StudioSocketTransport) : Prop :=
  ∃ taken, lines newline t.received =
      (taken ++ (lines newline t.inbound).1, (lines newline t.inbound).2) ∧
    readLines parse t.maxLineBytes taken = (queuedMessages t.history, none)

/-- What holds of a transport, also in the middle of a chunk. -/
structure Framing (parse : List UInt8 → Option JsonValue) (t : StudioSocketTransport) : Prop where
  accepted : queuedMessages t.history <+: messages parse t.maxLineBytes t.received
  failure : ∀ failure ∈ framingFailures t.history, failure.kind = .queueOverflow 0 ∨
    ∃ first, firstFailure parse t.maxLineBytes t.received = some first ∧
      first.kind = failure.kind
  latched : t.failed = false → framingFailures t.history = []
  delivered : deliveredMessages t.history <+: queuedMessages t.history
  pending : t.closeAnnounced = false →
    queuedMessages t.history = deliveredMessages t.history ++ t.queue
  emptied : t.closeAnnounced = true →
    t.queue = [] ∧ (t.closing = true ∨ t.wireClosed = true ∧ t.started = true)
  announced : announcements t.history = if t.closeAnnounced then 1 else 0
  armed : t.shutdownTimer = true → t.closing = true
  reads : t.failed = false → t.closing = false → t.started = true → ReadSoFar parse t
  unstarted : t.started = false → t.inbound = t.received ∧ queuedMessages t.history = [] ∧
    t.failed = false

/-- An act that is about neither messages nor failures nor the close. -/
def Silent (act : TransportAct) : Prop :=
  queuedMessages [act] = [] ∧ deliveredMessages [act] = [] ∧ framingFailures [act] = [] ∧
    announcements [act] = 0

theorem construct_framing (maxLineBytes maxQueuedMessages : Nat) (remainder : List UInt8)
    (destroyed writableEnded : Bool) :
    Framing parse (construct maxLineBytes maxQueuedMessages remainder destroyed writableEnded) := by
  constructor <;>
    simp [construct, queuedMessages, deliveredMessages, framingFailures, announcements]

section
variable (framing : Framing parse t)
include framing

theorem Framing.log {act : TransportAct} (silent : Silent act) : Framing parse (t.log act) := by
  obtain ⟨noQueued, noDelivered, noFailure, noAnnounced⟩ := silent
  have queued : queuedMessages (t.history ++ [act]) = queuedMessages t.history := by
    rw [queuedMessages_append, noQueued, List.append_nil]
  have delivered : deliveredMessages (t.history ++ [act]) = deliveredMessages t.history := by
    rw [deliveredMessages_append, noDelivered, List.append_nil]
  have failures : framingFailures (t.history ++ [act]) = framingFailures t.history := by
    rw [framingFailures_append, noFailure, List.append_nil]
  have announced : announcements (t.history ++ [act]) = announcements t.history := by
    rw [announcements_append, noAnnounced, Nat.add_zero]
  unfold StudioSocketTransport.log
  refine ⟨?_, ?_, ?_, ?_, ?_, framing.emptied, ?_, framing.armed, ?_, ?_⟩
  · rw [queued]; exact framing.accepted
  · rw [failures]; exact framing.failure
  · rw [failures]; exact framing.latched
  · rw [delivered, queued]; exact framing.delivered
  · rw [delivered, queued]; exact framing.pending
  · rw [announced]; exact framing.announced
  · intro unfailed running started
    obtain ⟨taken, cut, reads⟩ := framing.reads unfailed running started
    exact ⟨taken, cut, by rw [queued]; exact reads⟩
  · rw [queued]; exact framing.unstarted

/-! ## Teardown -/

theorem announceClose_framing (over' : t.closing = true ∨ t.wireClosed = true ∧ t.started = true) :
    Framing parse t.announceClose := by
  unfold announceClose
  split
  · exact framing
  · rename_i alive
    have alive : t.closeAnnounced = false := by simpa using alive
    have none' : announcements t.history = 0 := by simpa [alive] using framing.announced
    refine { framing with
        accepted := ?_, failure := ?_, latched := ?_, delivered := ?_, pending := ?_
        emptied := ?_, announced := ?_, reads := ?_, unstarted := ?_ }
    · simpa [StudioSocketTransport.log, queuedMessages] using framing.accepted
    · simpa [StudioSocketTransport.log, framingFailures] using framing.failure
    · simpa [StudioSocketTransport.log, framingFailures] using framing.latched
    · simpa [StudioSocketTransport.log, queuedMessages, deliveredMessages] using framing.delivered
    · exact fun unset => by cases unset
    · exact fun _ => ⟨rfl, over'⟩
    · simp only [StudioSocketTransport.log, announcements_append, none']
      rfl
    · intro unfailed running started
      obtain ⟨taken, cut, reads⟩ := framing.reads unfailed running started
      exact ⟨taken, cut, by simpa [StudioSocketTransport.log, queuedMessages] using reads⟩
    · simpa [StudioSocketTransport.log, queuedMessages] using framing.unstarted

theorem destroyWire_framing : Framing parse t.destroyWire := by
  unfold destroyWire
  split
  · exact framing
  · have gone : Framing parse { t with destroyed := true } := { framing with }
    exact gone.log ⟨rfl, rfl, rfl, rfl⟩

theorem closing_framing : Framing parse { t with closing := true } :=
  { framing with
    emptied := fun announced => ⟨(framing.emptied announced).1, .inl rfl⟩
    armed := fun _ => rfl
    reads := fun _ unset => by cases unset }

theorem destroyNow_framing : Framing parse t.destroyNow := by
  have closing : Framing parse
      { t with closing := true, shutdownTimer := false, drainTimer := false } :=
    { closing_framing framing with armed := fun unset => by cases unset }
  refine announceClose_framing (destroyWire_framing closing) ?_
  unfold destroyWire
  split <;> exact .inl rfl

theorem finishAfterDrain_framing : Framing parse t.finishAfterDrain := by
  unfold finishAfterDrain
  dsimp only
  split
  · exact { framing with }
  · have closing : Framing parse { t with drainTimer := false, closing := true } :=
      { closing_framing framing with }
    refine announceClose_framing (destroyWire_framing ?_) ?_
    · split
      · have ended : Framing parse
            { t with drainTimer := false, closing := true, writableEnded := true } :=
          { closing with }
        exact ended.log ⟨rfl, rfl, rfl, rfl⟩
      · exact closing
    · unfold destroyWire
      split_ifs <;> exact .inl rfl

theorem settleIfDrained_framing : Framing parse t.settleIfDrained := by
  unfold settleIfDrained
  split_ifs
  · exact framing
  · exact framing
  · exact framing
  · exact finishAfterDrain_framing framing

theorem finish_framing (over' : t.closing = true ∨ t.wireClosed = true ∧ t.started = true) :
    Framing parse t.finish := by
  have cleared : Framing parse { t with shutdownTimer := false, drainTimer := false } :=
    { framing with armed := fun unset => by cases unset }
  refine announceClose_framing (destroyWire_framing cleared) ?_
  unfold destroyWire
  split <;> exact over'

theorem close_framing : Framing parse t.close := by
  unfold close
  split
  · exact framing
  · have closing := closing_framing framing
    dsimp only
    split
    · exact finish_framing closing (.inl rfl)
    · have ended : Framing parse { t with
          closing := true, shutdownTimer := true, writableEnded := true } :=
        { closing with armed := fun _ => rfl }
      exact ended.log ⟨rfl, rfl, rfl, rfl⟩

/-! ## What arrives -/

theorem failFraming_framing {failure : SocketTransportFailure}
    (ofStream : failure.kind = .queueOverflow 0 ∨
      ∃ first, firstFailure parse t.maxLineBytes t.received = some first ∧
        first.kind = failure.kind) (started : t.started = true) :
    Framing parse (t.failFraming failure) := by
  unfold failFraming
  split
  · exact framing
  · rename_i first
    have none' : framingFailures t.history = [] := framing.latched (by simpa using first)
    have latched : Framing parse ({ t with failed := true }.log (.failure failure)) := by
      refine { framing with
          accepted := ?_, failure := ?_, latched := ?_, delivered := ?_, pending := ?_
          announced := ?_, reads := ?_, unstarted := ?_ }
      · simpa [StudioSocketTransport.log, queuedMessages] using framing.accepted
      · intro reported member
        have same : reported = failure := by
          simp only [StudioSocketTransport.log, framingFailures_append, none', List.nil_append] at member
          unfold framingFailures at member
          cases framed : failure.ofFraming <;> simp [framed] at member
          exact member
        rw [same]
        exact ofStream
      · exact fun unset => by cases unset
      · simpa [StudioSocketTransport.log, queuedMessages, deliveredMessages] using framing.delivered
      · simpa [StudioSocketTransport.log, queuedMessages, deliveredMessages] using framing.pending
      · simp only [StudioSocketTransport.log, announcements_append]
        exact framing.announced
      · exact fun unset => by cases unset
      · intro unset
        rw [show t.started = false from unset] at started
        cases started
    dsimp only
    split
    · exact destroyNow_framing latched
    · exact { latched with }

end

theorem destroyNow_failed (t : StudioSocketTransport) : t.destroyNow.failed = t.failed := by
  unfold destroyNow announceClose destroyWire
  by_cases destroyed : t.destroyed = true <;> by_cases announced : t.closeAnnounced = true <;>
    simp [destroyed, announced, StudioSocketTransport.log]

theorem destroyNow_inbound (t : StudioSocketTransport) (rest : List UInt8) :
    { t with inbound := rest }.destroyNow = { t.destroyNow with inbound := rest } := by
  unfold destroyNow announceClose destroyWire
  by_cases destroyed : t.destroyed = true <;> by_cases announced : t.closeAnnounced = true <;>
    simp [destroyed, announced, StudioSocketTransport.log]

theorem failFraming_failed (t : StudioSocketTransport) (failure : SocketTransportFailure) :
    (t.failFraming failure).failed = true := by
  unfold failFraming
  split
  · assumption
  · dsimp only
    split
    · exact destroyNow_failed _
    · rfl

theorem failFraming_inbound (t : StudioSocketTransport) (rest : List UInt8)
    (failure : SocketTransportFailure) : { t with inbound := rest }.failFraming failure =
      { t.failFraming failure with inbound := rest } := by
  unfold failFraming
  dsimp only [StudioSocketTransport.log]
  split
  · rfl
  · split
    · exact destroyNow_inbound { t with
        failed := true, history := t.history ++ [.failure failure] } rest
    · rfl

theorem ReadSoFar.line {line rest : List UInt8} (soFar : ReadSoFar parse t)
    (cut : takeLine newline t.inbound = some (line, rest)) :
    ∃ taken, lines newline t.received =
        (taken ++ line :: (lines newline rest).1, (lines newline rest).2) ∧
      readLines parse t.maxLineBytes taken = (queuedMessages t.history, none) := by
  obtain ⟨taken, same, read⟩ := soFar
  exact ⟨taken, by rw [same, lines_of_takeLine_some cut], read⟩

theorem ReadSoFar.lineFailure {line rest : List UInt8} {failure : SocketTransportFailure}
    (soFar : ReadSoFar parse t) (cut : takeLine newline t.inbound = some (line, rest))
    (failed : readLine parse t.maxLineBytes line = .failure failure) :
    StudioSocketTransport.lineFailure parse t.maxLineBytes t.received = some failure := by
  obtain ⟨taken, same, read⟩ := soFar.line cut
  rw [StudioSocketTransport.lineFailure, same]
  dsimp only
  rw [readLines_append (by rw [read]), readLines, failed]

theorem ReadSoFar.unfinished (soFar : ReadSoFar parse t)
    (cut : takeLine newline t.inbound = none) :
    firstFailure parse t.maxLineBytes t.received =
      if t.maxLineBytes < t.inbound.length then some (.lineTooLong t.inbound.length) else none := by
  obtain ⟨taken, same, read⟩ := soFar
  rw [lines_of_takeLine_none cut, List.append_nil] at same
  rw [firstFailure, StudioSocketTransport.lineFailure, same, read]

theorem consumeLine_framing {line rest : List UInt8} (framing : Framing parse t)
    (unfailed : t.failed = false) (running : t.closing = false) (attached : t.started = true)
    (alive : t.closeAnnounced = false) (cut : takeLine newline t.inbound = some (line, rest)) :
    Framing parse ({ t with inbound := rest }.consumeLine parse line) := by
  have soFar := framing.reads unfailed running attached
  obtain ⟨taken, same, read⟩ := soFar.line cut
  have started : ∀ {p : Prop}, t.started = false → p := by
    intro p unset
    rw [unset] at attached
    cases attached
  have fails : ∀ failure : SocketTransportFailure, failure.kind = .queueOverflow 0 ∨
      (∃ first, firstFailure parse t.maxLineBytes t.received = some first ∧
        first.kind = failure.kind) →
      Framing parse ({ t with inbound := rest }.failFraming failure) := by
    intro failure ofStream
    have framed := failFraming_framing framing ofStream attached
    rw [failFraming_inbound]
    refine { framed with reads := fun unset => ?_, unstarted := fun unset => ?_ }
    · have latched := failFraming_failed t failure
      rw [show (t.failFraming failure).failed = false from unset] at latched
      cases latched
    · have unfailed := (framed.unstarted unset).2.2
      rw [failFraming_failed] at unfailed
      cases unfailed
  unfold consumeLine
  cases kind : readLine parse t.maxLineBytes line with
  | blank =>
    refine { framing with reads := fun _ _ _ => ?_, unstarted := started }
    refine ⟨taken ++ [line], by simpa using same, ?_⟩
    rw [readLines_append (by rw [read]), readLines, kind, read]
    simp [readLines]
  | failure failure =>
    refine fails failure (.inr ⟨failure, ?_, rfl⟩)
    rw [firstFailure, soFar.lineFailure cut kind]
  | message message =>
    dsimp only
    unfold push
    split
    · exact fails _ (.inl rfl)
    · have joined : queuedMessages (t.history ++ [.queued message]) =
          queuedMessages t.history ++ [message] := by simp [queuedMessages]
      have readNow : readLines parse t.maxLineBytes (taken ++ [line]) =
          (queuedMessages t.history ++ [message], none) := by
        rw [readLines_append (by rw [read]), readLines, kind, read]
        simp [readLines]
      have nowSoFar : lines newline t.received =
          ((taken ++ [line]) ++ (lines newline rest).1, (lines newline rest).2) := by
        simpa using same
      refine { framing with
          accepted := ?_, failure := ?_, latched := ?_, delivered := ?_, pending := ?_
          emptied := ?_, announced := ?_, reads := ?_, unstarted := ?_ }
      · change queuedMessages (t.history ++ [.queued message]) <+:
          messages parse t.maxLineBytes t.received
        rw [joined, messages, nowSoFar]
        dsimp only
        rw [readLines_append (by rw [readNow]), readNow]
        exact List.prefix_append _ _
      · simpa [join, scheduleDrain, framingFailures] using framing.failure
      · simpa [join, scheduleDrain, framingFailures] using framing.latched
      · change deliveredMessages (t.history ++ [.queued message]) <+:
          queuedMessages (t.history ++ [.queued message])
        rw [joined, deliveredMessages_append]
        refine List.IsPrefix.trans ?_ (List.prefix_append _ _)
        simpa [deliveredMessages] using framing.delivered
      · intro _
        change queuedMessages (t.history ++ [.queued message]) =
          deliveredMessages (t.history ++ [.queued message]) ++ (t.queue ++ [message])
        rw [joined, deliveredMessages_append, framing.pending alive]
        simp [deliveredMessages]
      · intro announced
        rw [show t.closeAnnounced = true from announced] at alive
        cases alive
      · change announcements (t.history ++ [.queued message]) = _
        rw [announcements_append]
        exact framing.announced
      · intro _ _ _
        refine ⟨taken ++ [line], nowSoFar, ?_⟩
        change readLines parse t.maxLineBytes (taken ++ [line]) =
          (queuedMessages (t.history ++ [.queued message]), none)
        rw [joined, readNow]
      · exact started

/-! ## What stays as it is -/

/-- What only `start`, `data` and `close` of the wire move, and acts that give the consumer nothing. -/
structure Unmoved (t t' : StudioSocketTransport) : Prop where
  maxLineBytes : t'.maxLineBytes = t.maxLineBytes
  received : t'.received = t.received
  started : t'.started = t.started
  wireClosed : t'.wireClosed = t.wireClosed
  failed : t'.failed = false → t.failed = false
  closing : t'.closing = false → t.closing = false
  history : ∃ acts, t'.history = t.history ++ acts ∧ deliveredMessages acts = []

theorem Unmoved.refl (t : StudioSocketTransport) : Unmoved t t :=
  ⟨rfl, rfl, rfl, rfl, id, id, [], (List.append_nil _).symm, rfl⟩

theorem Unmoved.trans {t t' t'' : StudioSocketTransport} (first : Unmoved t t')
    (second : Unmoved t' t'') : Unmoved t t'' where
  maxLineBytes := second.maxLineBytes.trans first.maxLineBytes
  received := second.received.trans first.received
  started := second.started.trans first.started
  wireClosed := second.wireClosed.trans first.wireClosed
  failed unfailed := first.failed (second.failed unfailed)
  closing running := first.closing (second.closing running)
  history := by
    obtain ⟨acts, same, none'⟩ := first.history
    obtain ⟨more, sameMore, noMore⟩ := second.history
    refine ⟨acts ++ more, ?_, ?_⟩
    · rw [sameMore, same, List.append_assoc]
    · rw [deliveredMessages_append, none', noMore, List.append_nil]

/-- What leaves the reading as it is: the buffer too, the failures that were reported, and a queue
that is empty. -/
structure Calm (t t' : StudioSocketTransport) : Prop extends Unmoved t t' where
  inbound : t'.inbound = t.inbound
  latch : t'.failed = t.failed
  failures : framingFailures t'.history = framingFailures t.history
  idle : t.queue = [] → t'.queue = []

theorem Calm.refl (t : StudioSocketTransport) : Calm t t := ⟨.refl t, rfl, rfl, rfl, id⟩

theorem Calm.trans {t t' t'' : StudioSocketTransport} (first : Calm t t') (second : Calm t' t'') :
    Calm t t'' :=
  ⟨first.toUnmoved.trans second.toUnmoved, second.inbound.trans first.inbound,
    second.latch.trans first.latch, second.failures.trans first.failures,
    fun empty => second.idle (first.idle empty)⟩

theorem log_calm (t : StudioSocketTransport) {act : TransportAct} (silent : Silent act) :
    Calm t (t.log act) := by
  refine ⟨⟨rfl, rfl, rfl, rfl, id, id, [act], rfl, silent.2.1⟩, rfl, rfl, ?_, id⟩
  change framingFailures (t.history ++ [act]) = _
  rw [framingFailures_append, silent.2.2.1, List.append_nil]

theorem Calm.of_same {t t' : StudioSocketTransport} (maxLineBytes : t'.maxLineBytes = t.maxLineBytes)
    (received : t'.received = t.received) (started : t'.started = t.started)
    (wireClosed : t'.wireClosed = t.wireClosed) (failed : t'.failed = t.failed)
    (closing : t'.closing = false → t.closing = false) (history : t'.history = t.history)
    (inbound : t'.inbound = t.inbound) (idle : t.queue = [] → t'.queue = []) : Calm t t' :=
  ⟨⟨maxLineBytes, received, started, wireClosed, fun unset => failed.symm.trans unset, closing, [],
    by rw [history, List.append_nil], rfl⟩, inbound, failed, by rw [history], idle⟩

section
variable (t)

theorem announceClose_calm : Calm t t.announceClose := by
  unfold announceClose
  split
  · exact .refl t
  · have cleared : Calm t { t with closeAnnounced := true, queue := [] } :=
      .of_same rfl rfl rfl rfl rfl id rfl rfl fun _ => rfl
    refine cleared.trans ⟨⟨rfl, rfl, rfl, rfl, id, id, [.announced], rfl, rfl⟩, rfl, rfl, ?_, id⟩
    simp [StudioSocketTransport.log, framingFailures]

theorem destroyWire_calm : Calm t t.destroyWire := by
  unfold destroyWire
  split
  · exact .refl t
  · have gone : Calm t { t with destroyed := true } :=
      .of_same rfl rfl rfl rfl rfl id rfl rfl id
    exact gone.trans (log_calm _ ⟨rfl, rfl, rfl, rfl⟩)

theorem shut_calm : Calm t t.destroyWire.announceClose :=
  (destroyWire_calm t).trans (announceClose_calm _)

theorem destroyNow_calm : Calm t t.destroyNow := by
  refine Calm.trans ?_ (shut_calm _)
  exact .of_same rfl rfl rfl rfl rfl (fun unset => by cases unset) rfl rfl id

theorem finish_calm : Calm t t.finish := by
  refine Calm.trans ?_ (shut_calm _)
  exact .of_same rfl rfl rfl rfl rfl id rfl rfl id

theorem endWire_calm : Calm t t.endWire := by
  have ended : Calm t { t with writableEnded := true } := .of_same rfl rfl rfl rfl rfl id rfl rfl id
  exact ended.trans (log_calm _ ⟨rfl, rfl, rfl, rfl⟩)

theorem finishAfterDrain_calm : Calm t t.finishAfterDrain := by
  unfold finishAfterDrain
  dsimp only
  split
  · exact .of_same rfl rfl rfl rfl rfl id rfl rfl id
  · refine Calm.trans ?_ (shut_calm _)
    have closing : Calm t { t with drainTimer := false, closing := true } :=
      .of_same rfl rfl rfl rfl rfl (fun unset => by cases unset) rfl rfl id
    split
    · exact closing.trans (endWire_calm _)
    · exact closing

theorem settleIfDrained_calm : Calm t t.settleIfDrained := by
  unfold settleIfDrained
  split_ifs
  · exact .refl t
  · exact .refl t
  · exact .refl t
  · exact finishAfterDrain_calm t

theorem close_calm : Calm t t.close := by
  unfold close
  split
  · exact .refl t
  · have closing : Calm t { t with closing := true } :=
      .of_same rfl rfl rfl rfl rfl (fun unset => by cases unset) rfl rfl id
    dsimp only
    split
    · exact closing.trans (finish_calm _)
    · have armed : Calm t { t with closing := true, shutdownTimer := true } :=
        .of_same rfl rfl rfl rfl rfl (fun unset => by cases unset) rfl rfl id
      exact armed.trans (endWire_calm _)

theorem failFraming_unmoved (failure : SocketTransportFailure) :
    Unmoved t (t.failFraming failure) := by
  unfold failFraming
  split
  · exact .refl t
  · have latched : Unmoved t ({ t with failed := true }.log (.failure failure)) :=
      ⟨rfl, rfl, rfl, rfl, fun unset => (by cases unset), id, [.failure failure], rfl, rfl⟩
    dsimp only
    split
    · exact latched.trans (destroyNow_calm _).toUnmoved
    · refine latched.trans ?_
      exact ⟨rfl, rfl, rfl, rfl, id, id, [], (List.append_nil _).symm, rfl⟩

theorem consumeLine_unmoved (line : List UInt8) : Unmoved t (t.consumeLine parse line) := by
  unfold consumeLine
  split
  · exact .refl t
  · rename_i message _
    unfold push
    split
    · exact failFraming_unmoved t _
    · exact ⟨rfl, rfl, rfl, rfl, id, id, [.queued message], rfl, rfl⟩
  · exact failFraming_unmoved t _

end

theorem consumeTurns_unmoved (turns : Nat) (t : StudioSocketTransport) :
    Unmoved t (t.consumeTurns parse turns) := by
  induction turns generalizing t with
  | zero => exact .refl t
  | succ turns ih =>
    rw [consumeTurns]
    split
    · exact .refl t
    · split
      · split
        · exact failFraming_unmoved t _
        · exact .refl t
      · rename_i line rest _
        have taken : Unmoved t { t with inbound := rest } :=
          ⟨rfl, rfl, rfl, rfl, id, id, [], (List.append_nil _).symm, rfl⟩
        exact (taken.trans (consumeLine_unmoved _ line)).trans (ih _)

theorem consumeLine_alive (line : List UInt8) (alive : t.closeAnnounced = false)
    (unfailed : (t.consumeLine parse line).failed = false) :
    (t.consumeLine parse line).closeAnnounced = false := by
  unfold consumeLine at unfailed ⊢
  split
  · exact alive
  · rename_i message read
    rw [read] at unfailed
    unfold push at unfailed ⊢
    dsimp only at unfailed ⊢
    split
    · rename_i full
      rw [if_pos full, failFraming_failed] at unfailed
      cases unfailed
    · exact alive
  · rename_i failure read
    rw [read] at unfailed
    dsimp only at unfailed
    rw [failFraming_failed] at unfailed
    cases unfailed

theorem consumeTurns_framing (framing : Framing parse t) (attached : t.started = true)
    (alive : t.failed = false → t.closing = false → t.closeAnnounced = false) (turns : Nat) :
    Framing parse (t.consumeTurns parse turns) := by
  induction turns generalizing t with
  | zero => exact framing
  | succ turns ih =>
    rw [consumeTurns]
    split
    · exact framing
    · rename_i reading
      obtain ⟨unfailed, running⟩ : t.failed = false ∧ t.closing = false := by simpa using reading
      split
      · rename_i cut
        split
        · rename_i long
          refine failFraming_framing framing (.inr ⟨.lineTooLong t.inbound.length, ?_, rfl⟩)
            attached
          rw [(framing.reads unfailed running attached).unfinished cut, if_pos long]
        · exact framing
      · rename_i line rest cut
        refine ih (consumeLine_framing framing unfailed running attached
          (alive unfailed running) cut) ?_ ?_
        · exact (consumeLine_unmoved _ line).started.trans attached
        · exact fun unfailed' _ => consumeLine_alive line (alive unfailed running) unfailed'

/-- No line is left in the buffer, and what is left is not over-long. -/
def Rested (t : StudioSocketTransport) : Prop :=
  t.failed = false → t.closing = false → t.started = true →
    takeLine newline t.inbound = none ∧ t.inbound.length ≤ t.maxLineBytes

theorem consumeLine_inbound (line : List UInt8)
    (unfailed : (t.consumeLine parse line).failed = false) :
    (t.consumeLine parse line).inbound = t.inbound := by
  unfold consumeLine at unfailed ⊢
  split
  · rfl
  · rename_i message read
    rw [read] at unfailed
    unfold push at unfailed ⊢
    dsimp only at unfailed ⊢
    split
    · rename_i full
      rw [if_pos full, failFraming_failed] at unfailed
      cases unfailed
    · rfl
  · rename_i failure read
    rw [read] at unfailed
    dsimp only at unfailed
    rw [failFraming_failed] at unfailed
    cases unfailed

theorem consumeTurns_rested (turns : Nat) (enough : t.failed = false → t.inbound.length < turns) :
    Rested (t.consumeTurns parse turns) := by
  induction turns generalizing t with
  | zero =>
    intro unfailed
    exact absurd (enough unfailed) (Nat.not_lt_zero _)
  | succ turns ih =>
    rw [consumeTurns]
    split
    · rename_i reading
      intro unfailed running
      simp [unfailed, running] at reading
    · rename_i reading
      obtain ⟨unfailed, running⟩ : t.failed = false ∧ t.closing = false := by simpa using reading
      split
      · rename_i cut
        split
        · intro unfailed'
          rw [failFraming_failed] at unfailed'
          cases unfailed'
        · rename_i short
          exact fun _ _ _ => ⟨cut, Nat.le_of_not_lt short⟩
      · rename_i line rest cut
        refine ih fun unfailed' => ?_
        rw [consumeLine_inbound line unfailed']
        exact Nat.lt_of_lt_of_le (takeLine_length cut) (Nat.le_of_lt_succ (enough unfailed))

/-! ## Every event -/

def raisedBy (t : StudioSocketTransport) : TransportEvent → List UInt8
  | .data chunk => if t.started && !t.wireClosed then chunk else []
  | _ => []

theorem immediate_unmoved (t : StudioSocketTransport) :
    t.immediate.maxLineBytes = t.maxLineBytes ∧ t.immediate.received = t.received ∧
      t.immediate.started = t.started ∧ t.immediate.inbound = t.inbound ∧
        t.immediate.failed = t.failed ∧ t.immediate.closing = t.closing := by
  unfold immediate
  split
  · exact ⟨rfl, rfl, rfl, rfl, rfl, rfl⟩
  · dsimp only
    split <;> exact ⟨rfl, rfl, rfl, rfl, rfl, rfl⟩

variable (event : TransportEvent)

theorem step_calm (noStart : event ≠ .start) (noData : ∀ chunk, event ≠ .data chunk)
    (noClose : event ≠ .wireClose) (noDelivery : event ≠ .immediate) :
    Calm t (t.step parse event) := by
  cases event with
  | start => exact absurd rfl noStart
  | data chunk => exact absurd rfl (noData chunk)
  | wireClose => exact absurd rfl noClose
  | immediate => exact absurd rfl noDelivery
  | error message =>
    simp only [step, handleError]
    split
    · exact (log_calm t ⟨rfl, rfl, rfl, rfl⟩).trans (destroyNow_calm _)
    · exact .refl t
  | peerEnd =>
    simp only [step, notifyPeerEnd]
    split
    · exact .refl t
    · have ended : Calm t { t with peerEnded := true } :=
        .of_same rfl rfl rfl rfl rfl id rfl rfl id
      have logged := ended.trans (@log_calm _ .peerEnded ⟨rfl, rfl, rfl, rfl⟩)
      split
      · exact logged.trans (finishAfterDrain_calm _)
      · refine (logged.trans ?_).trans (settleIfDrained_calm _)
        exact .of_same rfl rfl rfl rfl rfl id rfl rfl id
  | returned threw =>
    simp only [step, returned]
    split
    · exact .refl t
    · rename_i requestKey _
      have back : Calm t (release { t with delivering := none } threw requestKey) := by
        unfold release
        split <;> exact .of_same rfl rfl rfl rfl rfl id rfl rfl id
      split
      · exact back.trans (.of_same rfl rfl rfl rfl rfl id rfl rfl id)
      · exact back.trans (settleIfDrained_calm _)
  | send message =>
    have answered : Calm t (t.answer message) := by
      unfold answer
      split
      · rename_i key _
        have cleared : Calm t { t with
            outstandingRequests := t.outstandingRequests.filter (· ≠ key) } :=
          .of_same rfl rfl rfl rfl rfl id rfl rfl id
        exact cleared.trans (log_calm _ ⟨rfl, rfl, rfl, rfl⟩)
      · exact .refl t
    simp only [step, send]
    split
    · exact answered.trans (settleIfDrained_calm _)
    · refine (answered.trans ?_).trans (log_calm _ ⟨rfl, rfl, rfl, rfl⟩)
      exact .of_same rfl rfl rfl rfl rfl id rfl rfl id
  | wrote frame =>
    simp only [step, wrote]
    split
    · refine Calm.trans ?_ (log_calm _ ⟨rfl, rfl, rfl, rfl⟩)
      exact .of_same rfl rfl rfl rfl rfl id rfl rfl id
    · exact .refl t
  | settled frame =>
    simp only [step, settled]
    split
    · refine Calm.trans ?_ (settleIfDrained_calm _)
      exact .of_same rfl rfl rfl rfl rfl id rfl rfl id
    · exact .refl t
  | framed =>
    simp only [step]
    split
    · refine Calm.trans ?_ (destroyNow_calm _)
      exact .of_same rfl rfl rfl rfl rfl id rfl rfl id
    · exact .refl t
  | close => exact close_calm t
  | shutdownDeadline =>
    simp only [step]
    split
    · exact finish_calm t
    · exact .refl t
  | drainDeadline =>
    simp only [step]
    split
    · have fired : Calm t { t with drainTimer := false } :=
        .of_same rfl rfl rfl rfl rfl id rfl rfl id
      exact (fired.trans (log_calm _ ⟨rfl, rfl, rfl, rfl⟩)).trans (finishAfterDrain_calm _)
    · exact .refl t
  | wireDestroyed | wireEnded => exact .of_same rfl rfl rfl rfl rfl id rfl rfl id

theorem event_cases : event = .start ∨ (∃ chunk, event = .data chunk) ∨
    event = .wireClose ∨ event = .immediate ∨
      Calm t (t.step parse event) ∧ t.raisedBy event = [] := by
  cases event with
  | start => exact .inl rfl
  | data chunk => exact .inr (.inl ⟨chunk, rfl⟩)
  | wireClose => exact .inr (.inr (.inl rfl))
  | immediate => exact .inr (.inr (.inr (.inl rfl)))
  | _ => exact .inr (.inr (.inr (.inr ⟨step_calm _ (by simp) (by simp) (by simp) (by simp), rfl⟩)))

theorem step_received :
    (t.step parse event).received = t.received ++ t.raisedBy event ∧
      (t.step parse event).maxLineBytes = t.maxLineBytes := by
  rcases @event_cases parse t event with
    rfl | ⟨chunk, rfl⟩ | rfl | rfl | ⟨calm, nothing⟩
  · simp only [step, start, raisedBy, List.append_nil]
    split
    · exact ⟨rfl, rfl⟩
    · split
      · exact ⟨(consumeTurns_unmoved _ _).received, (consumeTurns_unmoved _ _).maxLineBytes⟩
      · exact ⟨rfl, rfl⟩
  · simp only [step, handleData, raisedBy]
    by_cases attached : t.started = true ∧ t.wireClosed = false
    · simp only [attached.1, attached.2, Bool.not_true, Bool.or_false, Bool.false_eq_true,
        if_false, Bool.not_false, Bool.and_true, if_true]
      split
      · exact ⟨rfl, rfl⟩
      · exact ⟨(consumeTurns_unmoved _ _).received, (consumeTurns_unmoved _ _).maxLineBytes⟩
    · have ignored : (!t.started || t.wireClosed) = true := by
        cases started : t.started <;> cases closed : t.wireClosed <;> simp_all
      have none' : (t.started && !t.wireClosed) = false := by
        cases started : t.started <;> cases closed : t.wireClosed <;> simp_all
      rw [if_pos ignored, none', if_neg (by simp), List.append_nil]
      exact ⟨rfl, rfl⟩
  · simp only [step, handleSocketClosed, raisedBy, List.append_nil]
    split
    · exact ⟨(announceClose_calm _).received, (announceClose_calm _).maxLineBytes⟩
    · exact ⟨rfl, rfl⟩
  · obtain ⟨maxLineBytes, received, _⟩ := immediate_unmoved t
    exact ⟨received.trans (List.append_nil _).symm, maxLineBytes⟩
  · exact ⟨by rw [calm.received, nothing, List.append_nil], calm.maxLineBytes⟩

theorem ReadSoFar.append (soFar : ReadSoFar parse t) (cut : takeLine newline t.inbound = none)
    (chunk : List UInt8) : ReadSoFar parse
      { t with received := t.received ++ chunk, inbound := t.inbound ++ chunk } := by
  obtain ⟨taken, same, read⟩ := soFar
  rw [lines_of_takeLine_none cut, List.append_nil] at same
  refine ⟨taken, ?_, read⟩
  change lines newline (t.received ++ chunk) = _
  rw [lines_append, same]

theorem receive_framing (framing : Framing parse t) (attached : t.started = true)
    (chunk : List UInt8) (buffer : List UInt8)
    (reads : t.failed = false → t.closing = false →
      ReadSoFar parse { t with received := t.received ++ chunk, inbound := buffer }) :
    Framing parse { t with received := t.received ++ chunk, inbound := buffer } := by
  refine { framing with
      accepted := ?_, failure := ?_, reads := fun unfailed running _ => reads unfailed running
      unstarted := ?_ }
  · exact framing.accepted.trans (messages_earlier _ _)
  · intro failure member
    refine (framing.failure failure member).imp_right fun ⟨first, failed, same⟩ => ?_
    obtain ⟨later, failedLater, sameLater⟩ := firstFailure_later failed chunk
    exact ⟨later, failedLater, sameLater.trans same⟩
  · intro unset
    rw [show t.started = false from unset] at attached
    cases attached

theorem Framing.closing_of_unstarted (framing : Framing parse t) (unset : t.started = false)
    (announced : t.closeAnnounced = true) : t.closing = true := by
  refine (framing.emptied announced).2.elim id fun ⟨_, started⟩ => ?_
  rw [unset] at started
  cases started

theorem attach_framing (framing : Framing parse t) (unset : t.started = false) :
    Framing parse { t with started := true } := by
  obtain ⟨same, none', unfailed⟩ := framing.unstarted unset
  refine { framing with emptied := ?_, reads := ?_, unstarted := ?_ }
  · exact fun announced =>
      ⟨(framing.emptied announced).1, .inl (framing.closing_of_unstarted unset announced)⟩
  · exact fun _ _ _ => ⟨[], by rw [same]; rfl, by rw [none']; rfl⟩
  · exact fun started => by cases started

theorem step_framing (framing : Framing parse t) (rested : Rested t) (event : TransportEvent) :
    Framing parse (t.step parse event) := by
  cases event with
  | start =>
    simp only [step, start]
    split
    · exact framing
    · rename_i unset
      have unset : t.started = false := by simpa using unset
      have attached := attach_framing framing unset
      split
      · refine consumeTurns_framing attached rfl (fun _ running => ?_) _
        by_contra announced
        have closing := framing.closing_of_unstarted unset (by simpa using announced)
        rw [show t.closing = false from running] at closing
        cases closing
      · exact attached
  | data chunk =>
    simp only [step, handleData]
    split
    · exact framing
    · rename_i heard
      obtain ⟨attached, opened⟩ : t.started = true ∧ t.wireClosed = false := by simpa using heard
      split
      · rename_i deaf
        refine receive_framing framing attached chunk t.inbound fun unfailed running => ?_
        simp [unfailed, running] at deaf
      · rename_i reading
        obtain ⟨unfailed, running⟩ : t.failed = false ∧ t.closing = false := by
          simpa using reading
        have buffered := receive_framing framing attached chunk (t.inbound ++ chunk)
          fun _ _ => (framing.reads unfailed running attached).append
            (rested unfailed running attached).1 chunk
        refine consumeTurns_framing buffered attached (fun _ _ => ?_) _
        by_contra announced
        rcases (framing.emptied (by simpa using announced)).2 with closing | ⟨closed, _⟩
        · rw [running] at closing; cases closing
        · rw [opened] at closed; cases closed
  | error message =>
    simp only [step, handleError]
    split
    · exact destroyNow_framing (framing.log ⟨rfl, rfl, rfl, rfl⟩)
    · exact framing
  | peerEnd =>
    simp only [step, notifyPeerEnd]
    split
    · exact framing
    · have ended : Framing parse { t with peerEnded := true } := { framing with }
      have silent : Silent .peerEnded := ⟨rfl, rfl, rfl, rfl⟩
      have logged := ended.log silent
      split
      · exact finishAfterDrain_framing logged
      · exact settleIfDrained_framing { logged with }
  | wireClose =>
    simp only [step, handleSocketClosed]
    have gone : Framing parse { t with wireClosed := true, destroyed := true } :=
      { framing with
        emptied := fun announced => ⟨(framing.emptied announced).1,
          (framing.emptied announced).2.imp_right fun closed => ⟨rfl, closed.2⟩⟩ }
    split
    · rename_i waits
      have cleared : Framing parse { t with
          wireClosed := true, destroyed := true, shutdownTimer := false, drainTimer := false } :=
        { gone with armed := fun unset => by cases unset }
      refine announceClose_framing cleared ?_
      by_cases attached : t.started = true
      · exact .inr ⟨rfl, attached⟩
      · exact .inl (framing.armed (by simpa [attached] using waits))
    · exact gone
  | immediate =>
    simp only [step, immediate]
    split
    · exact framing
    · split
      · exact { framing with }
      · rename_i next rest queued
        have alive : t.closeAnnounced = false := by
          by_contra announced
          have empty := (framing.emptied (by simpa using announced)).1
          rw [show t.queue = next :: rest from queued] at empty
          cases empty
        have pending := framing.pending alive
        rw [show t.queue = next :: rest from queued] at pending
        have given : deliveredMessages (t.history ++ [.delivered next]) =
            deliveredMessages t.history ++ [next] := by simp [deliveredMessages]
        have same : queuedMessages (t.history ++ [.delivered next]) =
            queuedMessages t.history := by simp [queuedMessages]
        have delivered : queuedMessages (t.history ++ [.delivered next]) =
            deliveredMessages (t.history ++ [.delivered next]) ++ rest := by
          rw [given, same, pending, List.append_assoc, List.singleton_append]
        refine { framing with
            accepted := ?_, failure := ?_, latched := ?_, delivered := ?_, pending := ?_
            emptied := ?_, announced := ?_, reads := ?_, unstarted := ?_ }
        · exact same ▸ framing.accepted
        · simpa [StudioSocketTransport.log, framingFailures] using framing.failure
        · simpa [StudioSocketTransport.log, framingFailures] using framing.latched
        · exact ⟨rest, delivered.symm⟩
        · exact fun _ => delivered
        · intro announced
          rw [show t.closeAnnounced = true from announced] at alive
          cases alive
        · change announcements (t.history ++ [.delivered next]) = _
          rw [announcements_append]
          exact framing.announced
        · intro unfailed running attached
          obtain ⟨taken, cut, read⟩ := framing.reads unfailed running attached
          refine ⟨taken, cut, ?_⟩
          exact read.trans (congrArg (·, none) same.symm)
        · intro unset
          obtain ⟨inbound, none', unfailed⟩ := framing.unstarted unset
          exact ⟨inbound, same.trans none', unfailed⟩
  | returned threw =>
    simp only [step, returned]
    split
    · exact framing
    · rename_i requestKey _
      have back : Framing parse (release { t with delivering := none } threw requestKey) := by
        unfold release
        split <;> exact { framing with }
      split
      · exact { back with }
      · exact settleIfDrained_framing back
  | send message =>
    have answered : Framing parse (t.answer message) := by
      unfold answer
      split
      · rename_i key _
        have cleared : Framing parse { t with
            outstandingRequests := t.outstandingRequests.filter (· ≠ key) } := { framing with }
        exact cleared.log ⟨rfl, rfl, rfl, rfl⟩
      · exact framing
    simp only [step, send]
    split
    · exact settleIfDrained_framing answered
    · have passed : Framing parse { t.answer message with
          frames := (t.answer message).frames + 1
          sends := (t.answer message).sends ++ [(t.answer message).frames] } := { answered with }
      exact passed.log ⟨rfl, rfl, rfl, rfl⟩
  | wrote frame =>
    simp only [step, wrote]
    split
    · have written : Framing parse { t with
          sends := t.sends.filter (· ≠ frame)
          callbacks := t.callbacks ++ [frame] } := { framing with }
      exact written.log ⟨rfl, rfl, rfl, rfl⟩
    · exact framing
  | settled frame =>
    simp only [step, settled]
    split
    · exact settleIfDrained_framing { framing with }
    · exact framing
  | framed =>
    simp only [step]
    split
    · exact destroyNow_framing { framing with }
    · exact framing
  | close => exact close_framing framing
  | shutdownDeadline =>
    simp only [step]
    split
    · rename_i armed
      exact finish_framing framing (.inl (framing.armed armed))
    · exact framing
  | drainDeadline =>
    simp only [step]
    split
    · have passed : Framing parse { t with drainTimer := false } := { framing with }
      exact finishAfterDrain_framing (passed.log ⟨rfl, rfl, rfl, rfl⟩)
    · exact framing
  | wireDestroyed => exact { framing with }
  | wireEnded => exact { framing with }

theorem step_rested (rested : Rested t) (event : TransportEvent) :
    Rested (t.step parse event) := by
  rcases @event_cases parse t event with
    rfl | ⟨chunk, rfl⟩ | rfl | rfl | ⟨calm, nothing⟩
  · simp only [step, start]
    split
    · exact rested
    · split
      · exact consumeTurns_rested _ fun _ => Nat.lt_succ_self _
      · rename_i nothing
        intro _ _ _
        have empty : t.inbound = [] := by simpa using nothing
        exact ⟨by rw [empty]; rfl, by rw [empty]; exact Nat.zero_le _⟩
  · simp only [step, handleData]
    split
    · exact rested
    · split
      · exact rested
      · exact consumeTurns_rested _ fun _ => Nat.lt_succ_self _
  · simp only [step, handleSocketClosed]
    split
    · unfold announceClose
      split <;> exact rested
    · exact rested
  · obtain ⟨maxLineBytes, _, started, inbound, failed, closing⟩ := immediate_unmoved t
    intro unfailed running attached
    change takeLine newline t.immediate.inbound = none ∧
      t.immediate.inbound.length ≤ t.immediate.maxLineBytes
    rw [inbound, maxLineBytes]
    exact rested (failed.symm.trans unfailed) (closing.symm.trans running)
      (started.symm.trans attached)
  · intro unfailed running attached
    rw [calm.inbound, calm.maxLineBytes]
    exact rested (calm.failed unfailed) (calm.closing running) (calm.started.symm.trans attached)

end StudioSocketTransport

end Vex.Studio
