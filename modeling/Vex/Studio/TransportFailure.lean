import Vex.Studio.TransportDrain
import Vex.Studio.TransportFraming

/-!
# When framing fails

A failure of framing is latched, the error is written in the background, and the queue stays. So
what was queued before the failure is given to the consumer while the peer is told that nothing was
executed.

`framing_any_split` is what holds in every run of a transport, and `framing_fails_quietly` what holds
in the runs in which nothing is queued when framing fails and over-long lines arrive whole.
-/

namespace Vex.Studio

open Vex.Library

/-- The messages that were given to the consumer after framing had failed. -/
def deliveredAfterFailure : List TransportAct → List JsonValue
  | [] => []
  | .failure failure :: rest =>
    if failure.ofFraming then deliveredMessages rest else deliveredAfterFailure rest
  | _ :: rest => deliveredAfterFailure rest

theorem deliveredAfterFailure_append (history : List TransportAct) {acts : List TransportAct}
    (none' : deliveredMessages acts = []) :
    deliveredAfterFailure (history ++ acts) = deliveredAfterFailure history := by
  have alone : ∀ acts : List TransportAct, deliveredMessages acts = [] →
      deliveredAfterFailure acts = [] := by
    intro acts
    induction acts with
    | nil => exact fun _ => rfl
    | cons act rest ih =>
      intro none'
      rw [show act :: rest = [act] ++ rest from rfl, deliveredMessages_append,
        List.append_eq_nil_iff] at none'
      cases act with
      | failure failure =>
        rw [deliveredAfterFailure]
        split
        · exact none'.2
        · exact ih none'.2
      | _ => exact ih none'.2
  induction history with
  | nil => exact alone acts none'
  | cons act rest ih =>
    cases act with
    | failure failure =>
      rw [List.cons_append, deliveredAfterFailure, deliveredAfterFailure]
      split
      · rw [deliveredMessages_append, none', List.append_nil]
      · exact ih
    | _ => exact ih

theorem deliveredAfterFailure_unfailed {history : List TransportAct}
    (unfailed : framingFailures history = []) : deliveredAfterFailure history = [] := by
  induction history with
  | nil => rfl
  | cons act rest ih =>
    rw [show act :: rest = [act] ++ rest from rfl, framingFailures_append,
      List.append_eq_nil_iff] at unfailed
    cases act with
    | failure failure =>
      have ofWire : ¬failure.ofFraming = true := by
        intro framed
        have first := unfailed.1
        simp [framingFailures, framed] at first
      rw [deliveredAfterFailure, if_neg ofWire]
      exact ih unfailed.2
    | _ => exact ih unfailed.2

namespace StudioSocketTransport

variable {parse : List UInt8 → Option JsonValue} {t : StudioSocketTransport}

/-! ## Every run -/

/-- The bytes the wire raises for a transport that is started or not, on a wire that is closed or
not. -/
def raised : Bool → Bool → List TransportEvent → List UInt8
  | _, _, [] => []
  | started, closed, .data chunk :: rest =>
    (if started && !closed then chunk else []) ++ raised started closed rest
  | _, closed, .start :: rest => raised true closed rest
  | started, _, .wireClose :: rest => raised started true rest
  | started, closed, _ :: rest => raised started closed rest

theorem raised_cons (event : TransportEvent) (events : List TransportEvent) :
    raised t.started t.wireClosed (event :: events) = t.raisedBy event ++
      raised (t.step parse event).started (t.step parse event).wireClosed events := by
  have same : ∀ t' : StudioSocketTransport, t'.started = t.started → t'.wireClosed = t.wireClosed →
      raised t.started t.wireClosed events = raised t'.started t'.wireClosed events := by
    intro t' started closed
    rw [started, closed]
  cases event with
  | start =>
    have started : (t.start parse).started = true ∧ (t.start parse).wireClosed = t.wireClosed := by
      unfold start
      split
      · rename_i attached
        exact ⟨attached, rfl⟩
      · dsimp only
        split
        · exact ⟨(consumeTurns_unmoved _ _).started, (consumeTurns_unmoved _ _).wireClosed⟩
        · exact ⟨rfl, rfl⟩
    rw [raised, step, started.1, started.2]
    rfl
  | data chunk =>
    rw [raised, raisedBy, step, handleData]
    congr 1
    split
    · rfl
    · dsimp only
      split
      · rfl
      · exact same _ (consumeTurns_unmoved _ _).started (consumeTurns_unmoved _ _).wireClosed
  | wireClose =>
    have closed : t.handleSocketClosed.started = t.started ∧
        t.handleSocketClosed.wireClosed = true := by
      unfold handleSocketClosed
      dsimp only
      split
      · exact ⟨(announceClose_calm _).started, (announceClose_calm _).wireClosed⟩
      · exact ⟨rfl, rfl⟩
    rw [raised, step, closed.1, closed.2]
    rfl
  | immediate =>
    refine same _ (immediate_unmoved t).2.2.1 ?_
    rw [step, immediate]
    split
    · rfl
    · dsimp only
      split <;> rfl
  | _ =>
    refine same _ ?_ ?_
    · exact (step_calm _ (by simp) (by simp) (by simp) (by simp)).started
    · exact (step_calm _ (by simp) (by simp) (by simp) (by simp)).wireClosed

theorem run_received (events : List TransportEvent) :
    (run (step parse) t events).received = t.received ++ raised t.started t.wireClosed events ∧
      (run (step parse) t events).maxLineBytes = t.maxLineBytes := by
  induction events generalizing t with
  | nil => exact ⟨(List.append_nil _).symm, rfl⟩
  | cons event events ih =>
    obtain ⟨received, maxLineBytes⟩ := @step_received parse t event
    obtain ⟨receivedRun, maxLineBytesRun⟩ := ih (t := t.step parse event)
    refine ⟨?_, maxLineBytesRun.trans maxLineBytes⟩
    rw [run_cons, receivedRun, received, List.append_assoc, ← raised_cons]

theorem run_framing (maxLineBytes maxQueuedMessages : Nat) (remainder : List UInt8)
    (destroyed writableEnded : Bool) (events : List TransportEvent) :
    Framing parse (run (step parse)
      (construct maxLineBytes maxQueuedMessages remainder destroyed writableEnded) events) ∧
    Rested (run (step parse)
      (construct maxLineBytes maxQueuedMessages remainder destroyed writableEnded) events) := by
  refine run_induction (motive := fun t => Framing parse t ∧ Rested t) ?_ ?_ events
  · exact fun t event held => ⟨step_framing held.1 held.2 event, step_rested held.2 event⟩
  · refine ⟨construct_framing _ _ _ _ _, fun _ _ attached => ?_⟩
    cases attached

/-! ## Failing with nothing queued -/

/-- Bytes bring no message before they fail, or can be framed. -/
def Quietly (parse : List UInt8 → Option JsonValue) (t : StudioSocketTransport)
    (bytes : List UInt8) : Prop :=
  Framed parse t bytes ∨ t.queue = [] ∧ messages parse t.maxLineBytes bytes = [] ∧
    (lines newline bytes).2.length ≤ t.maxLineBytes

/-- Nothing is queued when framing fails, and over-long lines arrive whole. -/
def FailsQuietly (parse : List UInt8 → Option JsonValue) (t : StudioSocketTransport) :
    TransportEvent → Prop
  | .start => Quietly parse t t.inbound
  | .data chunk => Quietly parse t (t.inbound ++ chunk)
  | _ => True

/-- What holds of a transport in which framing fails with nothing queued. -/
structure Quiet (parse : List UInt8 → Option JsonValue) (t : StudioSocketTransport) : Prop where
  none' : deliveredAfterFailure t.history = []
  failures : ∀ failure ∈ framingFailures t.history,
    lineFailure parse t.maxLineBytes t.received = some failure
  empty : t.failed = true → t.queue = []

theorem consumeTurns_unfailed (framed : Framed parse t t.inbound) (unfailed : t.failed = false)
    (turns : Nat) : (t.consumeTurns parse turns).failed = false ∧
      framingFailures (t.consumeTurns parse turns).history = framingFailures t.history := by
  induction turns generalizing t with
  | zero => exact ⟨unfailed, rfl⟩
  | succ turns ih =>
    rw [consumeTurns]
    split
    · exact ⟨unfailed, rfl⟩
    · split
      · rename_i cut
        rw [if_neg (framed.short cut)]
        exact ⟨unfailed, rfl⟩
      · rename_i line rest cut
        obtain ⟨turn, framed⟩ := framed.turn cut
        rcases turn with same | ⟨message, same⟩
        · obtain ⟨failed, failures⟩ := ih framed (by rw [same]; exact unfailed)
          exact ⟨failed, failures.trans (by rw [same])⟩
        · obtain ⟨failed, failures⟩ := ih framed (by rw [same]; exact unfailed)
          refine ⟨failed, failures.trans ?_⟩
          rw [same]
          change framingFailures (t.history ++ [.queued message]) = _
          rw [framingFailures_append]
          exact List.append_nil _

theorem failFraming_calm (unfailed : t.failed = false) (failure : SocketTransportFailure) :
    Calm ({ t with failed := true }.log (.failure failure)) (t.failFraming failure) := by
  unfold failFraming
  rw [if_neg (by simp [unfailed])]
  dsimp only
  split
  · exact destroyNow_calm _
  · exact .of_same rfl rfl rfl rfl rfl id rfl rfl id

theorem consumeTurns_refused (framing : Framing parse t) (attached : t.started = true)
    (none' : messages parse t.maxLineBytes t.inbound = [])
    (short : (lines newline t.inbound).2.length ≤ t.maxLineBytes) (empty : t.queue = [])
    (unfailed : t.failed = false) (running : t.closing = false)
    (alive : t.closeAnnounced = false) (turns : Nat) :
    (t.consumeTurns parse turns).queue = [] ∧
      ∀ failure ∈ framingFailures (t.consumeTurns parse turns).history,
        lineFailure parse t.maxLineBytes t.received = some failure := by
  have nothing : framingFailures t.history = [] := framing.latched unfailed
  induction turns generalizing t with
  | zero =>
    refine ⟨empty, fun failure member => ?_⟩
    rw [consumeTurns, nothing] at member
    cases member
  | succ turns ih =>
    rw [consumeTurns, if_neg (by simp [unfailed, running])]
    split
    · rename_i cut
      rw [lines_of_takeLine_none cut] at short
      rw [if_neg (Nat.not_lt.mpr short)]
      refine ⟨empty, fun failure member => ?_⟩
      rw [nothing] at member
      cases member
    · rename_i line rest cut
      have soFar := framing.reads unfailed running attached
      have next := consumeLine_framing framing unfailed running attached alive cut
      unfold messages at none'
      rw [lines_of_takeLine_some cut] at none' short
      dsimp only at none' short
      rw [readLines] at none'
      cases kind : readLine parse t.maxLineBytes line with
      | blank =>
        rw [kind] at none'
        have same : { t with inbound := rest }.consumeLine parse line =
            { t with inbound := rest } := by
          simp only [consumeLine, kind]
        rw [same] at next ⊢
        exact ih next attached none' short empty unfailed running alive nothing
      | message message =>
        rw [kind] at none'
        cases none'
      | failure failure =>
        have same : { t with inbound := rest }.consumeLine parse line =
            { t with inbound := rest }.failFraming failure := by
          simp only [consumeLine, kind]
        have failed : ({ t with inbound := rest }.failFraming failure).failed = true :=
          failFraming_failed _ failure
        have ends : consumeTurns parse turns ({ t with inbound := rest }.failFraming failure) =
            { t with inbound := rest }.failFraming failure := by
          cases turns with
          | zero => rfl
          | succ turns => rw [consumeTurns, if_pos (by simp [failed])]
        have calm := failFraming_calm (t := { t with inbound := rest }) unfailed failure
        rw [same, ends]
        refine ⟨calm.idle empty, fun reported member => ?_⟩
        rw [calm.failures] at member
        change reported ∈ framingFailures (t.history ++ [.failure failure]) at member
        rw [framingFailures_append, nothing, List.nil_append] at member
        have alone : reported = failure := by
          unfold framingFailures at member
          cases framed : failure.ofFraming <;> simp [framed] at member
          exact member
        rw [alone]
        exact soFar.lineFailure cut kind

theorem consumeTurns_deaf (deaf : t.failed = true ∨ t.closing = true) (turns : Nat) :
    t.consumeTurns parse turns = t := by
  cases turns with
  | zero => rfl
  | succ turns => rw [consumeTurns, if_pos (by simpa using deaf)]

theorem consumeTurns_quiet (quiet : Quiet parse t) (framing : Framing parse t)
    (attached : t.started = true) (bytes : Quietly parse t t.inbound)
    (alive : t.closing = false → t.closeAnnounced = false) (turns : Nat) :
    Quiet parse (t.consumeTurns parse turns) := by
  by_cases reading : t.failed = false ∧ t.closing = false
  · obtain ⟨unfailed, running⟩ := reading
    have unmoved := @consumeTurns_unmoved parse turns t
    obtain ⟨acts, history, nothing⟩ := unmoved.history
    have none' : deliveredAfterFailure (t.consumeTurns parse turns).history = [] := by
      rw [history, deliveredAfterFailure_append _ nothing]
      exact quiet.none'
    rcases bytes with framed | ⟨empty, silent, short⟩
    · obtain ⟨unfailed', failures⟩ := consumeTurns_unfailed framed unfailed turns
      refine ⟨none', fun failure member => ?_, fun failed => ?_⟩
      · rw [failures, framing.latched unfailed] at member
        cases member
      · rw [unfailed'] at failed
        cases failed
    · obtain ⟨idle, failures⟩ := consumeTurns_refused framing attached silent short empty unfailed
        running (alive running) turns
      refine ⟨none', fun failure member => ?_, fun _ => idle⟩
      rw [unmoved.received, unmoved.maxLineBytes]
      exact failures failure member
  · rw [consumeTurns_deaf]
    · exact quiet
    · cases failed : t.failed with
      | true => exact .inl rfl
      | false => exact .inr (by simpa [failed] using reading)

theorem Calm.quiet {t' : StudioSocketTransport} (calm : Calm t t') (quiet : Quiet parse t) :
    Quiet parse t' := by
  obtain ⟨acts, history, nothing⟩ := calm.history
  refine ⟨?_, ?_, ?_⟩
  · rw [history, deliveredAfterFailure_append _ nothing]
    exact quiet.none'
  · rw [calm.failures, calm.received, calm.maxLineBytes]
    exact quiet.failures
  · rw [calm.latch]
    exact fun failed => calm.idle (quiet.empty failed)

theorem step_quiet (quiet : Quiet parse t) (framing : Framing parse t) (rested : Rested t)
    (event : TransportEvent) (held : FailsQuietly parse t event) :
    Quiet parse (t.step parse event) := by
  rcases @event_cases parse t event with
    rfl | ⟨chunk, rfl⟩ | rfl | rfl | ⟨calm, _⟩
  · simp only [step, start]
    split
    · exact quiet
    · rename_i unset
      have unset : t.started = false := by simpa using unset
      have quietStarted : Quiet parse { t with started := true } := { quiet with }
      split
      · refine consumeTurns_quiet quietStarted (attach_framing framing unset) rfl held
          (fun running => ?_) _
        by_contra announced
        have closing := framing.closing_of_unstarted unset (by simpa using announced)
        rw [show t.closing = false from running] at closing
        cases closing
      · exact quietStarted
  · simp only [step, handleData]
    split
    · exact quiet
    · rename_i heard
      obtain ⟨attached, opened⟩ : t.started = true ∧ t.wireClosed = false := by simpa using heard
      have grown : ∀ buffer, Quiet parse
          { t with received := t.received ++ chunk, inbound := buffer } := fun buffer =>
        { quiet with
          failures := fun failure member => lineFailure_later (quiet.failures failure member) chunk }
      split
      · exact grown t.inbound
      · rename_i reading
        obtain ⟨unfailed, running⟩ : t.failed = false ∧ t.closing = false := by
          simpa using reading
        have buffered := receive_framing framing attached chunk (t.inbound ++ chunk)
          fun _ _ => (framing.reads unfailed running attached).append
            (rested unfailed running attached).1 chunk
        refine consumeTurns_quiet (grown _) buffered attached held (fun _ => ?_) _
        by_contra announced
        rcases (framing.emptied (by simpa using announced)).2 with closing | ⟨closed, _⟩
        · rw [running] at closing; cases closing
        · rw [opened] at closed; cases closed
  · simp only [step, handleSocketClosed]
    have gone : Quiet parse { t with wireClosed := true, destroyed := true } := { quiet with }
    split
    · have cleared : Quiet parse { t with
          wireClosed := true, destroyed := true, shutdownTimer := false, drainTimer := false } :=
        { gone with }
      exact (announceClose_calm _).quiet cleared
    · exact gone
  · simp only [step, immediate]
    split
    · exact quiet
    · split
      · exact { quiet with }
      · rename_i next rest queued
        have queued : t.queue = next :: rest := queued
        have unfailed : t.failed = false := by
          by_contra failed
          have empty := quiet.empty (by simpa using failed)
          rw [queued] at empty
          cases empty
        have none' : framingFailures (t.history ++ [.delivered next]) = [] := by
          rw [framingFailures_append, framing.latched unfailed]
          rfl
        refine ⟨deliveredAfterFailure_unfailed none', fun failure member => ?_, fun failed => ?_⟩
        · change failure ∈ framingFailures (t.history ++ [.delivered next]) at member
          rw [none'] at member
          cases member
        · rw [show t.failed = true from failed] at unfailed
          cases unfailed
  · exact calm.quiet quiet

/-! ## The stream, however it is split -/

section Runs

variable (parse) (maxLineBytes maxQueuedMessages : Nat) (remainder : List UInt8)
  (destroyed writableEnded : Bool) (events : List TransportEvent)

def after : StudioSocketTransport :=
  run (step parse) (construct maxLineBytes maxQueuedMessages remainder destroyed writableEnded)
    events

/-- The stream of the peer: the remainder, and what the wire raises. -/
def stream : List UInt8 := remainder ++ raised false false events

/-- What holds in every run: the messages that are delivered are the first of the stream, a failure
of framing is of the kind of the stream's first failure unless the queue overflows, and the close is
announced once by the time the wire is closed. -/
theorem framing_any_split :
    deliveredMessages (after parse maxLineBytes maxQueuedMessages remainder destroyed writableEnded
        events).history <+: messages parse maxLineBytes (stream remainder events) ∧
    (∀ failure ∈ framingFailures (after parse maxLineBytes maxQueuedMessages remainder destroyed
        writableEnded events).history, failure.kind = .queueOverflow 0 ∨
      ∃ first, firstFailure parse maxLineBytes (stream remainder events) = some first ∧
        first.kind = failure.kind) ∧
    ((after parse maxLineBytes maxQueuedMessages remainder destroyed writableEnded events).started =
        true →
      (after parse maxLineBytes maxQueuedMessages remainder destroyed writableEnded events).failed =
        false →
      (after parse maxLineBytes maxQueuedMessages remainder destroyed writableEnded events).closing =
        false → firstFailure parse maxLineBytes (stream remainder events) = none) ∧
    announcements (after parse maxLineBytes maxQueuedMessages remainder destroyed writableEnded
      events).history ≤ 1 ∧
    ((after parse maxLineBytes maxQueuedMessages remainder destroyed writableEnded events).started =
        true →
      announcements ((after parse maxLineBytes maxQueuedMessages remainder destroyed writableEnded
        events).step parse .wireClose).history = 1) := by
  obtain ⟨framing, rested⟩ := @run_framing parse maxLineBytes maxQueuedMessages remainder
    destroyed writableEnded events
  obtain ⟨received, bound⟩ := @run_received parse
    (construct maxLineBytes maxQueuedMessages remainder destroyed writableEnded) events
  have received : (after parse maxLineBytes maxQueuedMessages remainder destroyed writableEnded
      events).received = stream remainder events := received
  have bound : (after parse maxLineBytes maxQueuedMessages remainder destroyed writableEnded
      events).maxLineBytes = maxLineBytes := bound
  change Framing parse (after parse maxLineBytes maxQueuedMessages remainder destroyed writableEnded
    events) at framing
  change Rested (after parse maxLineBytes maxQueuedMessages remainder destroyed writableEnded
    events) at rested
  generalize after parse maxLineBytes maxQueuedMessages remainder destroyed writableEnded events = t
    at *
  rw [← received, ← bound]
  refine ⟨framing.delivered.trans framing.accepted, framing.failure, ?_, ?_, ?_⟩
  · intro attached unfailed running
    obtain ⟨cut, short⟩ := rested unfailed running attached
    rw [(framing.reads unfailed running attached).unfinished cut, if_neg (Nat.not_lt.mpr short)]
  · rw [framing.announced]
    split <;> simp
  · intro attached
    have announced := (step_framing framing rested .wireClose).announced
    have closes : (t.step parse .wireClose).closeAnnounced = true := by
      simp only [step, handleSocketClosed, attached, Bool.true_or, if_true, announceClose]
      split
      · assumption
      · rfl
    rw [announced, closes]
    rfl

/-- In every run in which nothing is queued when framing fails, and over-long lines arrive whole,
also nothing is given to the consumer once framing has failed, and a failure is the stream's first
failure. -/
theorem framing_fails_quietly (along : Along (step parse) (FailsQuietly parse)
      (construct maxLineBytes maxQueuedMessages remainder destroyed writableEnded) events) :
    deliveredAfterFailure (after parse maxLineBytes maxQueuedMessages remainder destroyed
        writableEnded events).history = [] ∧
    (∀ failure ∈ framingFailures (after parse maxLineBytes maxQueuedMessages remainder destroyed
        writableEnded events).history,
      firstFailure parse maxLineBytes (stream remainder events) = some failure) ∧
    deliveredMessages (after parse maxLineBytes maxQueuedMessages remainder destroyed writableEnded
        events).history <+: messages parse maxLineBytes (stream remainder events) ∧
    ((after parse maxLineBytes maxQueuedMessages remainder destroyed writableEnded events).started =
        true →
      (after parse maxLineBytes maxQueuedMessages remainder destroyed writableEnded events).failed =
        false →
      (after parse maxLineBytes maxQueuedMessages remainder destroyed writableEnded events).closing =
        false → firstFailure parse maxLineBytes (stream remainder events) = none) ∧
    announcements (after parse maxLineBytes maxQueuedMessages remainder destroyed writableEnded
      events).history ≤ 1 ∧
    ((after parse maxLineBytes maxQueuedMessages remainder destroyed writableEnded events).started =
        true →
      announcements ((after parse maxLineBytes maxQueuedMessages remainder destroyed writableEnded
        events).step parse .wireClose).history = 1) := by
  obtain ⟨delivered, _, reads, once, closes⟩ := framing_any_split parse maxLineBytes
    maxQueuedMessages remainder destroyed writableEnded events
  have held := along.induction
    (motive := fun t => Quiet parse t ∧ Framing parse t ∧ Rested t)
    (fun _ event ok held => ⟨step_quiet held.1 held.2.1 held.2.2 event ok,
      step_framing held.2.1 held.2.2 event, step_rested held.2.2 event⟩)
    ⟨⟨rfl, fun _ member => (by cases member), fun failed => (by cases failed)⟩,
      construct_framing _ _ _ _ _, fun _ _ attached => by cases attached⟩
  obtain ⟨received, bound⟩ := @run_received parse
    (construct maxLineBytes maxQueuedMessages remainder destroyed writableEnded) events
  refine ⟨held.1.none', fun failure member => ?_, delivered, reads, once, closes⟩
  have failed := held.1.failures failure member
  rw [received, bound] at failed
  rw [firstFailure, show lineFailure parse maxLineBytes (stream remainder events) = some failure
    from failed]

end Runs

/-- A call is handed over, and then a line that is no object fails. -/
theorem framing_fails_quietly_example : deliveredAfterFailure (after parseCall 64 16 [] false false
        [.start, .data (callLine ++ [newline]), .immediate, .returned false,
          .data [120, newline], .framed]).history = [] :=
  (framing_fails_quietly parseCall 64 16 [] false false
    [.start, .data (callLine ++ [newline]), .immediate, .returned false, .data [120, newline],
      .framed]
    ⟨.inl ⟨rfl, by decide⟩, .inl ⟨rfl, by decide⟩, trivial, trivial, .inr ⟨rfl, rfl, by decide⟩,
      trivial, trivial⟩).1

/-- A call and a line that is no object arrive together: framing fails, and the call is handed
over all the same. -/
theorem call_delivered_after_failure : deliveredAfterFailure (after parseCall 64 16 [] false false
        [.start, .data (callLine ++ [newline] ++ [120, newline]), .immediate]).history = [call] :=
  rfl

end StudioSocketTransport

end Vex.Studio
