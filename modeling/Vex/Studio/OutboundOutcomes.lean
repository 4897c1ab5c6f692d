import Vex.Studio.OutboundQueue

/-!
# What the outbound queue settles its calls with

What happened to a queue is the list of its events. A call of `enqueue` is accepted once the wire
has reported that the write of its entry is complete, by the callback of the write or by `drain`
after a refusal; and the line that was written is the newest that was given for the entry while it
waited, which need not be the line of the call. A write that the wire reports as failed loses a
response although neither the queue nor the wire is closed.

`single_writer` is what holds of every queue after any events in any order.
-/

namespace Vex.Studio

open Vex.Library

namespace StudioOutboundQueue

variable {Key Line : Type}

/-! ## What an event does to the writes -/

/-- What an event runs in the calls of `writeLine`. -/
def listener (q : StudioOutboundQueue Key Line) :
    OutboundEvent Key Line → WriteLine Line → WriteLine Line
  | .wrote accepted => fun w => w.afterWrite accepted q.wireGone
  | .callback entry failed => fun w => if w.entry = entry then w.callback failed else w
  | .drain => WriteLine.drained
  | .error => WriteLine.gone
  | .wireClose => WriteLine.gone
  | .enqueue _ _ => id
  | .close => id
  | .destroy => id
  | .wireEnd => id
  | .resume => id

theorem listener_keeps (q : StudioOutboundQueue Key Line) (event : OutboundEvent Key Line)
    (w : WriteLine Line) : WriteLine.Keeps w (q.listener event w) := by
  cases event with
  | wrote accepted => exact w.afterWrite_keeps accepted _
  | callback entry failed =>
    unfold listener
    dsimp only
    split
    · exact w.callback_keeps failed
    · exact .refl w
  | drain => exact w.drained_keeps
  | error => exact w.gone_keeps
  | wireClose => exact w.gone_keeps
  | _ => exact .refl w

variable {q : StudioOutboundQueue Key Line} {call : Nat}

theorem Kept.find_current (kept : q.Kept) (held : q.writer = some call) :
    ∃ w, q.writes.find? (fun w => w.entry = call) = some w ∧ w ∈ q.writes ∧ w.entry = call := by
  obtain ⟨before, w, writes, same⟩ := kept.current call held
  have member : w ∈ q.writes := by
    rw [writes]
    exact List.mem_append_right _ (List.mem_singleton_self _)
  have found : (q.writes.find? fun w => w.entry = call).isSome :=
    List.find?_isSome.mpr ⟨w, member, by simpa using same⟩
  obtain ⟨first, same⟩ := Option.isSome_iff_exists.mp found
  exact ⟨first, same, List.mem_of_find?_eq_some same, by simpa using List.find?_some same⟩

variable {w : WriteLine Line}

theorem Kept.settled_before (kept : q.Kept) {before later : List (WriteLine Line)}
    {next : WriteLine Line} (writes : q.writes = before ++ w :: next :: later) :
    ∃ outcome, (w.entry, outcome) ∈ q.outcomes := by
  have member : w ∈ q.writes := by rw [writes]; simp
  have ordered := (List.pairwise_append.mp kept.ordered).1
  have unheld : q.writer ≠ some w.entry := by
    intro held
    obtain ⟨others, last, ends, same⟩ := kept.current w.entry held
    -- The entry of the last write comes after the entry of this one.
    have lastIn : last ∈ next :: later := by
      have tail : (next :: later).getLast? = some last := by
        have whole : q.writes.getLast? = some last := by rw [ends]; simp
        rw [writes] at whole
        simpa [List.getLast?_append, List.getLast?_cons] using whole
      exact List.mem_of_getLast? tail
    rw [writes, List.map_append, List.map_cons] at ordered
    have after := (List.pairwise_cons.mp (List.pairwise_append.mp ordered).2.1).1
    exact absurd same (Nat.ne_of_gt (after last.entry (List.mem_map_of_mem lastIn)))
  obtain ⟨_, outcome, _, told⟩ := kept.past w member unheld
  exact ⟨outcome, told⟩

variable [DecidableEq Key] {maxPending : Nat}

theorem pumpLoop_writes (q : StudioOutboundQueue Key Line) (entries : List (OutboundEntry Key)) :
    ∃ new, (q.pumpLoop entries).writes = q.writes ++ new ∧
      (new = [] ∨ ∃ call line, new = [WriteLine.begin call line]) := by
  induction entries generalizing q with
  | nil => exact ⟨[], (List.append_nil _).symm, .inl rfl⟩
  | cons entry rest ih =>
    rw [pumpLoop]
    split
    · exact ih _
    · unfold hand
      split
      · rename_i line _
        exact ⟨_, rfl, .inr ⟨entry.call, line, rfl⟩⟩
      · exact ⟨[], (List.append_nil _).symm, .inl rfl⟩

theorem step_writes (q : StudioOutboundQueue Key Line) (event : OutboundEvent Key Line) :
    ∃ new, (q.step event).writes = q.writes.map (q.listener event) ++ new ∧
      (new = [] ∨ ∃ call line, new = [WriteLine.begin call line]) := by
  cases event with
  | enqueue line key =>
    rw [listener, List.map_id]
    simp only [step, enqueue]
    split
    · exact ⟨[], (List.append_nil _).symm, .inl rfl⟩
    · split
      · exact ⟨[], (List.append_nil _).symm, .inl rfl⟩
      · split
        · refine ⟨[], ?_, .inl rfl⟩
          unfold refuse
          split_ifs <;> exact (List.append_nil _).symm
        · unfold pump
          split
          · exact ⟨[], (List.append_nil _).symm, .inl rfl⟩
          · exact pumpLoop_writes _ _
  | close =>
    refine ⟨[], ?_, .inl rfl⟩
    rw [listener, List.map_id, List.append_nil]
    simp only [step, close]
    split <;> rfl
  | resume =>
    rw [listener, List.map_id]
    simp only [step, resume]
    split
    · exact ⟨[], (List.append_nil _).symm, .inl rfl⟩
    · split
      · exact ⟨[], (List.append_nil _).symm, .inl rfl⟩
      · split
        · exact pumpLoop_writes _ _
        · exact ⟨[], (List.append_nil _).symm, .inl rfl⟩
  | destroy | wireEnd => exact ⟨[], by rw [listener, List.map_id, List.append_nil]; rfl, .inl rfl⟩
  | _ => exact ⟨[], (List.append_nil _).symm, .inl rfl⟩

theorem step_written (q : StudioOutboundQueue Key Line) (event : OutboundEvent Key Line)
    (member : w ∈ q.writes) :
    ∃ w' ∈ (q.step event).writes, w'.entry = w.entry ∧ w'.line = w.line := by
  obtain ⟨new, writes, _⟩ := step_writes q event
  refine ⟨q.listener event w, ?_, (listener_keeps q event w).entry, (listener_keeps q event w).line⟩
  rw [writes]
  exact List.mem_append_left _ (List.mem_map_of_mem member)

theorem run_written (q : StudioOutboundQueue Key Line) (events : List (OutboundEvent Key Line))
    (member : w ∈ q.writes) :
    ∃ w' ∈ (run step q events).writes, w'.entry = w.entry ∧ w'.line = w.line := by
  induction events generalizing q w with
  | nil => exact ⟨w, member, rfl, rfl⟩
  | cons event events ih =>
    obtain ⟨next, memberNext, entry, line⟩ := step_written q event member
    obtain ⟨last, memberLast, entryLast, lineLast⟩ := ih (q.step event) memberNext
    exact ⟨last, memberLast, entryLast.trans entry, lineLast.trans line⟩

/-! ## What the wire reported -/

theorem after_concat (maxPending : Nat) (events : List (OutboundEvent Key Line))
    (event : OutboundEvent Key Line) :
    after maxPending (events ++ [event]) = (after maxPending events).step event :=
  run_concat step _ events event

theorem after_append (maxPending : Nat) (events later : List (OutboundEvent Key Line)) :
    after maxPending (events ++ later) = run step (after maxPending events) later :=
  run_append step _ events later

/-- The wire reported that the write of an entry is complete: it ran the callback of the write
without an error, or it raised `drain` after it had refused the write. -/
def Completed (maxPending : Nat) (events : List (OutboundEvent Key Line)) (call : Nat) : Prop :=
  ∃ before event later, events = before ++ event :: later ∧
    ∃ w ∈ (after maxPending before).writes, w.entry = call ∧
      (event = .callback call false ∨ event = .drain ∧ w.parked = true)

/-- The event says that the wire is gone, or that the write of the entry failed. -/
def Fails (call : Nat) (event : OutboundEvent Key Line) : Prop :=
  event = .error ∨ event = .wireClose ∨ event = .destroy ∨ event = .wireEnd ∨
    event = .callback call true

variable {events : List (OutboundEvent Key Line)}

theorem Completed.later (completed : Completed maxPending events call)
    (more : List (OutboundEvent Key Line)) : Completed maxPending (events ++ more) call := by
  obtain ⟨before, event, later, rfl, reported⟩ := completed
  exact ⟨before, event, later ++ more, by simp, reported⟩

structure Steady (q q' : StudioOutboundQueue Key Line) : Prop where
  maxPending : q'.maxPending = q.maxPending
  closed : q'.closed = q.closed
  destroyed : q'.destroyed = q.destroyed
  writableEnded : q'.writableEnded = q.writableEnded

theorem pumpLoop_steady (q : StudioOutboundQueue Key Line) (entries : List (OutboundEntry Key)) :
    Steady q (q.pumpLoop entries) := by
  induction entries generalizing q with
  | nil => exact ⟨rfl, rfl, rfl, rfl⟩
  | cons entry rest ih =>
    rw [pumpLoop]
    split
    · obtain ⟨maxPending, closed, destroyed, writableEnded⟩ :=
        ih ((q.take entry rest).settle entry.call .closed)
      exact ⟨maxPending, closed, destroyed, writableEnded⟩
    · unfold hand
      split <;> exact ⟨rfl, rfl, rfl, rfl⟩

theorem step_steady (q : StudioOutboundQueue Key Line) (event : OutboundEvent Key Line) :
    (q.step event).maxPending = q.maxPending ∧
      ((q.step event).closed = true → q.closed = true ∨ event = .close) ∧
      ((q.step event).wireGone = true →
        q.wireGone = true ∨ event = .destroy ∨ event = .wireEnd) := by
  have steady : ∀ {q' : StudioOutboundQueue Key Line}, Steady q q' →
      q'.maxPending = q.maxPending ∧ (q'.closed = true → q.closed = true ∨ event = .close) ∧
        (q'.wireGone = true → q.wireGone = true ∨ event = .destroy ∨ event = .wireEnd) := by
    intro q' same
    refine ⟨same.maxPending, fun closed => .inl (same.closed.symm.trans closed), fun gone => .inl ?_⟩
    rwa [wireGone, same.destroyed, same.writableEnded] at gone
  cases event with
  | enqueue line key =>
    refine steady ?_
    simp only [step, enqueue]
    split
    · exact ⟨rfl, rfl, rfl, rfl⟩
    · split
      · exact ⟨rfl, rfl, rfl, rfl⟩
      · split
        · unfold refuse
          split_ifs <;> exact ⟨rfl, rfl, rfl, rfl⟩
        · unfold pump
          split
          · exact ⟨rfl, rfl, rfl, rfl⟩
          · obtain ⟨maxPending, closed, destroyed, writableEnded⟩ := pumpLoop_steady
              { ({ q with asked := q.asked ++ [(line, key)] }.push q.asked.length line key) with
                writing := true } (q.queue ++ [⟨q.asked.length, key⟩])
            exact ⟨maxPending, closed, destroyed, writableEnded⟩
  | close =>
    change q.close.maxPending = _ ∧ (q.close.closed = true → _) ∧ (q.close.wireGone = true → _)
    unfold close
    split
    · exact steady ⟨rfl, rfl, rfl, rfl⟩
    · exact ⟨rfl, fun _ => .inr rfl, .inl⟩
  | resume =>
    refine steady ?_
    simp only [step, resume]
    split
    · exact ⟨rfl, rfl, rfl, rfl⟩
    · rename_i call _
      split
      · exact ⟨rfl, rfl, rfl, rfl⟩
      · split
        · rename_i outcome _ _
          obtain ⟨maxPending, closed, destroyed, writableEnded⟩ :=
            pumpLoop_steady ({ q with writer := none }.settle call outcome) q.queue
          exact ⟨maxPending, closed, destroyed, writableEnded⟩
        · exact ⟨rfl, rfl, rfl, rfl⟩
  | destroy => exact ⟨rfl, .inl, fun _ => .inr (.inl rfl)⟩
  | wireEnd => exact ⟨rfl, .inl, fun _ => .inr (.inr rfl)⟩
  | _ => exact steady ⟨rfl, rfl, rfl, rfl⟩

theorem after_steady (events : List (OutboundEvent Key Line)) :
    (after maxPending events).maxPending = maxPending ∧
      ((after maxPending events).closed = true → .close ∈ events) ∧
      ((after maxPending events).wireGone = true → .destroy ∈ events ∨ .wireEnd ∈ events) := by
  induction events using List.reverseRecOn with
  | nil =>
    refine ⟨rfl, ?_, ?_⟩
    · intro closed; cases closed
    · intro gone; cases gone
  | append_singleton events event ih =>
    rw [after_concat]
    obtain ⟨bound, closed, gone⟩ := step_steady (after maxPending events) event
    refine ⟨bound.trans ih.1, fun now => ?_, fun now => ?_⟩
    · rcases closed now with already | rfl
      · exact List.mem_append_left _ (ih.2.1 already)
      · exact List.mem_append_right _ (List.mem_singleton_self _)
    · rcases gone now with already | rfl | rfl
      · exact (ih.2.2 already).imp (List.mem_append_left _) (List.mem_append_left _)
      · exact .inl (List.mem_append_right _ (List.mem_singleton_self _))
      · exact .inr (List.mem_append_right _ (List.mem_singleton_self _))

/-- What the wire reported of one call of `writeLine`, among the events so far. -/
structure Reported (maxPending : Nat) (events : List (OutboundEvent Key Line))
    (w : WriteLine Line) : Prop where
  fired : w.callbackFired = true → w.writeFailed = false → Completed maxPending events w.entry
  failed : w.writeFailed = true → ∃ event ∈ events, Fails w.entry event
  accepted : w.settled = some .accepted → Completed maxPending events w.entry
  closed : w.settled = some .closed → ∃ event ∈ events, Fails w.entry event

namespace Reported

variable {events : List (OutboundEvent Key Line)} {w : WriteLine Line}

theorem later (reported : Reported maxPending events w)
    (more : List (OutboundEvent Key Line)) : Reported maxPending (events ++ more) w where
  fired fired intact := (reported.fired fired intact).later more
  failed failed :=
    let ⟨event, member, fails⟩ := reported.failed failed
    ⟨event, List.mem_append_left _ member, fails⟩
  accepted accepted := (reported.accepted accepted).later more
  closed closed :=
    let ⟨event, member, fails⟩ := reported.closed closed
    ⟨event, List.mem_append_left _ member, fails⟩

theorem done (reported : Reported maxPending events w) {outcome : StudioWriteOutcome}
    (accepted : outcome = .accepted → Completed maxPending events w.entry)
    (closed : outcome = .closed → ∃ event ∈ events, Fails w.entry event) :
    Reported maxPending events (w.done outcome) := by
  unfold WriteLine.done
  split
  · exact reported
  · exact ⟨reported.fired, reported.failed, fun same => accepted (Option.some.inj same),
      fun same => closed (Option.some.inj same)⟩

theorem completed (reported : Reported maxPending events w) (fired : w.callbackFired = true) :
    Reported maxPending events w.completed := by
  unfold WriteLine.completed
  split
  · rename_i failed
    exact reported.done (by simp) fun _ => reported.failed failed
  · rename_i intact
    exact reported.done (fun _ => reported.fired fired (by simpa using intact)) (by simp)

end Reported

theorem listener_reported (member : w ∈ (after maxPending events).writes)
    (reported : Reported maxPending events w) (event : OutboundEvent Key Line) :
    Reported maxPending (events ++ [event]) ((after maxPending events).listener event w) := by
  have kept := reported.later [event]
  have here : event ∈ events ++ [event] := List.mem_append_right _ (List.mem_singleton_self _)
  cases event with
  | wrote accepted =>
    unfold listener WriteLine.afterWrite
    dsimp only
    split
    · exact kept
    · split
      · rename_i fired
        have returned : Reported maxPending (events ++ [.wrote accepted])
            { w with returned := true } :=
          ⟨kept.fired, kept.failed, kept.accepted, kept.closed⟩
        exact returned.completed fired
      · split
        · exact ⟨kept.fired, kept.failed, kept.accepted, kept.closed⟩
        · split
          · rename_i gone
            have returned : Reported maxPending (events ++ [.wrote accepted])
                { w with returned := true } :=
              ⟨kept.fired, kept.failed, kept.accepted, kept.closed⟩
            refine returned.done (by simp) fun _ => ?_
            rcases (after_steady events).2.2 gone with destroyed | ended
            · exact ⟨_, List.mem_append_left _ destroyed, .inr (.inr (.inl rfl))⟩
            · exact ⟨_, List.mem_append_left _ ended, .inr (.inr (.inr (.inl rfl)))⟩
          · exact ⟨kept.fired, kept.failed, kept.accepted, kept.closed⟩
  | callback entry failed =>
    unfold listener
    dsimp only
    split
    · rename_i same
      have fired : Reported maxPending (events ++ [.callback entry failed])
          { w with callbackFired := true, writeFailed := w.writeFailed || failed } := by
        refine ⟨fun _ intact => ?_, fun failing => ?_, kept.accepted, kept.closed⟩
        · cases failed with
          | true => simp at intact
          | false =>
            exact ⟨events, _, [], rfl, w, member, rfl, .inl (by rw [same])⟩
        · cases failed with
          | true => exact ⟨_, here, .inr (.inr (.inr (.inr (by rw [same]))))⟩
          | false => exact kept.failed (by simpa using failing)
      unfold WriteLine.callback
      dsimp only
      split
      · exact fired.completed rfl
      · exact fired
    · exact kept
  | drain =>
    unfold listener WriteLine.drained
    dsimp only
    split
    · rename_i parked
      have emptied : Completed maxPending (events ++ [.drain]) w.entry :=
        ⟨events, .drain, [], rfl, w, member, rfl, .inr ⟨rfl, parked⟩⟩
      have done : Reported maxPending (events ++ [.drain]) (w.done .accepted) :=
        kept.done (fun _ => emptied) (by simp)
      exact ⟨done.fired, done.failed, done.accepted, done.closed⟩
    · exact kept
  | error => exact kept.done (by simp) fun _ => ⟨_, here, .inl rfl⟩
  | wireClose => exact kept.done (by simp) fun _ => ⟨_, here, .inr (.inl rfl)⟩
  | _ => exact kept

theorem after_reported (events : List (OutboundEvent Key Line)) :
    ∀ w ∈ (after maxPending events).writes, Reported maxPending events w := by
  induction events using List.reverseRecOn with
  | nil => exact fun w member => absurd member List.not_mem_nil
  | append_singleton events event ih =>
    rw [after_concat]
    intro w member
    obtain ⟨new, writes, fresh⟩ := step_writes (after maxPending events) event
    rw [writes] at member
    rcases List.mem_append.mp member with earlier | begun
    · obtain ⟨w, memberBefore, rfl⟩ := List.mem_map.mp earlier
      exact listener_reported memberBefore (ih w memberBefore) event
    · rcases fresh with rfl | ⟨call, line, rfl⟩
      · exact absurd begun List.not_mem_nil
      · rw [List.mem_singleton.mp begun]
        refine ⟨?_, ?_, ?_, ?_⟩ <;> intro unset <;> cases unset

/-! ## The writer goes on -/

section GoesOn

variable {q : StudioOutboundQueue Key Line}

variable {call : Nat} {w : WriteLine Line} {outcome : StudioWriteOutcome}

theorem resume_eq (held : q.writer = some call)
    (found : q.writes.find? (fun w => w.entry = call) = some w) (returned : w.returned = true)
    (settled : w.settled = some outcome) :
    q.resume = ({ q with writer := none }.settle call outcome).pumpLoop q.queue := by
  unfold resume
  simp only [held, found, returned, settled]

theorem resume_next (sound : q.Sound) (held : q.writer = some call) (member : w ∈ q.writes)
    (same : w.entry = call) (returned : w.returned = true) (settled : w.settled = some outcome)
    (opened : q.closed = false) (present : q.wireGone = false) {entry : OutboundEntry Key}
    {rest : List (OutboundEntry Key)} (queued : q.queue = entry :: rest) :
    (q.step .resume).writer = some entry.call ∧ (call, outcome) ∈ (q.step .resume).outcomes := by
  have distinct : (q.writes.map WriteLine.entry).Nodup :=
    (List.pairwise_append.mp sound.ordered).1.imp Nat.ne_of_lt
  obtain ⟨first, found, memberFirst, sameFirst⟩ := sound.toKept.find_current held
  obtain rfl : first = w :=
    List.inj_on_of_nodup_map distinct memberFirst member (sameFirst.trans same.symm)
  have released := release_kept sound.toKept held member same returned settled
  have gone : (q.closed || q.destroyed || q.writableEnded) = false := by
    rw [Bool.or_assoc, opened]
    exact present
  obtain ⟨line, _, handed⟩ := hand_eq released queued
  have loop : q.resume = ({ q with writer := none }.settle call outcome).pumpLoop (entry :: rest) :=
    (resume_eq held found returned settled).trans (congrArg _ queued)
  rw [step, loop, pumpLoop, if_neg (by simpa [take, settle] using gone), handed]
  exact ⟨rfl, List.mem_append_right _ (List.mem_singleton_self _)⟩

theorem pumpLoop_shorter (q : StudioOutboundQueue Key Line) (idle : q.writer = none)
    (entries : List (OutboundEntry Key)) : (q.pumpLoop entries).writer = none ∨
      (q.pumpLoop entries).queue.length < entries.length := by
  induction entries generalizing q with
  | nil => exact .inl idle
  | cons entry rest ih =>
    rw [pumpLoop]
    split
    · refine (ih _ ?_).imp_right Nat.lt_succ_of_lt
      exact idle
    · right
      unfold hand
      split <;> exact Nat.lt_succ_self _

theorem settles (sound : q.Sound) : ∃ later : List (OutboundEvent Key Line),
    (∀ event ∈ later, event = .wrote true ∨ (∃ call, event = .callback call false) ∨
      event = .resume) ∧ (run step q later).writer = none := by
  -- Each round completes the write the writer waits for, and takes an entry out of the queue.
  induction size : q.queue.length using Nat.strongRecOn generalizing q with
  | ind size ih =>
    cases held : q.writer with
    | none => exact ⟨[], fun event member => absurd member List.not_mem_nil, held⟩
    | some call =>
      have soundWrote := step_sound sound (.wrote true)
      have soundBack := step_sound soundWrote (.callback call false)
      obtain ⟨w, found, member, same⟩ := soundBack.toKept.find_current held
      obtain ⟨between, memberBetween, called⟩ := List.mem_map.mp member
      obtain ⟨first, _, wrote⟩ := List.mem_map.mp memberBetween
      have returnedBefore : between.returned = true := by
        rw [← wrote]
        exact WriteLine.afterWrite_returned first true _
      have sameBefore : between.entry = call := by
        rw [← same, ← called]
        split
        · exact (between.callback_keeps false).entry.symm
        · rfl
      rw [if_pos sameBefore] at called
      have returned : w.returned = true := by
        rw [← called]
        exact (between.callback_keeps false).returned returnedBefore
      obtain ⟨outcome, settled⟩ : ∃ outcome, w.settled = some outcome := by
        rw [← called]
        exact Option.isSome_iff_exists.mp (WriteLine.callback_settled returnedBefore false)
      have resumed : ((q.step (.wrote true)).step (.callback call false)).step .resume =
          _ := resume_eq held found returned settled
      have soundNext := step_sound soundBack .resume
      have done : (((q.step (.wrote true)).step (.callback call false)).step .resume).writer =
          none ∨ (((q.step (.wrote true)).step (.callback call false)).step
            .resume).queue.length < q.queue.length := by
        rw [resumed]
        exact pumpLoop_shorter _ rfl q.queue
      have round : ∀ event ∈ [.wrote true, .callback call false, .resume],
          event = (OutboundEvent.wrote true : OutboundEvent Key Line) ∨
            (∃ call, event = .callback call false) ∨ event = .resume := by
        intro event member
        simp only [List.mem_cons, List.not_mem_nil, or_false] at member
        rcases member with rfl | rfl | rfl
        · exact .inl rfl
        · exact .inr (.inl ⟨call, rfl⟩)
        · exact .inr (.inr rfl)
      rcases done with idle | shorter
      · exact ⟨_, round, idle⟩
      · obtain ⟨later, ofWire, idle⟩ := ih _ (size ▸ shorter) soundNext rfl
        refine ⟨[.wrote true, .callback call false, .resume] ++ later, fun event member => ?_, ?_⟩
        · exact (List.mem_append.mp member).elim (round event) (ofWire event)
        · rw [run_append]
          exact idle

end GoesOn

/-! ## The outbound queue -/

/-- The events of a queue leave it with one writer that loses nothing in silence. -/
structure SingleWriter (maxPending : Nat) (events : List (OutboundEvent Key Line)) : Prop where
  /-- A call is settled once, unless its entry is with the wire or waits, which it then does once. -/
  settledOnce : ∀ call, (after maxPending events).outcomes.countP (fun told => told.1 = call) +
    (if (after maxPending events).writer = some call then 1 else 0) +
      (after maxPending events).queue.countP (fun entry => entry.call = call) =
        if call < (after maxPending events).asked.length then 1 else 0
  /-- Every call is settled once the wire has completed the writes it is given. -/
  settles : ∃ later, (∀ event ∈ later, event = .wrote true ∨ (∃ call, event = .callback call false) ∨
      event = .resume) ∧
    (after maxPending (events ++ later)).asked = (after maxPending events).asked ∧
      ∀ call < (after maxPending events).asked.length,
        (after maxPending (events ++ later)).outcomes.countP (fun told => told.1 = call) = 1
  /-- The line of an entry that is accepted was handed to the wire, which reported completion. -/
  accepted : ∀ call, (call, .accepted) ∈ (after maxPending events).outcomes →
    Completed maxPending events call ∧ ∃ w ∈ (after maxPending events).writes,
      w.entry = call ∧ (after maxPending events).Carries call w.line
  /-- A line is handed over once the line before it is settled. -/
  oneAtATime : ∀ before w next later,
    (after maxPending events).writes = before ++ w :: next :: later →
      ∃ outcome, (w.entry, outcome) ∈ (after maxPending events).outcomes
  /-- Lines are handed over in the order of the queue. -/
  inOrder : ((after maxPending events).writes.map WriteLine.entry ++
    (after maxPending events).queue.map OutboundEntry.call).Pairwise (· < ·)
  /-- At most one entry waits under a key. -/
  onePerKey : ∀ key, (after maxPending events).queue.countP (fun entry => entry.key = some key) ≤ 1
  /-- A line that was handed over is the line of its entry from then on. -/
  unaltered : ∀ w ∈ (after maxPending events).writes, ∀ later,
    (after maxPending (events ++ later)).line w.entry = some w.line
  /-- The bound holds. -/
  bounded : (after maxPending events).queue.length ≤ maxPending
  /-- A response that is not accepted was given up by a close of the queue, by the wire, or after
  the owner was told of the overflow. -/
  lost : ∀ call outcome, (call, outcome) ∈ (after maxPending events).outcomes →
    (after maxPending events).keyOf call = some none → outcome = .accepted ∨
      outcome = .closed ∧ (.close ∈ events ∨ ∃ event ∈ events, Fails call event) ∨
      outcome = .dropped ∧ (after maxPending events).reports ≠ []
  /-- An entry waits only while another is with the wire. -/
  works : (after maxPending events).queue ≠ [] →
    ∃ w ∈ (after maxPending events).writes, (after maxPending events).writer = some w.entry
  /-- When that write is done and the wire is open, the first entry that waits is handed over. -/
  goesOn : ∀ w ∈ (after maxPending events).writes, ∀ outcome entry rest,
    (after maxPending events).writer = some w.entry → w.returned = true →
      w.settled = some outcome → (after maxPending events).closed = false →
        (after maxPending events).wireGone = false →
          (after maxPending events).queue = entry :: rest →
            (after maxPending (events ++ [.resume])).writer = some entry.call

theorem Kept.key_count (kept : q.Kept) (key : Key) :
    q.queue.countP (fun entry => entry.key = some key) ≤ 1 := by
  have distinct : q.queue.Nodup :=
    ((List.pairwise_append.mp kept.ordered).2.1.imp Nat.ne_of_lt).of_map _
      fun _ _ other same => other (congrArg _ same)
  have under : q.queue.filter (fun entry => entry.key = some key) ⊆
      ((q.queuedProgress key).map fun call => ⟨call, some key⟩).toList := by
    intro entry member
    obtain ⟨waits, same⟩ := List.mem_filter.mp member
    obtain ⟨call, keyOf⟩ := entry
    obtain rfl : keyOf = some key := by simpa using same
    rw [(kept.keyed key call).mpr waits]
    exact List.mem_singleton_self _
  rw [List.countP_eq_length_filter]
  refine (List.Nodup.length_le_of_subset (distinct.filter _) under).trans ?_
  cases q.queuedProgress key <;> simp

theorem run_asked (q : StudioOutboundQueue Key Line) (later : List (OutboundEvent Key Line))
    (ofWire : ∀ event ∈ later, event = .wrote true ∨ (∃ call, event = .callback call false) ∨
      event = .resume) : (run step q later).asked = q.asked := by
  have loop : ∀ (entries : List (OutboundEntry Key)) (q : StudioOutboundQueue Key Line),
      (q.pumpLoop entries).asked = q.asked := by
    intro entries
    induction entries with
    | nil => exact fun _ => rfl
    | cons entry rest ih =>
      intro q
      rw [pumpLoop]
      split
      · exact ih _
      · unfold hand
        split <;> rfl
  induction later generalizing q with
  | nil => rfl
  | cons event later ih =>
    rw [run_cons, ih _ fun other member => ofWire other (.tail _ member)]
    rcases ofWire event List.mem_cons_self with rfl | ⟨call, rfl⟩ | rfl
    · rfl
    · rfl
    · simp only [step, resume]
      split
      · rfl
      · split
        · rfl
        · split
          · exact loop _ _
          · rfl

/-- Whatever happens to an outbound queue, in any order, its one writer hands over one line after
another in the order of the queue, and settles every call once, with what became of its entry. -/
theorem single_writer (maxPending : Nat) (events : List (OutboundEvent Key Line)) :
    SingleWriter maxPending events := by
  have sound := after_sound maxPending events
  have kept := sound.toKept
  have steady := @after_steady _ _ _ maxPending events
  constructor
  case settledOnce => exact kept.accounted
  case settles =>
    obtain ⟨later, ofWire, idle⟩ := settles sound
    have same : (after maxPending (events ++ later)).asked = (after maxPending events).asked := by
      rw [after_append]
      exact run_asked _ later ofWire
    refine ⟨later, ofWire, same, fun call asked => ?_⟩
    rw [← after_append] at idle
    have soundLater := after_sound maxPending (events ++ later)
    have empty : (after maxPending (events ++ later)).queue = [] := by
      by_contra waits
      have held := soundLater.waits waits
      rw [idle] at held
      cases held
    have count := soundLater.accounted call
    rw [idle, empty, List.countP_nil, if_neg (Option.some_ne_none call).symm, same,
      if_pos asked] at count
    exact count
  case accepted =>
    intro call told
    obtain ⟨w, member, rfl, settled⟩ := kept.accepted call told
    exact ⟨(after_reported events w member).accepted settled, w, member, rfl,
      kept.carried w.entry w.line (kept.handed w member)⟩
  case oneAtATime => exact fun before w next later writes => kept.settled_before writes
  case inOrder => exact kept.ordered
  case onePerKey => exact kept.key_count
  case unaltered =>
    intro w member later
    rw [after_append]
    obtain ⟨w', memberLater, entry, line⟩ := run_written _ later member
    rw [← after_append] at memberLater ⊢
    rw [← entry, ← line]
    exact (after_sound maxPending (events ++ later)).handed w' memberLater
  case bounded => exact kept.bounded.trans steady.1.le
  case lost =>
    intro call outcome told response
    cases outcome with
    | accepted => exact .inl rfl
    | coalesced =>
      obtain ⟨key, progress⟩ := kept.coalesced call told
      rw [response] at progress
      cases progress
    | dropped =>
      rcases kept.dropped call told with reported | ⟨key, progress⟩
      · exact .inr (.inr ⟨rfl, reported⟩)
      · rw [response] at progress
        cases progress
    | closed =>
      refine .inr (.inl ⟨rfl, ?_⟩)
      rcases kept.lost call told with closed | gone | ⟨w, member, rfl, settled⟩
      · exact .inl (steady.2.1 closed)
      · rcases steady.2.2 gone with destroyed | ended
        · exact .inr ⟨_, destroyed, .inr (.inr (.inl rfl))⟩
        · exact .inr ⟨_, ended, .inr (.inr (.inr (.inl rfl)))⟩
      · exact .inr ((after_reported events w member).closed settled)
  case works =>
    intro waits
    obtain ⟨call, held⟩ := Option.isSome_iff_exists.mp (sound.waits waits)
    obtain ⟨w, _, member, rfl⟩ := kept.find_current held
    exact ⟨w, member, held⟩
  case goesOn =>
    intro w member outcome entry rest held returned settled opened present queued
    rw [after_concat]
    exact (resume_next sound held member rfl returned settled opened present queued).1

/-- A progress call is accepted although another line was handed over for it; and a response is
lost to a failed write although neither the queue nor the wire is closed, and nothing overflowed. -/
theorem accepted_unhanded_and_lost_open :
    (∃ q : StudioOutboundQueue Nat Nat, q = after 64 [.enqueue 1 none, .enqueue 10 (some 7),
        .enqueue 20 (some 7), .wrote true, .callback 0 false, .resume, .wrote true,
        .callback 1 false, .resume] ∧
      q.asked[1]? = some (10, some 7) ∧ (1, StudioWriteOutcome.accepted) ∈ q.outcomes ∧
        q.writes.map WriteLine.line = [1, 20]) ∧
    (∃ q : StudioOutboundQueue Nat Nat,
      q = after 64 [.enqueue 1 none, .wrote true, .callback 0 true, .resume] ∧
        q.keyOf 0 = some none ∧ q.outcomes = [(0, StudioWriteOutcome.closed)] ∧
          q.closed = false ∧ q.wireGone = false ∧ q.reports = []) :=
  ⟨⟨_, rfl, by decide⟩, ⟨_, rfl, by decide⟩⟩

end StudioOutboundQueue

end Vex.Studio
