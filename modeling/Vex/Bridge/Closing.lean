import Vex.Bridge.Supervisor

/-!
# The table of connections, and what closing does to it

The table and the rotation list the same connections, each under its id, none of them closed, and
every id was handed out before. `Closes` is what the supervisor may do to end things: connections
leave the table, each with its `PEER_CLOSED`, and the account of everything else stays as it is.
A connection that left the table never comes back.
-/

namespace Vex.Bridge

open Vex.Library

namespace Supervisor

/-- The frames that go up plane 4: handed over, and waiting. -/
def controlFrames (s : Supervisor) : List ControlUpFrame := s.controlUp.wire ++ s.upPending

def accused (s : Supervisor) : Bool := s.failures.any Failure.accuses

structure Tabled (s : Supervisor) : Prop where
  named : ∀ id conn, s.conns id = some conn → conn.id = id
  unclosed : ∀ id conn, s.conns id = some conn → conn.state ≠ .closed
  listed : ∀ id, id ∈ s.order ↔ (s.conns id).isSome
  nodup : s.order.Nodup
  handedOut : ∀ id ∈ s.order, id < s.nextConnID
  ended : s.terminal = true → s.order = []

/-- Connections are closed, and nothing else happens. -/
structure Closes (s t : Supervisor) : Prop where
  conns : ∀ id, t.conns id = s.conns id ∨ t.conns id = none
  epoch : t.epoch = s.epoch
  nextConnID : t.nextConnID = s.nextConnID
  sequence : t.dataUp.sequence = s.dataUp.sequence
  wire : t.dataUp.wire = s.dataUp.wire
  reads : t.reads = s.reads
  writes : t.writes = s.writes
  history : ∃ ids : List Nat, t.history = s.history ++ ids.map .closed
  acks : ∀ id, acksOf id t.controlFrames = acksOf id s.controlFrames
  opens : opensOf t.controlFrames = opensOf s.controlFrames
  closings : ∀ id payload through, (id, payload) ∈ t.controlFrames →
    payload.closing = some through → (id, payload) ∈ s.controlFrames ∨
      ∃ conn, s.conns id = some conn ∧ t.conns id = none ∧ through = conn.throughDataSeq
  blame : t.accused = true → s.accused = true

variable {s t u : Supervisor}

theorem Tabled.live (tabled : Tabled s) (id : Nat) : s.live id = s.conns id := by
  unfold Supervisor.live
  cases known : s.conns id with
  | none => rfl
  | some conn => simp [Option.filter, tabled.unclosed id conn known]

theorem Tabled.congr (tabled : Tabled s) (conns : t.conns = s.conns) (order : t.order = s.order)
    (nextConnID : t.nextConnID = s.nextConnID) (terminal : t.terminal = s.terminal) : Tabled t where
  named id conn known := tabled.named id conn (conns ▸ known)
  unclosed id conn known := tabled.unclosed id conn (conns ▸ known)
  listed id := by rw [order, conns, tabled.listed]
  nodup := order ▸ tabled.nodup
  handedOut id member := by
    rw [nextConnID]
    exact tabled.handedOut id (order ▸ member)
  ended done := order ▸ tabled.ended (terminal ▸ done)

theorem Tabled.ending (tabled : Tabled s) (gone : ∀ id, s.conns id = none) :
    Tabled { s with terminal := true } where
  named := tabled.named
  unclosed := tabled.unclosed
  listed := tabled.listed
  nodup := tabled.nodup
  handedOut := tabled.handedOut
  ended _ := by
    refine List.eq_nil_iff_forall_not_mem.mpr fun id member => ?_
    have there := (tabled.listed id).mp member
    rw [gone id] at there
    cases there

namespace Closes

theorem refl (s : Supervisor) : Closes s s where
  conns _ := .inl rfl
  epoch := rfl
  nextConnID := rfl
  sequence := rfl
  wire := rfl
  reads := rfl
  writes := rfl
  history := ⟨[], by simp⟩
  acks _ := rfl
  opens := rfl
  closings _ _ _ member _ := .inl member
  blame := id

theorem trans (first : Closes s t) (second : Closes t u) : Closes s u where
  conns id := by
    rcases second.conns id with same | gone
    · rw [same]
      exact first.conns id
    · exact .inr gone
  epoch := second.epoch.trans first.epoch
  nextConnID := second.nextConnID.trans first.nextConnID
  sequence := second.sequence.trans first.sequence
  wire := second.wire.trans first.wire
  reads := second.reads.trans first.reads
  writes := second.writes.trans first.writes
  history := by
    obtain ⟨ids, before⟩ := first.history
    obtain ⟨later, after⟩ := second.history
    exact ⟨ids ++ later, by rw [after, before, List.map_append, List.append_assoc]⟩
  acks id := (second.acks id).trans (first.acks id)
  opens := second.opens.trans first.opens
  closings id payload through member closing := by
    rcases second.closings id payload through member closing with member | ⟨conn, there, gone, same⟩
    · rcases first.closings id payload through member closing with member | ⟨conn, there, gone, same⟩
      · exact .inl member
      · refine .inr ⟨conn, there, ?_, same⟩
        rcases second.conns id with kept | gone'
        · rw [kept, gone]
        · exact gone'
    · refine .inr ⟨conn, ?_, gone, same⟩
      rcases first.conns id with kept | gone'
      · rw [← kept, there]
      · rw [gone'] at there
        cases there
  blame := first.blame ∘ second.blame

theorem ending (closes : Closes s t) : Closes s { t with terminal := true } :=
  ⟨closes.conns, closes.epoch, closes.nextConnID, closes.sequence, closes.wire, closes.reads,
    closes.writes, closes.history, closes.acks, closes.opens, closes.closings, closes.blame⟩

theorem was (closes : Closes s t) {id : Nat} {conn : Conn} (known : t.conns id = some conn) :
    s.conns id = some conn := by
  rcases closes.conns id with same | gone
  · rw [← same, known]
  · rw [gone] at known
    cases known

end Closes

/-! ## Plane 4 -/

variable {connection : Nat} {payload : ControlUp}

theorem coalesce_spec {frames frames' : List ControlUpFrame}
    (coalesced : coalesce connection payload frames = some frames') :
    ∃ before queued frame after, frames = before ++ queued :: after ∧
      frames' = before ++ frame :: after ∧ merged connection payload queued = some frame := by
  induction frames generalizing frames' with
  | nil => cases coalesced
  | cons queued rest ih =>
    rw [coalesce] at coalesced
    split at coalesced
    · rename_i frame joined
      obtain rfl := Option.some.inj coalesced
      exact ⟨[], queued, frame, rest, rfl, rfl, joined⟩
    · obtain ⟨rest', found, rfl⟩ := Option.map_eq_some_iff.mp coalesced
      obtain ⟨before, queued', frame, after, rfl, rfl, joined⟩ := ih found
      exact ⟨queued :: before, queued', frame, after, rfl, rfl, joined⟩

theorem merged_silent {queued frame : ControlUpFrame} (silent : payload.acknowledged = none)
    (joined : merged connection payload queued = some frame) :
    queued.2.acknowledged = none ∧ frame.2.acknowledged = none ∧ queued.2.isOpen = false ∧
      frame.2.isOpen = false ∧ queued.2.closing = none ∧ frame.2.closing = none := by
  obtain ⟨tag, queued⟩ := queued
  cases payload with
  | writeDone ack => cases silent
  | error code count =>
    cases queued with
    | error code' count' =>
      simp only [merged] at joined
      split at joined
      · obtain rfl := Option.some.inj joined
        exact ⟨rfl, rfl, rfl, rfl, rfl, rfl⟩
      · cases joined
    | _ => cases joined
  | _ => cases joined

theorem collapse_closes (s : Supervisor) : Closes s s.collapse where
  conns _ := .inr rfl
  epoch := rfl
  nextConnID := rfl
  sequence := rfl
  wire := rfl
  reads := rfl
  writes := rfl
  history := ⟨[], by simp [collapse]⟩
  acks _ := rfl
  opens := rfl
  closings _ _ _ member _ := .inl member
  blame accused := by simpa [Supervisor.accused, collapse, Failure.accuses] using accused

theorem collapse_tabled (s : Supervisor) : Tabled s.collapse where
  named _ _ known := by cases known
  unclosed _ _ known := by cases known
  listed _ := by simp [collapse]
  nodup := List.nodup_nil
  handedOut _ member := by cases member
  ended _ := rfl

theorem coalesce_none (connection : Nat) (payload : ControlUp)
    (never : ∀ queued, merged connection payload queued = none) (frames : List ControlUpFrame) :
    coalesce connection payload frames = none := by
  induction frames with
  | nil => rfl
  | cons queued rest ih => rw [coalesce, never queued, ih, Option.map_none]

theorem queueUp_new (fresh : coalesce connection payload s.upPending = none) :
    s.queueUp connection payload = s.collapse ∨ s.queueUp connection payload =
      { s with upPending := s.upPending ++ [(connection, payload)] } := by
  unfold queueUp
  rw [fresh]
  split <;> rename_i full
  · cases full
  · by_cases full : s.upPending.length ≥ controlQueueBound
    · exact .inl (if_pos full)
    · exact .inr (if_neg full)

theorem queueUp_tabled (tabled : Tabled s) (connection : Nat) (payload : ControlUp) :
    Tabled (s.queueUp connection payload) := by
  unfold queueUp
  split
  · exact tabled.congr rfl rfl rfl rfl
  · split
    · exact collapse_tabled s
    · exact tabled.congr rfl rfl rfl rfl

theorem queueUp_conns (s : Supervisor) (connection : Nat) (payload : ControlUp) (id : Nat) :
    (s.queueUp connection payload).conns id = s.conns id ∨
      (s.queueUp connection payload).conns id = none := by
  unfold queueUp
  split
  · exact .inl rfl
  · split
    · exact .inr rfl
    · exact .inl rfl

@[simp] theorem queueUp_history (s : Supervisor) (connection : Nat) (payload : ControlUp) :
    (s.queueUp connection payload).history = s.history := by
  unfold queueUp
  split
  · rfl
  · split <;> rfl

@[simp] theorem queueUp_nextConnID (s : Supervisor) (connection : Nat) (payload : ControlUp) :
    (s.queueUp connection payload).nextConnID = s.nextConnID := by
  unfold queueUp
  split
  · rfl
  · split <;> rfl

theorem queueUp_closes (connection : Nat) (payload : ControlUp)
    (silent : payload.acknowledged = none) (unopened : payload.isOpen = false)
    (unclosing : payload.closing = none) : Closes s (s.queueUp connection payload) := by
  cases coalesced : coalesce connection payload s.upPending with
  | none =>
    rcases queueUp_new coalesced with full | queued
    · rw [full]
      exact collapse_closes s
    · rw [queued]
      refine ⟨fun _ => .inl rfl, rfl, rfl, rfl, rfl, rfl, rfl, ⟨[], by simp⟩, fun id => ?_, ?_, ?_, id⟩
      · unfold controlFrames
        rw [← List.append_assoc, acksOf_append, acksOf_cons_silent silent, acksOf_nil,
          List.append_nil]
      · unfold controlFrames
        rw [← List.append_assoc, opensOf_append, opensOf_cons_other unopened, opensOf_nil,
          List.append_nil]
      · intro id payload' through member closing
        unfold controlFrames at member
        rw [← List.append_assoc, List.mem_append, List.mem_singleton] at member
        rcases member with member | same
        · exact .inl member
        · rw [(Prod.mk.inj same).2, unclosing] at closing
          cases closing
  | some frames =>
    have queued : s.queueUp connection payload = { s with upPending := frames } := by
      unfold queueUp
      rw [coalesced]
    obtain ⟨before, ⟨tag, old⟩, ⟨tag', new⟩, after, split, joined, same⟩ := coalesce_spec coalesced
    obtain ⟨oldSilent, newSilent, oldShut, newShut, -, newUnclosing⟩ := merged_silent silent same
    rw [queued, joined]
    refine ⟨fun _ => .inl rfl, rfl, rfl, rfl, rfl, rfl, rfl, ⟨[], by simp⟩, fun id => ?_, ?_, ?_,
      id⟩
    · unfold controlFrames
      rw [split]
      simp only [acksOf_append, acksOf_cons_silent oldSilent, acksOf_cons_silent newSilent]
    · unfold controlFrames
      rw [split]
      simp only [opensOf_append, opensOf_cons_other oldShut, opensOf_cons_other newShut]
    · intro id payload' through member closing
      unfold controlFrames at member ⊢
      rw [split]
      simp only [List.mem_append, List.mem_cons] at member ⊢
      rcases member with member | member | same | member
      · exact .inl (.inl member)
      · exact .inl (.inr (.inl member))
      · rw [(Prod.mk.inj same).2, newUnclosing] at closing
        cases closing
      · exact .inl (.inr (.inr (.inr member)))

theorem reportError_closes (s : Supervisor) (code : ErrorCode) : Closes s (s.reportError code) :=
  queueUp_closes _ _ rfl rfl rfl

/-! ## Closing a connection -/

variable {id : Nat}

theorem forget_tabled (closed : Conn) (tabled : Tabled s) (there : id ∈ s.order) :
    Tabled ((s.setConn id closed).forget id) := by
  have others : ∀ other, other ∈ s.order.erase id ↔ other ≠ id ∧ other ∈ s.order := fun other =>
    tabled.nodup.mem_erase_iff
  have conns : ((s.setConn id closed).forget id).conns = Function.update s.conns id none := by
    simp [forget, setConn]
  refine ⟨fun other conn known => ?_, fun other conn known => ?_, fun other => ?_,
    tabled.nodup.erase id, fun other member => ?_, fun done => ?_⟩
  · rw [conns] at known
    by_cases same : other = id
    · simp [same] at known
    · rw [Function.update_of_ne same] at known
      exact tabled.named other conn known
  · rw [conns] at known
    by_cases same : other = id
    · simp [same] at known
    · rw [Function.update_of_ne same] at known
      exact tabled.unclosed other conn known
  · rw [conns]
    change other ∈ s.order.erase id ↔ _
    rw [others]
    by_cases same : other = id
    · simp [same]
    · rw [Function.update_of_ne same, tabled.listed]
      simp [same]
  · exact tabled.handedOut other ((others other).mp member).2
  · have nothing : s.order = [] := tabled.ended done
    rw [nothing] at there
    cases there

theorem closeConn_spec (tabled : Tabled s) {conn : Conn} (known : s.conns id = some conn)
    (reason : Mcp.PipeFront.PeerClosedReason) :
    Closes s (s.closeConn conn reason) ∧ Tabled (s.closeConn conn reason) ∧
      (s.closeConn conn reason).conns id = none := by
  obtain rfl := tabled.named id conn known
  have there : conn.id ∈ s.order := (tabled.listed _).mpr (by simp [known])
  unfold closeConn
  rw [if_neg (tabled.unclosed _ conn known)]
  rcases queueUp_new (s := (s.setConn conn.id conn.markClosed).record (.closed conn.id))
    (coalesce_none conn.id (.peerClosed reason conn.throughDataSeq) (fun _ => rfl) _) with full | queued
  · dsimp only
    rw [full]
    refine ⟨⟨fun other => .inr ?_, rfl, rfl, rfl, rfl, rfl, rfl, ⟨[conn.id], rfl⟩, fun _ => rfl, rfl,
      fun _ _ _ member _ => .inl member, (collapse_closes _).blame⟩, ⟨?_, ?_, ?_, List.nodup_nil, ?_, fun _ => rfl⟩, ?_⟩
    all_goals simp [forget, collapse]
  · dsimp only
    rw [queued]
    refine ⟨⟨fun other => ?_, rfl, rfl, rfl, rfl, rfl, rfl, ⟨[conn.id], rfl⟩, fun other => ?_, ?_, ?_,
      id⟩, ?_, by simp [forget]⟩
    · by_cases same : other = conn.id
      · exact .inr (by simp [forget, same])
      · exact .inl (by simp [forget, setConn, record, same])
    · change acksOf other (s.controlUp.wire ++ (s.upPending ++ _)) = _
      rw [← List.append_assoc, acksOf_append, acksOf_cons_silent rfl, acksOf_nil, List.append_nil]
      rfl
    · change opensOf (s.controlUp.wire ++ (s.upPending ++ _)) = _
      rw [← List.append_assoc, opensOf_append, opensOf_cons_other rfl, opensOf_nil, List.append_nil]
      rfl
    · intro other payload through member closing
      change (other, payload) ∈ s.controlUp.wire ++ (s.upPending ++ _) at member
      rw [← List.append_assoc, List.mem_append, List.mem_singleton] at member
      rcases member with member | same
      · exact .inl member
      · obtain ⟨rfl, rfl⟩ := Prod.mk.inj same
        obtain rfl := Option.some.inj closing
        exact .inr ⟨conn, known, by simp [forget], rfl⟩
    · exact (forget_tabled conn.markClosed tabled there).congr rfl rfl rfl rfl

theorem closeEach_spec (reason : Mcp.PipeFront.PeerClosedReason) (ids : List Nat)
    (tabled : Tabled s) :
    Closes s (closeEach reason ids s).1 ∧ Tabled (closeEach reason ids s).1 ∧
      ∀ id ∈ ids, (closeEach reason ids s).1.conns id = none := by
  induction ids generalizing s with
  | nil => exact ⟨.refl s, tabled, by simp⟩
  | cons id rest ih =>
    rw [closeEach, tabled.live id]
    cases known : s.conns id with
    | none =>
      obtain ⟨closes, tabled', gone⟩ := ih tabled
      refine ⟨closes, tabled', fun other member => ?_⟩
      rcases List.mem_cons.mp member with rfl | member
      · rcases closes.conns other with same | gone
        · rw [same, known]
        · exact gone
      · exact gone other member
    | some conn =>
      obtain ⟨closed, tabled', absent⟩ := closeConn_spec tabled known reason
      obtain ⟨closes, tabled'', gone⟩ := ih tabled'
      refine ⟨closed.trans closes, tabled'', fun other member => ?_⟩
      rcases List.mem_cons.mp member with rfl | member
      · rcases closes.conns other with same | gone
        · exact same.trans absent
        · exact gone
      · exact gone other member

theorem closeAll_spec (tabled : Tabled s) (reason : Mcp.PipeFront.PeerClosedReason) :
    Closes s (s.closeAll reason).1 ∧ Tabled (s.closeAll reason).1 ∧
      ∀ id, (s.closeAll reason).1.conns id = none := by
  obtain ⟨closes, tabled', gone⟩ := closeEach_spec reason s.order tabled
  refine ⟨closes, tabled', fun id => ?_⟩
  by_cases listed : id ∈ s.order
  · exact gone id listed
  · rw [tabled.listed] at listed
    rcases closes.conns id with same | absent
    · exact same.trans (by simpa using listed)
    · exact absent

def blamed (s : Supervisor) (failure : Failure) : Supervisor :=
  { s with failures := s.failures ++ [failure] }

theorem blamed_accused (s : Supervisor) (failure : Failure) :
    (s.blamed failure).accused = (s.accused || failure.accuses) := by
  simp [accused, blamed]

section
variable (tabled : Tabled s)
include tabled

theorem fail_spec (running : s.terminal = false) (code : ErrorCode) (failure : Failure) :
    Closes (s.blamed failure) (s.fail code failure) ∧ Tabled (s.fail code failure) := by
  unfold fail
  rw [if_neg (by simp [running])]
  obtain ⟨closes, tabled', gone⟩ :=
    closeAll_spec (queueUp_tabled tabled 0 (.error code 1)) .commandedClose
  have all := (reportError_closes s code).trans closes
  refine ⟨⟨all.conns, all.epoch, all.nextConnID, all.sequence, all.wire, all.reads, all.writes,
    all.history, all.acks, all.opens, all.closings, fun accused => ?_⟩,
    (tabled'.ending gone).congr rfl rfl rfl rfl⟩
  rw [blamed_accused, Bool.or_eq_true]
  have accused : ((s.reportError code).closeAll .commandedClose).1.accused = true ∨
      failure.accuses = true := by
    simpa [Supervisor.accused] using accused
  exact accused.imp all.blame id

theorem fail_closes (running : s.terminal = false) (code : ErrorCode) (failure : Failure)
    (innocent : failure.accuses = false) :
    Closes s (s.fail code failure) ∧ Tabled (s.fail code failure) := by
  obtain ⟨all, tabled'⟩ := fail_spec tabled running code failure
  refine ⟨⟨all.conns, all.epoch, all.nextConnID, all.sequence, all.wire, all.reads, all.writes,
    all.history, all.acks, all.opens, all.closings, fun accused => ?_⟩, tabled'⟩
  simpa [blamed_accused, innocent] using all.blame accused

theorem failFlow_spec (running : s.terminal = false) (error : FlowError) :
    Closes (s.blamed (.flow error)) (s.failFlow error) ∧ Tabled (s.failFlow error) := by
  cases error with
  | violation name | dataAfterEnd | internalInvariant => exact fail_spec tabled running _ _

theorem finish_spec : Closes s s.finish ∧ Tabled s.finish := by
  unfold finish
  split
  · exact ⟨.refl s, tabled⟩
  · obtain ⟨closes, tabled', gone⟩ := closeAll_spec tabled .commandedClose
    exact ⟨closes.ending, tabled'.ending gone⟩

theorem completeQuit_spec : Closes s s.completeQuit ∧ Tabled s.completeQuit := by
  obtain ⟨closes, tabled', gone⟩ := closeAll_spec tabled .commandedClose
  have queued := queueUp_closes (s := (s.closeAll .commandedClose).1) 0 .quitAck rfl rfl rfl
  refine ⟨(closes.trans queued).ending, (queueUp_tabled tabled' 0 .quitAck).ending ?_⟩
  intro id
  rcases queued.conns id with same | absent
  · exact same.trans (gone id)
  · exact absent

theorem pumpControlUp_spec : Closes s s.pumpControlUp ∧ Tabled s.pumpControlUp := by
  unfold pumpControlUp
  split
  · exact ⟨.refl s, tabled⟩
  · rename_i next rest pending
    split
    · exact ⟨.refl s, tabled⟩
    · refine ⟨⟨fun _ => .inl rfl, rfl, rfl, rfl, rfl, rfl, rfl, ⟨[], by simp⟩, fun id => ?_, ?_,
        fun id payload through member _ => .inl ?_, id⟩, tabled.congr rfl rfl rfl rfl⟩
      · simp [controlFrames, pending]
      · simp [controlFrames, pending]
      · simpa [controlFrames, pending] using member

theorem maybeFinishQuit_spec : Closes s s.maybeFinishQuit ∧ Tabled s.maybeFinishQuit := by
  unfold maybeFinishQuit
  split
  · exact completeQuit_spec tabled
  · exact ⟨.refl s, tabled⟩

end

end Supervisor

end Vex.Bridge
