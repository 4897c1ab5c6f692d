import Vex.Bridge.Closing

/-!
# What an event can do

`Handled` lists the outcomes of an event: connections are closed, or one connection is changed in
a way that says which gate was passed and which account was charged. `Pumped` lists what the
supervisor does after an event: it issues a read or a write, gives a connection its turn on plane
6, or closes. Every invariant of the front is derived from these two lists.
-/

namespace Vex.Bridge

open Vex.Library

namespace Supervisor

def readDone (s : Supervisor) (id : Nat) : Supervisor :=
  { s with reads := Function.update s.reads id none }

def writeDone (s : Supervisor) (id : Nat) (item : DownItem) : Supervisor :=
  { s with writes := Function.update s.writes id ((s.writes id).erase item) }

/-- A handle is registered, and its `OPEN` is queued. -/
def registered (s : Supervisor) : Supervisor :=
  (({ s with
    nextConnID := s.nextConnID + 1
    order := s.order ++ [s.nextConnID] }).setConn s.nextConnID
      (Conn.new s.nextConnID).openSent).queueUp s.nextConnID .open

/-- The bytes of a read are accepted, if there are any. -/
inductive ReadTaken (s : Supervisor) (id : Nat) : List UInt8 → Conn → Supervisor → Prop
  | bytes (bytes : List UInt8) (conn conn' : Conn) (completed : Bool)
      (known : s.conns id = some conn) (accepted : conn.acceptRead bytes = .ok (completed, conn')) :
      ReadTaken s id bytes conn' (((s.readDone id).setConn id conn').record (.bytesRead id bytes))
  | nothing (conn : Conn) (known : s.conns id = some conn) :
      ReadTaken s id [] conn.readFailed ((s.readDone id).setConn id conn.readFailed)

/-- The ways in which an event breaks an invariant, and the state in which it does. -/
inductive Breaks (s : Supervisor) : FrontEvent → FlowError → Supervisor → Prop
  | credit (id bytes : Nat) (conn : Conn) (error : FlowError) (known : s.conns id = some conn)
      (refused : conn.grantCredit bytes = .error error) :
      Breaks s (.mainControl id (.credit bytes)) error s
  | data (id sequence : Nat) (payload : List UInt8) (conn : Conn) (error : FlowError)
      (known : s.conns id = some conn) (refused : conn.queueDown sequence payload = .error error) :
      Breaks s (.mainData id sequence (.chunk payload)) error s
  | «end» (id sequence : Nat) (conn : Conn) (error : FlowError) (known : s.conns id = some conn)
      (refused : conn.queueDownEnd sequence = .error error) :
      Breaks s (.mainData id sequence .fin) error s
  | read (id : Nat) (bytes : List UInt8) (failed : Option ReadError) (conn : Conn)
      (error : FlowError) (known : s.conns id = some conn) (nonempty : bytes ≠ [])
      (refused : conn.acceptRead bytes = .error error) :
      Breaks s (.connRead id bytes failed) error (s.readDone id)
  | eof (id : Nat) (bytes : List UInt8) (conn : Conn) (error : FlowError) (t : Supervisor)
      (taken : ReadTaken s id bytes conn t) (refused : conn.peerEnded = .error error) :
      Breaks s (.connRead id bytes (some .eof)) error t
  | wrote (id sequence : Nat) (bytes : List UInt8) (conn : Conn) (error : FlowError)
      (known : s.conns id = some conn) (chunk : sequence ≠ refusalSequence)
      (refused : conn.writeCompleted sequence = .error error) :
      Breaks s (.connWrote id sequence (.chunk bytes) false) error
        (s.writeDone id (sequence, .chunk bytes))

inductive Handled (s : Supervisor) : FrontEvent → Supervisor → Prop
  /-- Connections are closed, or nothing happens. -/
  | closes (event : FrontEvent) (t : Supervisor) (closes : Closes s t) (tabled : Tabled t) :
      Handled s event t
  | violated (event : FrontEvent) (error : FlowError) (u t : Supervisor)
      (breaks : Breaks s event error u) (closes : Closes (u.blamed (.flow error)) t)
      (tabled : Tabled t) : Handled s event t
  | accepted : Handled s (.accepted true) s.registered
  | admitted (id : Nat) (conn : Conn) (known : s.conns id = some conn) :
      Handled s (.mainControl id (.admission s.epoch)) (s.setConn id conn.admit_)
  | paused (id : Nat) (conn : Conn) (known : s.conns id = some conn) :
      Handled s (.mainControl id .pause) (s.setConn id conn.pause)
  | resumed (id : Nat) (conn : Conn) (known : s.conns id = some conn) :
      Handled s (.mainControl id .resume) (s.setConn id conn.resume)
  | refused (event : FrontEvent) (id : Nat) (conn : Conn) (known : s.conns id = some conn)
      (bytes : List UInt8) (why : bytes ≠ [] ∧ (event = .mainControl id (.refuse bytes) ∨
        event = .handshakeExpired id ∧ conn.handshakeSeen = false ∧
          bytes = s.timeoutRefusalBytes)) :
      Handled s event ((s.setConn id conn.refuse).startConnWrite id refusalSequence (.chunk bytes))
  /-- A refusal without bytes closes the connection. -/
  | dismissed (event : FrontEvent) (id : Nat) (conn : Conn) (known : s.conns id = some conn)
      (t : Supervisor) (closes : Closes s t) (tabled : Tabled t) (gone : t.conns id = none) :
      Handled s event t
  | credited (id bytes : Nat) (conn conn' : Conn) (known : s.conns id = some conn)
      (granted : conn.grantCredit bytes = .ok conn') :
      Handled s (.mainControl id (.credit bytes)) (s.setConn id conn')
  /-- The epoch is raised and the table emptied. -/
  | locked (connection admissionEpoch : Nat) (t : Supervisor)
      (closes : Closes { s with epoch := admissionEpoch } t) (gone : ∀ id, t.conns id = none)
      (tabled : Tabled t) :
      Handled s (.mainControl connection (.lock admissionEpoch)) t
  | queued (id sequence : Nat) (payload : List UInt8) (conn conn' : Conn)
      (known : s.conns id = some conn) (queued : conn.queueDown sequence payload = .ok conn') :
      Handled s (.mainData id sequence (.chunk payload)) (s.setConn id conn')
  | queuedEnd (id sequence : Nat) (conn conn' : Conn) (known : s.conns id = some conn)
      (queued : conn.queueDownEnd sequence = .ok conn') :
      Handled s (.mainData id sequence .fin) (s.setConn id conn')
  | readGone (id : Nat) (bytes : List UInt8) (failed : Option ReadError)
      (absent : s.conns id = none) : Handled s (.connRead id bytes failed) (s.readDone id)
  | read (id : Nat) (bytes : List UInt8) (conn : Conn) (t : Supervisor)
      (taken : ReadTaken s id bytes conn t) : Handled s (.connRead id bytes none) t
  | readEnd (id : Nat) (bytes : List UInt8) (conn conn' : Conn) (t : Supervisor)
      (taken : ReadTaken s id bytes conn t) (ended : conn.peerEnded = .ok conn') :
      Handled s (.connRead id bytes (some .eof)) (t.setConn id conn')
  | readFailed (id : Nat) (bytes : List UInt8) (error : ReadError) (conn : Conn)
      (u t : Supervisor) (taken : ReadTaken s id bytes conn u) (closes : Closes u t)
      (tabled : Tabled t) (gone : t.conns id = none) :
      Handled s (.connRead id bytes (some error)) t
  | wroteGone (id sequence : Nat) (item : StreamItem UInt8) (failed : Bool)
      (absent : s.conns id = none) :
      Handled s (.connWrote id sequence item failed) (s.writeDone id (sequence, item))
  /-- A refusal was written, or a write failed. -/
  | wroteLast (id sequence : Nat) (item : StreamItem UInt8) (failed : Bool) (conn : Conn)
      (known : s.conns id = some conn) (t : Supervisor)
      (closes : Closes (s.writeDone id (sequence, item)) t) (tabled : Tabled t)
      (gone : t.conns id = none) : Handled s (.connWrote id sequence item failed) t
  | wroteEnd (id sequence : Nat) (conn : Conn) (known : s.conns id = some conn) :
      Handled s (.connWrote id sequence .fin false)
        (((s.writeDone id (sequence, .fin)).record (.wrote id sequence .fin)).setConn id
          conn.endCompleted)
  | wrote (id sequence : Nat) (bytes : List UInt8) (conn conn' : Conn) (ackThrough : Nat)
      (known : s.conns id = some conn) (chunk : sequence ≠ refusalSequence)
      (completed : conn.writeCompleted sequence = .ok (ackThrough, conn')) :
      Handled s (.connWrote id sequence (.chunk bytes) false)
        ((((s.writeDone id (sequence, .chunk bytes)).record
          (.wrote id sequence (.chunk bytes))).setConn id conn').queueUp id (.writeDone ackThrough))

/-- The outcomes of what the supervisor does after an event. -/
inductive Pumped (s : Supervisor) : Supervisor → Prop
  | closes (t : Supervisor) (closes : Closes s t) (tabled : Tabled t) : Pumped s t
  | read (id : Nat) (conn : Conn) (known : s.conns id = some conn)
      (positive : 0 < conn.readBudget) :
      Pumped s ((s.setConn id conn.readIssued).startConnRead id conn.readBudget)
  | write (id : Nat) (conn conn' : Conn) (item : DownItem) (known : s.conns id = some conn)
      (next : conn.nextDown = some (item, conn')) :
      Pumped s ((s.setConn id conn').startConnWrite id item.1 item.2)
  | turn (id : Nat) (conn : Conn) (item : StreamItem UInt8) (rest : List (StreamItem UInt8))
      (roundRobin : Nat) (known : s.conns id = some conn) (waits : conn.pendingUp = item :: rest) :
      Pumped s { s.setConn id { conn with
          pendingUp := rest
          throughDataSeq := s.dataUp.sequence } with
        dataUp := {
          sequence := s.dataUp.sequence + 1
          busy := true
          wire := s.dataUp.wire ++ [(id, s.dataUp.sequence, item)] }
        roundRobin := roundRobin }

/-- All that the supervisor does after an event. -/
abbrev Pumps : Supervisor → Supervisor → Prop := Relation.ReflTransGen Pumped

variable {s t u : Supervisor}

/-! ## The table -/

variable {id : Nat} {conn : Conn}

theorem setConn_tabled (tabled : Tabled s) (known : s.conns id = some conn) (conn' : Conn)
    (named : conn'.id = conn.id) (unclosed : conn'.state ≠ .closed) :
    Tabled (s.setConn id conn') where
  named other changed known' := by
    by_cases same : other = id
    · subst same
      obtain rfl : conn' = changed := by simpa [setConn] using known'
      exact named.trans (tabled.named _ conn known)
    · exact tabled.named other changed (by simpa [setConn, same] using known')
  unclosed other changed known' := by
    by_cases same : other = id
    · subst same
      obtain rfl : conn' = changed := by simpa [setConn] using known'
      exact unclosed
    · exact tabled.unclosed other changed (by simpa [setConn, same] using known')
  listed other := by
    by_cases same : other = id
    · subst same
      simp [setConn, tabled.listed, known]
    · simp [setConn, same, tabled.listed]
  nodup := tabled.nodup
  handedOut := tabled.handedOut
  ended := tabled.ended

theorem Tabled.new (tabled : Tabled s) (next : s.nextConnID ≤ id) : s.conns id = none := by
  cases known : s.conns id with
  | none => rfl
  | some conn =>
    have old := tabled.handedOut id ((tabled.listed id).mpr (by simp [known]))
    omega

theorem registered_tabled (tabled : Tabled s) (running : s.terminal = false) : Tabled s.registered := by
  have fresh := tabled.new (Nat.le_refl s.nextConnID)
  refine queueUp_tabled ⟨fun id conn known => ?_, fun id conn known => ?_, fun id => ?_, ?_,
    fun id member => ?_, fun done => ?_⟩ _ _
  · by_cases same : id = s.nextConnID
    · subst same
      obtain rfl : (Conn.new s.nextConnID).openSent = conn := by simpa [setConn] using known
      rfl
    · exact tabled.named id conn (by simpa [setConn, same] using known)
  · by_cases same : id = s.nextConnID
    · subst same
      obtain rfl : (Conn.new s.nextConnID).openSent = conn := by simpa [setConn] using known
      simp [Conn.openSent, Conn.new]
    · exact tabled.unclosed id conn (by simpa [setConn, same] using known)
  · by_cases same : id = s.nextConnID
    · simp [setConn, same]
    · simp [setConn, same, tabled.listed]
  · refine List.nodup_append.mpr ⟨tabled.nodup, by simp, fun id member other last => ?_⟩
    have old := tabled.handedOut id member
    have new : other = s.nextConnID := by simpa using last
    omega
  · have old := fun member => tabled.handedOut id member
    rcases List.mem_append.mp member with member | member
    · exact Nat.lt_succ_of_lt (old member)
    · rw [List.mem_singleton.mp member]
      exact Nat.lt_succ_self _
  · have never : s.terminal = true := done
    rw [running] at never
    cases never

/-! ## The outcomes of an event -/

theorem Closes.of_setConn (known : s.conns id = some conn) (conn' : Conn)
    (through : conn'.throughDataSeq = conn.throughDataSeq) (closes : Closes (s.setConn id conn') t)
    (gone : t.conns id = none) : Closes s t where
  conns other := by
    by_cases same : other = id
    · exact .inr (same ▸ gone)
    · simpa [setConn, same] using closes.conns other
  epoch := closes.epoch
  nextConnID := closes.nextConnID
  sequence := closes.sequence
  wire := closes.wire
  reads := closes.reads
  writes := closes.writes
  history := closes.history
  acks := closes.acks
  opens := closes.opens
  closings other payload through' member closing := by
    rcases closes.closings other payload through' member closing with member | ⟨conn'', there, out, same⟩
    · exact .inl member
    · by_cases tag : other = id
      · subst tag
        obtain rfl : conn' = conn'' := by simpa [setConn] using there
        exact .inr ⟨conn, known, out, same.trans through⟩
      · exact .inr ⟨conn'', by simpa [setConn, tag] using there, out, same⟩
  blame := closes.blame

section
variable (tabled : Tabled s)
include tabled

theorem handleAdmit_handled (id admissionEpoch : Nat) :
    Handled s (.mainControl id (.admission admissionEpoch)) (s.handleAdmit id admissionEpoch) := by
  unfold handleAdmit
  split
  · exact .closes _ _ (.refl s) tabled
  · rename_i current
    obtain rfl : admissionEpoch = s.epoch := not_not.mp current
    rw [tabled.live id]
    cases known : s.conns id with
    | none => exact .closes _ _ (.refl s) tabled
    | some conn => exact .admitted id conn known

theorem refuseWith_handled {event : FrontEvent} (known : s.conns id = some conn)
    (bytes : List UInt8) (why : event = .mainControl id (.refuse bytes) ∨
      event = .handshakeExpired id ∧ conn.handshakeSeen = false ∧ bytes = s.timeoutRefusalBytes) :
    Handled s event (s.refuseWith id conn bytes) := by
  unfold refuseWith
  dsimp only
  split
  · have known' : (s.setConn id conn.refuse).conns id = some conn.refuse := by simp [setConn]
    obtain ⟨closes, tabled', gone⟩ := closeConn_spec
      (setConn_tabled tabled known conn.refuse rfl (by simp [Conn.refuse])) known'
      .commandedClose
    exact .dismissed _ id conn known _
      (Closes.of_setConn known conn.refuse rfl closes gone) tabled' gone
  · rename_i nonempty
    exact .refused _ id conn known bytes ⟨nonempty, why⟩

theorem handleCredit_handled (running : s.terminal = false) (id bytes : Nat) :
    Handled s (.mainControl id (.credit bytes)) (s.handleCredit id bytes) := by
  unfold handleCredit
  rw [tabled.live id]
  cases known : s.conns id with
  | none => exact .closes _ _ (.refl s) tabled
  | some conn =>
    dsimp only
    cases granted : conn.grantCredit bytes with
    | error error =>
      obtain ⟨closes, tabled'⟩ := failFlow_spec tabled running error
      exact .violated _ error s _ (.credit id bytes conn error known granted) closes tabled'
    | ok conn' => exact .credited id bytes conn conn' known granted

theorem noteEpoch_spec : Closes s s.noteEpoch ∧ Tabled s.noteEpoch := by
  unfold noteEpoch
  split
  · have flagged : Tabled { s with epochExhaustionLogged := true } := tabled.congr rfl rfl rfl rfl
    refine ⟨?_, queueUp_tabled flagged _ _⟩
    have all := reportError_closes { s with epochExhaustionLogged := true } .admissionEpochExhausted
    exact ⟨all.conns, all.epoch, all.nextConnID, all.sequence, all.wire, all.reads, all.writes,
      all.history, all.acks, all.opens, all.closings, all.blame⟩
  · exact ⟨.refl s, tabled⟩

theorem handleLock_spec (admissionEpoch : Nat) :
    Closes { s with epoch := admissionEpoch } (s.handleLock admissionEpoch) ∧
      Tabled (s.handleLock admissionEpoch) ∧ ∀ id, (s.handleLock admissionEpoch).conns id = none := by
  have noted := noteEpoch_spec
    (tabled.congr (t := { s with epoch := admissionEpoch }) rfl rfl rfl rfl)
  obtain ⟨closes, tabled', gone⟩ := closeAll_spec noted.2 .commandedClose
  have queued := queueUp_closes
    (s := ({ s with epoch := admissionEpoch }.noteEpoch.closeAll .commandedClose).1)
    0 (.lockAck ({ s with epoch := admissionEpoch }.noteEpoch.closeAll .commandedClose).1.epoch
      ({ s with epoch := admissionEpoch }.noteEpoch.closeAll .commandedClose).2) rfl rfl rfl
  refine ⟨(noted.1.trans closes).trans queued, queueUp_tabled tabled' _ _, fun id => ?_⟩
  rcases queued.conns id with same | absent
  · exact same.trans (gone id)
  · exact absent

theorem handleLock_handled (connection admissionEpoch : Nat) :
    Handled s (.mainControl connection (.lock admissionEpoch)) (s.handleLock admissionEpoch) := by
  obtain ⟨closes, tabled', gone⟩ := handleLock_spec tabled admissionEpoch
  exact .locked connection admissionEpoch _ closes gone tabled'

theorem handleDown_handled (running : s.terminal = false) (id sequence : Nat)
    (item : StreamItem UInt8) :
    Handled s (.mainData id sequence item) (s.handleDown id sequence item) := by
  unfold handleDown
  rw [tabled.live id]
  cases known : s.conns id with
  | none => exact .closes _ _ (.refl s) tabled
  | some conn =>
    cases item with
    | chunk payload =>
      dsimp only
      cases queued : conn.queueDown sequence payload with
      | error error =>
        obtain ⟨closes, tabled'⟩ := failFlow_spec tabled running error
        exact .violated _ error s _ (.data id sequence payload conn error known queued) closes
          tabled'
      | ok conn' => exact .queued id sequence payload conn conn' known queued
    | fin =>
      dsimp only
      cases queued : conn.queueDownEnd sequence with
      | error error =>
        obtain ⟨closes, tabled'⟩ := failFlow_spec tabled running error
        exact .violated _ error s _ (.end id sequence conn error known queued) closes tabled'
      | ok conn' => exact .queuedEnd id sequence conn conn' known queued

theorem handleControl_handled (running : s.terminal = false) (connection : Nat)
    (payload : ControlDown) :
    Handled s (.mainControl connection payload) (s.handleControl connection payload) := by
  cases payload with
  | hello =>
    obtain ⟨closes, tabled'⟩ := fail_closes tabled running .malformedMainFrame .duplicateHello rfl
    exact .closes _ _ closes tabled'
  | admission admissionEpoch => exact handleAdmit_handled tabled connection admissionEpoch
  | refuse bytes =>
    unfold handleControl handleRefuse
    rw [tabled.live connection]
    cases known : s.conns connection with
    | none => exact .closes _ _ (.refl s) tabled
    | some conn => exact refuseWith_handled tabled known bytes (.inl rfl)
  | credit bytes => exact handleCredit_handled tabled running connection bytes
  | pause =>
    unfold handleControl
    rw [tabled.live connection]
    cases known : s.conns connection with
    | none => exact .closes _ _ (.refl s) tabled
    | some conn => exact .paused connection conn known
  | resume =>
    unfold handleControl
    rw [tabled.live connection]
    cases known : s.conns connection with
    | none => exact .closes _ _ (.refl s) tabled
    | some conn => exact .resumed connection conn known
  | close =>
    unfold handleControl
    rw [tabled.live connection]
    cases known : s.conns connection with
    | none => exact .closes _ _ (.refl s) tabled
    | some conn =>
      obtain ⟨closes, tabled', -⟩ := closeConn_spec tabled known .commandedClose
      exact .closes _ _ closes tabled'
  | lock admissionEpoch => exact handleLock_handled tabled connection admissionEpoch
  | quit deadlineMs =>
    change Handled s _ s.handleQuit
    unfold handleQuit
    split
    · exact .closes _ _ (.refl s) tabled
    · refine .closes _ _ ?_ (tabled.congr rfl rfl rfl rfl)
      exact ⟨fun _ => .inl rfl, rfl, rfl, rfl, rfl, rfl, rfl, ⟨[], by simp⟩, fun _ => rfl, rfl,
        fun _ _ _ member _ => .inl member, id⟩
  | ping nonce =>
    exact .closes _ _ (queueUp_closes 0 (.pong nonce) rfl rfl rfl) (queueUp_tabled tabled _ _)

end

theorem ReadTaken.tabled {bytes : List UInt8} (tabled : Tabled s)
    (taken : ReadTaken s id bytes conn t) : Tabled t ∧ t.conns id = some conn := by
  cases taken with
  | bytes _ before _ completed known accepted =>
    have kept : conn.id = before.id ∧ conn.state = before.state := by
      obtain ⟨_, _, rfl⟩ := Conn.acceptRead_spec accepted
      exact ⟨rfl, rfl⟩
    have changed := setConn_tabled (s := s.readDone id) (tabled.congr rfl rfl rfl rfl) known _ kept.1
      (kept.2 ▸ tabled.unclosed id before known)
    exact ⟨changed.congr rfl rfl rfl rfl, by simp [setConn, record]⟩
  | nothing before known =>
    exact ⟨setConn_tabled (s := s.readDone id) (tabled.congr rfl rfl rfl rfl) known _ rfl
      (tabled.unclosed id before known), by simp [setConn]⟩

theorem ReadTaken.running {bytes : List UInt8} (taken : ReadTaken s id bytes conn t) :
    t.terminal = s.terminal := by
  cases taken <;> rfl

theorem handleReadError_handled {bytes : List UInt8} (tabled : Tabled s)
    (running : s.terminal = false) (taken : ReadTaken s id bytes conn t) (failed : Option ReadError)
    :
    Handled s (.connRead id bytes failed) (t.handleReadError id conn failed) := by
  obtain ⟨tabled', known⟩ := taken.tabled tabled
  have running' : t.terminal = false := taken.running.trans running
  cases failed with
  | none => exact .read id bytes conn t taken
  | some error =>
    have closed : ∀ reason, Handled s (.connRead id bytes (some error)) (t.closeConn conn reason) := by
      intro reason
      obtain ⟨closes, tabled'', gone⟩ := closeConn_spec tabled' known reason
      exact .readFailed id bytes error conn t _ taken closes tabled'' gone
    cases error with
    | eof =>
      unfold handleReadError
      cases ended : conn.peerEnded with
      | error error =>
        obtain ⟨closes, tabled''⟩ := failFlow_spec tabled' running' error
        exact .violated _ error t _ (.eof id bytes conn error t taken ended) closes tabled''
      | ok conn' => exact .readEnd id bytes conn conn' t taken ended
    | peerGone => exact closed _
    | other => exact closed _

theorem handleConnRead_handled (tabled : Tabled s) (running : s.terminal = false) (id : Nat)
    (bytes : List UInt8) (failed : Option ReadError) :
    Handled s (.connRead id bytes failed) (s.handleConnRead id bytes failed) := by
  have tabled' : Tabled (s.readDone id) := tabled.congr rfl rfl rfl rfl
  have found : (s.readDone id).live id = s.conns id := tabled'.live id
  unfold readDone at found
  unfold handleConnRead
  dsimp only
  rw [found]
  cases known : s.conns id with
  | none => exact .readGone id bytes failed known
  | some conn =>
    dsimp only
    split
    · rename_i nonempty
      cases accepted : conn.acceptRead bytes with
      | error error =>
        obtain ⟨closes, tabled''⟩ := failFlow_spec tabled' running error
        exact .violated _ error _ _ (.read id bytes failed conn error known
          (List.ne_nil_of_length_pos nonempty) accepted) closes tabled''
      | ok taken =>
        exact handleReadError_handled tabled running
          (.bytes bytes conn taken.2 taken.1 known accepted) failed
    · rename_i empty
      obtain rfl : bytes = [] := List.eq_nil_of_length_eq_zero (Nat.eq_zero_of_not_pos empty)
      exact handleReadError_handled tabled running (.nothing conn known) failed

theorem handleConnWrote_handled (tabled : Tabled s) (running : s.terminal = false)
    (id sequence : Nat) (item : StreamItem UInt8) (failed : Bool) :
    Handled s (.connWrote id sequence item failed) (s.handleConnWrote id sequence item failed) := by
  have tabled' : Tabled (s.writeDone id (sequence, item)) := tabled.congr rfl rfl rfl rfl
  have found : (s.writeDone id (sequence, item)).live id = s.conns id := tabled'.live id
  unfold writeDone at found
  unfold handleConnWrote
  dsimp only
  rw [found]
  cases known : s.conns id with
  | none => exact .wroteGone id sequence item failed known
  | some conn =>
    dsimp only
    split
    · obtain ⟨closes, tabled'', gone⟩ := closeConn_spec tabled'
        (show (s.writeDone id (sequence, item)).conns id = some conn from known) .commandedClose
      exact .wroteLast id sequence item failed conn known _ closes tabled'' gone
    · rename_i chunk
      cases failed with
      | true =>
        rw [if_pos rfl]
        have known' : ((s.writeDone id (sequence, item)).setConn id conn.writeFailed).conns id =
            some conn.writeFailed := by simp [setConn]
        obtain ⟨closes, tabled'', gone⟩ := closeConn_spec (setConn_tabled tabled'
          (show (s.writeDone id (sequence, item)).conns id = some conn from known)
          conn.writeFailed rfl (tabled.unclosed id conn known)) known' .ioError
        exact .wroteLast id sequence item true conn known _
          (Closes.of_setConn (s := s.writeDone id (sequence, item)) known conn.writeFailed
            rfl closes gone) tabled'' gone
      | false =>
        rw [if_neg (by decide)]
        cases item with
        | fin => exact .wroteEnd id sequence conn known
        | chunk bytes =>
          have other : sequence ≠ refusalSequence := by
            intro same
            exact chunk ⟨same, by simp [StreamItem.isFin]⟩
          rw [if_neg (by simp [StreamItem.isFin])]
          cases completed : conn.writeCompleted sequence with
          | error error =>
            obtain ⟨closes, tabled''⟩ := failFlow_spec tabled' running error
            exact .violated _ error _ _
              (.wrote id sequence bytes conn error known other completed) closes tabled''
          | ok done =>
            exact .wrote id sequence bytes conn done.2 done.1 known other completed

theorem handle_handled (tabled : Tabled s) (running : s.terminal = false) (event : FrontEvent) :
    Handled s event (s.handle event) := by
  have failing : ∀ code failure, failure.accuses = false → Handled s event (s.fail code failure) := by
    intro code failure innocent
    obtain ⟨closes, tabled'⟩ := fail_closes tabled running code failure innocent
    exact .closes _ _ closes tabled'
  have finishing : Handled s event s.finish := by
    obtain ⟨closes, tabled'⟩ := finish_spec tabled
    exact .closes _ _ closes tabled'
  have idling : ∀ t : Supervisor, t.conns = s.conns → t = { s with
      controlUp := { s.controlUp with busy := t.controlUp.busy }
      dataUp := { s.dataUp with busy := t.dataUp.busy } } →
      Closes s t ∧ Tabled t ∧ t.terminal = false := by
    intro t _ same
    rw [same]
    exact ⟨⟨fun _ => .inl rfl, rfl, rfl, rfl, rfl, rfl, rfl, ⟨[], by simp⟩, fun _ => rfl, rfl,
      fun _ _ _ member _ => .inl member, id⟩, tabled.congr rfl rfl rfl rfl, running⟩
  have written : ∀ (t : Supervisor) (failed : Bool), Closes s t ∧ Tabled t ∧ t.terminal = false →
      Handled s event (if failed then t.fail .planeWriteFailed .planeWriteFailed else t) := by
    rintro t failed ⟨closes, tabled', running'⟩
    cases failed with
    | true =>
      obtain ⟨closes', tabled''⟩ := fail_closes tabled' running' .planeWriteFailed
        .planeWriteFailed rfl
      exact .closes _ _ (closes.trans closes') tabled''
    | false => exact .closes _ _ closes tabled'
  cases event with
  | mainControl connection payload => exact handleControl_handled tabled running connection payload
  | mainData connection sequence item => exact handleDown_handled tabled running connection sequence item
  | mainMalformed => exact failing _ _ rfl
  | planeEOF => exact finishing
  | planeReadFailed => exact failing _ _ rfl
  | controlWritten failed | dataWritten failed => exact written _ failed (idling _ rfl rfl)
  | accepted halfCloses =>
    change Handled s _ (s.handleAccepted halfCloses)
    unfold handleAccepted
    cases halfCloses with
    | false => exact failing _ _ rfl
    | true =>
      rw [if_neg (by decide)]
      split
      · exact failing _ _ rfl
      · exact .accepted
  | acceptOverflow | acceptFailed => exact .closes _ _ (.refl s) tabled
  | connRead id bytes failed => exact handleConnRead_handled tabled running id bytes failed
  | connWrote id sequence item failed =>
    exact handleConnWrote_handled tabled running id sequence item failed
  | handshakeExpired id =>
    change Handled s _ (s.handleHandshakeExpired id)
    unfold handleHandshakeExpired
    rw [tabled.live id]
    cases known : s.conns id with
    | none => exact .closes _ _ (.refl s) tabled
    | some conn =>
      dsimp only
      split
      · exact .closes _ _ (.refl s) tabled
      · rename_i unseen
        exact refuseWith_handled tabled known _ (.inr ⟨rfl, by simpa using unseen, rfl⟩)
  | parentGone => exact finishing
  | quitExpired =>
    obtain ⟨closes, tabled'⟩ := completeQuit_spec tabled
    exact .closes _ _ closes tabled'

theorem Handled.tabled {event : FrontEvent} (tabled : Tabled s) (running : s.terminal = false)
    (handled : Handled s event t) : Tabled t := by
  cases handled with
  | closes _ _ closes tabled' => exact tabled'
  | violated _ _ _ _ breaks closes tabled' => exact tabled'
  | accepted => exact registered_tabled tabled running
  | admitted id conn known =>
    refine setConn_tabled tabled known _ ?_ ?_
    · unfold Conn.admit_
      split <;> rfl
    · unfold Conn.admit_
      split
      · simp
      · exact tabled.unclosed id conn known
  | paused id conn known | resumed id conn known =>
    exact setConn_tabled tabled known _ rfl (tabled.unclosed id conn known)
  | refused _ id conn known bytes why =>
    have changed := setConn_tabled tabled known conn.refuse rfl (by simp [Conn.refuse])
    exact changed.congr rfl rfl rfl rfl
  | dismissed _ _ _ _ _ closes tabled' gone => exact tabled'
  | credited id bytes conn conn' known granted =>
    obtain ⟨_, rfl⟩ := Conn.grantCredit_spec granted
    exact setConn_tabled tabled known _ rfl (tabled.unclosed id conn known)
  | locked _ _ _ closes gone tabled' => exact tabled'
  | queued id sequence payload conn conn' known queued =>
    obtain ⟨_, rfl⟩ := Conn.queueDown_spec queued
    exact setConn_tabled tabled known _ rfl (tabled.unclosed id conn known)
  | queuedEnd id sequence conn conn' known queued =>
    obtain rfl := Conn.queueDownEnd_spec queued
    exact setConn_tabled tabled known _ rfl (tabled.unclosed id conn known)
  | readGone | wroteGone => exact tabled.congr rfl rfl rfl rfl
  | read id bytes conn t taken => exact (taken.tabled tabled).1
  | readEnd id bytes conn conn' t taken ended =>
    obtain ⟨tabled', known⟩ := taken.tabled tabled
    obtain rfl := Conn.peerEnded_spec ended
    exact setConn_tabled tabled' known _ rfl (tabled'.unclosed id conn known)
  | readFailed _ _ _ _ _ _ taken closes tabled' gone => exact tabled'
  | wroteLast _ _ _ _ _ _ _ closes tabled' gone => exact tabled'
  | wroteEnd id sequence conn known =>
    exact setConn_tabled (s := (s.writeDone id (sequence, .fin)).record (.wrote id sequence .fin))
      (tabled.congr rfl rfl rfl rfl) known _ rfl (tabled.unclosed id conn known)
  | wrote id sequence bytes conn conn' ackThrough known chunk completed =>
    obtain ⟨window, rfl⟩ := Conn.writeCompleted_spec completed
    exact queueUp_tabled (setConn_tabled
      (s := (s.writeDone id (sequence, .chunk bytes)).record (.wrote id sequence (.chunk bytes)))
      (tabled.congr rfl rfl rfl rfl) known { conn with writeInFlight := false, window := window }
      rfl (tabled.unclosed id conn known)) _ _

/-! ## What follows an event -/

theorem nextDown_kept {conn' : Conn} {item : DownItem} (next : conn.nextDown = some (item, conn')) :
    ∃ rest, conn.pendingDown = item :: rest ∧ conn.writeInFlight = false ∧
      conn' = { conn with pendingDown := rest, writeInFlight := true } := by
  unfold Conn.nextDown at next
  split at next
  · cases next
  · rename_i head rest queue
    split_ifs at next with idle
    obtain ⟨rfl, rfl⟩ := Prod.mk.inj (Option.some.inj next)
    refine ⟨rest, queue, ?_, rfl⟩
    cases busy : conn.writeInFlight with
    | false => rfl
    | true => exact absurd (.inl busy) idle

theorem Pumped.tabled (tabled : Tabled s) (pumped : Pumped s t) : Tabled t := by
  cases pumped with
  | closes _ closes tabled' => exact tabled'
  | read id conn known positive =>
    have changed := setConn_tabled tabled known conn.readIssued rfl (by
      unfold Conn.readIssued
      dsimp only
      split
      · simp
      · exact tabled.unclosed id conn known)
    exact changed.congr rfl rfl rfl rfl
  | write id conn conn' item known next =>
    obtain ⟨rest, -, -, rfl⟩ := nextDown_kept next
    have changed := setConn_tabled tabled known
      { conn with pendingDown := rest, writeInFlight := true } rfl
      (tabled.unclosed id conn known)
    exact changed.congr rfl rfl rfl rfl
  | turn id conn item rest roundRobin known waits =>
    have changed := setConn_tabled tabled known
      { conn with pendingUp := rest, throughDataSeq := s.dataUp.sequence } rfl
      (tabled.unclosed id conn known)
    exact changed.congr rfl rfl rfl rfl

theorem Pumps.tabled (tabled : Tabled s) (pumps : Pumps s t) : Tabled t := by
  induction pumps with
  | refl => exact tabled
  | tail _ pumped ih => exact pumped.tabled ih

section
variable (tabled : Tabled s)
include tabled

theorem pumpRead_pumps (id : Nat) : Pumps s (s.pumpRead id) := by
  unfold pumpRead
  rw [tabled.live id]
  cases known : s.conns id with
  | none => exact .refl
  | some conn =>
    dsimp only
    split
    · exact .refl
    · rename_i wants
      rw [tabled.named id conn known]
      exact .single (.read id conn known (Nat.pos_of_ne_zero fun zero => wants (.inr zero)))

theorem pumpWrite_pumps (id : Nat) : Pumps s (s.pumpWrite id) := by
  unfold pumpWrite
  rw [tabled.live id]
  cases known : s.conns id with
  | none => exact .refl
  | some conn =>
    dsimp only
    cases next : conn.nextDown with
    | none => exact .refl
    | some found =>
      obtain ⟨item, conn'⟩ := found
      obtain ⟨rest, -, -, same⟩ := nextDown_kept next
      have named : conn'.id = id := by
        rw [same]
        exact tabled.named id conn known
      dsimp only
      rw [named]
      exact .single (.write id conn conn' item known next)

theorem pumpConnIO_pumps : Pumps s s.pumpConnIO := by
  unfold pumpConnIO
  generalize s.order = ids
  induction ids generalizing s with
  | nil => exact .refl
  | cons id rest ih =>
    rw [List.foldl_cons]
    have first := pumpRead_pumps tabled id
    have second := pumpWrite_pumps (first.tabled tabled) id
    have both : Pumps s ((s.pumpRead id).pumpWrite id) := first.trans second
    exact both.trans (ih (both.tabled tabled))

theorem pumpDataUp_pumps : Pumps s s.pumpDataUp := by
  unfold pumpDataUp
  split
  · exact .refl
  · split
    · exact .refl
    · rename_i index found
      split
      · exact .refl
      · rename_i id listed
        split
        · exact .refl
        · rename_i conn known
          have upward : conn.HasUpward = true := by
            have chosen := List.find?_some found
            rw [listed] at chosen
            simpa [known] using chosen
          cases waits : conn.pendingUp with
          | nil => simp [Conn.HasUpward, waits] at upward
          | cons item rest =>
            have took : conn.takeUpward s.dataUp.sequence = .ok (item, { conn with
                pendingUp := rest
                throughDataSeq := s.dataUp.sequence }) := by
              unfold Conn.takeUpward
              rw [waits]
            obtain rfl := tabled.named id conn known
            rw [took]
            exact .single (.turn conn.id conn item rest _ known waits)

theorem pump_pumps : Pumps s s.pump := by
  have first := pumpConnIO_pumps tabled
  obtain ⟨control, controlled⟩ := pumpControlUp_spec (first.tabled tabled)
  have second : Pumps s s.pumpConnIO.pumpControlUp.pumpDataUp :=
    (first.tail (.closes _ control controlled)).trans (pumpDataUp_pumps controlled)
  obtain ⟨quit, quitted⟩ := maybeFinishQuit_spec (second.tabled tabled)
  exact second.tail (.closes _ quit quitted)

theorem controlIdle_spec : Closes s { s with controlUp := { s.controlUp with busy := false } } ∧
      Tabled { s with controlUp := { s.controlUp with busy := false } } :=
  ⟨⟨fun _ => .inl rfl, rfl, rfl, rfl, rfl, rfl, rfl, ⟨[], by simp⟩, fun _ => rfl, rfl,
    fun _ _ _ member _ => .inl member, id⟩, tabled.congr rfl rfl rfl rfl⟩

theorem flushControlUp_spec (event : FrontEvent) :
    Closes s (s.flushControlUp event) ∧ Tabled (s.flushControlUp event) := by
  unfold flushControlUp
  split
  · obtain ⟨idle, tabled'⟩ := controlIdle_spec tabled
    obtain ⟨closes, flushed⟩ := pumpControlUp_spec tabled'
    exact ⟨idle.trans closes, flushed⟩
  · exact ⟨.refl s, tabled⟩

theorem step_cases (event : FrontEvent) :
    s.terminal = true ∧ Closes s (s.step event) ∧ Tabled (s.step event) ∨
      s.terminal = false ∧ Handled s event (s.handle event) ∧ Tabled (s.handle event) ∧
        Pumps (s.handle event) (s.step event) := by
  unfold step
  cases done : s.terminal with
  | true =>
    obtain ⟨closes, flushed⟩ := flushControlUp_spec tabled event
    exact .inl ⟨rfl, closes, flushed⟩
  | false =>
    have handled := handle_handled tabled done event
    have tabled' := handled.tabled tabled done
    refine .inr ⟨rfl, handled, tabled', ?_⟩
    rw [if_neg (by decide)]
    dsimp only
    split
    · obtain ⟨closes, flushed⟩ := pumpControlUp_spec tabled'
      exact .single (.closes _ closes flushed)
    · have pumped := pump_pumps tabled'
      split
      · obtain ⟨closes, flushed⟩ := pumpControlUp_spec (pumped.tabled tabled')
        exact pumped.tail (.closes _ closes flushed)
      · exact pumped

theorem step_tabled (event : FrontEvent) : Tabled (s.step event) := by
  rcases step_cases tabled event with ⟨-, -, tabled'⟩ | ⟨-, -, tabled', pumps⟩
  · exact tabled'
  · exact pumps.tabled tabled'

end

theorem start_tabled (initialAdmissionEpoch : Nat) (timeoutRefusalBytes : List UInt8) :
    Tabled (start initialAdmissionEpoch timeoutRefusalBytes) where
  named _ _ known := by cases known
  unclosed _ _ known := by cases known
  listed _ := by simp [start]
  nodup := List.nodup_nil
  handedOut _ member := by cases member
  ended _ := rfl

end Supervisor

end Vex.Bridge
