import Vex.Bridge.SupervisorSteps
import Vex.Library.Runs

/-!
# Refusals

A refusal is written past the queue of what main sent, and past the flag that keeps one write of
that queue on the handle. So the handle has one write at a time, one refusal and nothing after it
only as long as no refusal is started on a handle that is being written or has something queued,
and nothing is queued for a connection once it is refused. `refusal_stands_alone` is that, for
every run of the front; the runs below it break the condition in one way each.
-/

namespace Vex.Bridge

open Vex.Library

def refuses (item : DownItem) : Bool := item.1 = refusalSequence && !item.2.isFin

def HandleEvent.written (id : Nat) : HandleEvent → Option DownItem
  | .writeIssued handle sequence item => if handle = id then some (sequence, item) else none
  | _ => none

namespace Supervisor

def written (s : Supervisor) (id : Nat) : List DownItem := s.history.filterMap (HandleEvent.written id)

/-- The report of a goroutine is about what the goroutine is at, and the decoder of plane 5 numbers
frames from one. -/
def Genuine (s : Supervisor) : FrontEvent → Prop
  | .mainData _ sequence _ => 0 < sequence
  | .connRead id _ _ => (s.reads id).isSome
  | .connWrote id sequence item _ => (sequence, item) ∈ s.writes id
  | _ => True

instance (s : Supervisor) (event : FrontEvent) : Decidable (s.Genuine event) := by
  cases event <;> unfold Genuine <;> infer_instance

/-- The event starts to write a refusal on a handle that is being written, or for which something
is queued. -/
def RefusesBusy (s : Supervisor) (event : FrontEvent) (id : Nat) : Prop :=
  ∃ conn, s.live id = some conn ∧ (s.writes id ≠ [] ∨ conn.pendingDown ≠ []) ∧
    ((∃ bytes, event = .mainControl id (.refuse bytes) ∧ bytes ≠ []) ∨
      event = .handshakeExpired id ∧ conn.handshakeSeen = false ∧ s.timeoutRefusalBytes ≠ [])

/-- The event brings something to write for a connection that was refused. -/
def FeedsRefused (s : Supervisor) (event : FrontEvent) (id : Nat) : Prop :=
  ∃ conn sequence item, event = .mainData id sequence item ∧ s.live id = some conn ∧
    conn.state = .refused

/-- The refusals of the front are undisturbed by the event. -/
def Undisturbed (s : Supervisor) (event : FrontEvent) : Prop :=
  ∀ id, ¬s.RefusesBusy event id ∧ ¬s.FeedsRefused event id

/-- At most one refusal is written to a handle and at most one write is outstanding on it, and no
chunk is written to it after a refusal. -/
structure RefusedOnce (s : Supervisor) (id : Nat) : Prop where
  once : ((s.written id).filter refuses).length ≤ 1
  single : (s.writes id).length ≤ 1
  last : ∀ before refusal after, s.written id = before ++ refusal :: after →
    refuses refusal = true → ∀ item ∈ after, item.2.isFin = true

/-- What a handle is at, if its refusals are undisturbed. -/
structure Fenced (s : Supervisor) (id : Nat) : Prop where
  single : (s.writes id).length ≤ 1
  last : ∀ before refusal after, s.written id = before ++ refusal :: after →
    refuses refusal = true → after = []
  unrefused : ∀ conn, s.conns id = some conn → conn.state ≠ .refused →
    (∀ item ∈ s.written id, refuses item = false) ∧
    (conn.writeInFlight = false → s.writes id = []) ∧ ∀ item ∈ conn.pendingDown, 0 < item.1
  refused : ∀ conn, s.conns id = some conn → conn.state = .refused →
    conn.pendingDown = [] ∧ ∃ bytes, s.writes id = [(refusalSequence, .chunk bytes)]
  fresh : s.nextConnID ≤ id → s.writes id = [] ∧ s.written id = []

variable {s t u : Supervisor} {id : Nat}

/-! ## What is written -/

theorem Closes.written (closes : Closes s t) (id : Nat) : t.written id = s.written id := by
  obtain ⟨ids, all⟩ := closes.history
  have nothing : (ids.map HandleEvent.closed).filterMap (HandleEvent.written id) = [] := by
    refine List.filterMap_eq_nil_iff.mpr fun event member => ?_
    obtain ⟨closed, -, rfl⟩ := List.mem_map.mp member
    rfl
  unfold Supervisor.written
  rw [all, List.filterMap_append, nothing, List.append_nil]

theorem written_startConnWrite_self (sequence : Nat) (item : StreamItem UInt8) :
    (s.startConnWrite id sequence item).written id = s.written id ++ [(sequence, item)] := by
  simp [written, startConnWrite, record, HandleEvent.written]

variable {other : Nat}

theorem written_startConnWrite_of_ne (different : other ≠ id) (sequence : Nat)
    (item : StreamItem UInt8) :
    (s.startConnWrite id sequence item).written other = s.written other := by
  simp [written, startConnWrite, record, HandleEvent.written, different.symm]

theorem Fenced.refusedOnce (fenced : Fenced s id) : RefusedOnce s id where
  once := by
    by_contra many
    obtain ⟨first, second, rest, split⟩ : ∃ first second rest,
        (s.written id).filter refuses = first :: second :: rest := by
      match found : (s.written id).filter refuses with
      | [] => simp [found] at many
      | [_] => simp [found] at many
      | first :: second :: rest => exact ⟨first, second, rest, rfl⟩
    obtain ⟨before, after, all, unrefused, refusing, later⟩ := List.filter_eq_cons_iff.mp split
    have nothing := fenced.last before first after all refusing
    rw [nothing] at later
    cases later
  single := fenced.single
  last before refusal after all refusing item member := by
    rw [fenced.last before refusal after all refusing] at member
    cases member

/-! ## What keeps the fence -/

theorem Fenced.kept (fenced : Fenced s id) (writes : t.writes id = s.writes id)
    (written : t.written id = s.written id) (next : s.nextConnID ≤ t.nextConnID)
    (same : ∀ conn', t.conns id = some conn' → ∃ conn, s.conns id = some conn ∧
      (conn'.state = .refused ↔ conn.state = .refused) ∧
      conn'.writeInFlight = conn.writeInFlight ∧ conn'.pendingDown = conn.pendingDown) :
    Fenced t id where
  single := writes ▸ fenced.single
  last := written ▸ fenced.last
  unrefused conn' known' open_ := by
    obtain ⟨conn, known, state, busy, pending⟩ := same conn' known'
    rw [written, writes, busy, pending]
    exact fenced.unrefused conn known (fun refused => open_ (state.mpr refused))
  refused conn' known' shut := by
    obtain ⟨conn, known, state, busy, pending⟩ := same conn' known'
    rw [writes, pending]
    exact fenced.refused conn known (state.mp shut)
  fresh above := by
    rw [writes, written]
    exact fenced.fresh (next.trans above)

theorem Fenced.closes (fenced : Fenced s id) (closes : Closes s t) : Fenced t id := by
  refine fenced.kept (congrFun closes.writes id) (closes.written id) closes.nextConnID.ge ?_
  intro conn' known'
  exact ⟨conn', closes.was known', Iff.rfl, rfl, rfl⟩

variable {conn : Conn}

section
variable (fenced : Fenced s id)
include fenced

theorem Fenced.setConn (known : s.conns other = some conn) (conn' : Conn)
    (state : conn'.state = .refused ↔ conn.state = .refused)
    (busy : conn'.writeInFlight = conn.writeInFlight)
    (pending : conn'.pendingDown = conn.pendingDown) : Fenced (s.setConn other conn') id := by
  refine fenced.kept rfl rfl (Nat.le_refl _) fun found known' => ?_
  by_cases same : id = other
  · subst same
    obtain rfl : conn' = found := by simpa [Supervisor.setConn] using known'
    exact ⟨conn, known, state, busy, pending⟩
  · exact ⟨found, by simpa [Supervisor.setConn, same] using known', Iff.rfl, rfl, rfl⟩

theorem Fenced.only {item : DownItem} (genuine : item ∈ s.writes id) : s.writes id = [item] := by
  have single := fenced.single
  match found : s.writes id with
  | [] => simp [found] at genuine
  | [first] =>
    rw [found, List.mem_singleton] at genuine
    rw [genuine]
  | _ :: _ :: _ => simp [found] at single

theorem Fenced.writeDone (other : Nat) (item : DownItem) (genuine : item ∈ s.writes other)
    (unrefusing : refuses item = false) : Fenced (s.writeDone other item) id := by
  by_cases same : id = other
  · subst same
    have only := fenced.only genuine
    have nothing : (s.writeDone id item).writes id = [] := by simp [Supervisor.writeDone, only]
    refine ⟨by simp [nothing], fenced.last, fun conn known open_ => ?_, fun conn known shut => ?_,
      fun above => ⟨nothing, (fenced.fresh above).2⟩⟩
    · obtain ⟨unwritten, -, positive⟩ := fenced.unrefused conn known open_
      exact ⟨unwritten, fun _ => nothing, positive⟩
    · obtain ⟨-, bytes, refusing⟩ := fenced.refused conn known shut
      rw [only, List.singleton_inj] at refusing
      rw [refusing] at unrefusing
      cases unrefusing
  · refine fenced.kept ?_ rfl (Nat.le_refl _) fun conn known => ⟨conn, known, Iff.rfl, rfl, rfl⟩
    simp [Supervisor.writeDone, same]

theorem Fenced.wrote (item : DownItem) (conn' : Conn) (genuine : item ∈ s.writes other)
    (unrefusing : refuses item = false) (known : s.conns other = some conn)
    (state : conn'.state = conn.state) (pending : conn'.pendingDown = conn.pendingDown) :
    Fenced (((s.writeDone other item).record (.wrote other item.1 item.2)).setConn other conn') id := by
  have done := fenced.writeDone other item genuine unrefusing
  have recorded : Fenced ((s.writeDone other item).record (.wrote other item.1 item.2)) id := by
    refine done.kept rfl ?_ (Nat.le_refl _) fun conn known => ⟨conn, known, Iff.rfl, rfl, rfl⟩
    simp [written, record, HandleEvent.written]
  by_cases same : id = other
  · subst same
    have nothing : (s.writeDone id item).writes id = [] := by
      simp [Supervisor.writeDone, fenced.only genuine]
    have found : (((s.writeDone id item).record (.wrote id item.1 item.2)).setConn id
        conn').conns id = some conn' := by simp [Supervisor.setConn]
    refine ⟨recorded.single, recorded.last, fun conn'' known' open_ => ?_, fun conn'' known' shut => ?_,
      recorded.fresh⟩
    · obtain rfl := Option.some.inj (found.symm.trans known')
      rw [pending]
      obtain ⟨unwritten, -, positive⟩ := recorded.unrefused conn known (state ▸ open_)
      exact ⟨unwritten, fun _ => nothing, positive⟩
    · obtain rfl := Option.some.inj (found.symm.trans known')
      rw [pending]
      exact recorded.refused conn known (state ▸ shut)
  · refine recorded.kept rfl rfl (Nat.le_refl _) fun found known' => ?_
    exact ⟨found, by simpa [Supervisor.setConn, same] using known', Iff.rfl, rfl, rfl⟩

theorem Fenced.taken {bytes : List UInt8} (taken : ReadTaken s other bytes conn t) :
    Fenced t id := by
  have done : Fenced (s.readDone other) id :=
    fenced.kept rfl rfl (Nat.le_refl _) fun conn known => ⟨conn, known, Iff.rfl, rfl, rfl⟩
  cases taken with
  | bytes _ before _ completed known accepted =>
    have kept : (conn.state = .refused ↔ before.state = .refused) ∧
        conn.writeInFlight = before.writeInFlight ∧ conn.pendingDown = before.pendingDown := by
      obtain ⟨_, _, rfl⟩ := Conn.acceptRead_spec accepted
      exact ⟨Iff.rfl, rfl, rfl⟩
    have changed := done.setConn known conn kept.1 kept.2.1 kept.2.2
    refine changed.kept rfl ?_ (Nat.le_refl _) fun conn known => ⟨conn, known, Iff.rfl, rfl, rfl⟩
    simp [written, record, HandleEvent.written]
  | nothing before known => exact done.setConn known _ Iff.rfl rfl rfl

theorem Fenced.gone (absent : t.conns id = none) (fewer : (t.writes id).Sublist (s.writes id))
    (written : t.written id = s.written id) (next : s.nextConnID ≤ t.nextConnID) : Fenced t id := by
  refine ⟨fewer.length_le.trans fenced.single, written ▸ fenced.last, ?_, ?_, fun above => ?_⟩
  · intro conn known
    rw [absent] at known
    cases known
  · intro conn known
    rw [absent] at known
    cases known
  · obtain ⟨unwriting, unwritten⟩ := fenced.fresh (next.trans above)
    rw [unwriting, List.sublist_nil] at fewer
    exact ⟨fewer, written.trans unwritten⟩

end

theorem writeDone_fewer (other : Nat) (item : DownItem) :
    ((s.writeDone other item).writes id).Sublist (s.writes id) := by
  by_cases same : id = other
  · subst same
    simp [Supervisor.writeDone, List.erase_sublist]
  · simp [Supervisor.writeDone, same]

theorem Fenced.started (fenced : Fenced s id) (conn' : Conn) (item : DownItem)
    (known : s.conns id = some conn) (open_ : conn.state ≠ .refused) (idle : s.writes id = [])
    (positive : ∀ item ∈ conn'.pendingDown, 0 < item.1) (old : s.nextConnID > id)
    (after : if conn'.state = .refused then conn'.pendingDown = [] ∧ ∃ bytes,
        item = (refusalSequence, .chunk bytes)
      else refuses item = false ∧ conn'.writeInFlight = true) :
    Fenced ((s.setConn id conn').startConnWrite id item.1 item.2) id := by
  obtain ⟨unwritten, -, -⟩ := fenced.unrefused conn known open_
  have writes : ((s.setConn id conn').startConnWrite id item.1 item.2).writes id = [item] := by
    simp [startConnWrite, record, Supervisor.setConn, idle]
  have written : ((s.setConn id conn').startConnWrite id item.1 item.2).written id =
      s.written id ++ [item] := written_startConnWrite_self item.1 item.2
  have conns : ((s.setConn id conn').startConnWrite id item.1 item.2).conns id = some conn' := by
    simp [startConnWrite, record, Supervisor.setConn]
  refine ⟨by simp [writes], ?_, ?_, ?_, fun above => absurd above (Nat.not_le.mpr old)⟩
  · intro before refusal later all refusing
    rw [written] at all
    rcases List.eq_nil_or_concat later with nothing | ⟨front, final, rfl⟩
    · exact nothing
    · have same : s.written id ++ [item] = (before ++ refusal :: front) ++ [final] := by
        rw [all]
        simp
      have front' : s.written id = before ++ refusal :: front := (List.append_inj' same rfl).1
      have never := unwritten refusal (by rw [front']; simp)
      exact absurd (refusing.symm.trans never) (by decide)
  · intro found known' unrefused
    obtain rfl := Option.some.inj (conns.symm.trans known')
    rw [if_neg unrefused] at after
    refine ⟨fun other member => ?_, fun free => ?_, positive⟩
    · rw [written] at member
      rcases List.mem_append.mp member with member | member
      · exact unwritten other member
      · rw [List.mem_singleton.mp member]
        exact after.1
    · exact absurd (after.2.symm.trans free) (by decide)
  · intro found known' refused
    obtain rfl := Option.some.inj (conns.symm.trans known')
    rw [if_pos refused] at after
    obtain ⟨empty, bytes, rfl⟩ := after
    exact ⟨empty, bytes, writes⟩

theorem Fenced.startedOther (fenced : Fenced s id) (different : id ≠ other) (conn' : Conn)
    (sequence : Nat) (item : StreamItem UInt8) :
    Fenced ((s.setConn other conn').startConnWrite other sequence item) id := by
  refine fenced.kept ?_ (written_startConnWrite_of_ne different sequence item) (Nat.le_refl _)
    fun conn known => ?_
  · simp [startConnWrite, record, Supervisor.setConn, different]
  · refine ⟨conn, ?_, Iff.rfl, rfl, rfl⟩
    simpa [startConnWrite, record, Supervisor.setConn, different] using known

/-! ## Steps -/

theorem Fenced.queued (fenced : Fenced s id) {sequence : Nat} {item : StreamItem UInt8}
    {conn' : Conn} (known : s.conns other = some conn) (open_ : conn.state ≠ .refused)
    (positive : 0 < sequence) (state : conn'.state = conn.state)
    (busy : conn'.writeInFlight = conn.writeInFlight)
    (pending : conn'.pendingDown = conn.pendingDown ++ [(sequence, item)]) :
    Fenced (s.setConn other conn') id := by
  by_cases same : id = other
  · subst same
    obtain ⟨unwritten, free, pos⟩ := fenced.unrefused conn known open_
    have found : (s.setConn id conn').conns id = some conn' := by simp [Supervisor.setConn]
    refine ⟨fenced.single, fenced.last, fun conn known _ => ?_, fun conn known refused => ?_,
      fenced.fresh⟩
    · obtain rfl := Option.some.inj (found.symm.trans known)
      refine ⟨unwritten, fun idle => free (busy ▸ idle), fun item' member => ?_⟩
      rw [pending] at member
      rcases List.mem_append.mp member with member | member
      · exact pos item' member
      · rw [List.mem_singleton.mp member]
        exact positive
    · obtain rfl := Option.some.inj (found.symm.trans known)
      exact absurd (state.symm.trans refused) open_
  · refine fenced.kept rfl rfl (Nat.le_refl _) fun found known' => ?_
    exact ⟨found, by simpa [Supervisor.setConn, same] using known', Iff.rfl, rfl, rfl⟩

variable {event : FrontEvent}

theorem Fenced.refusing (fenced : Fenced s id) (tabled : Tabled s)
    (undisturbed : s.Undisturbed event) {bytes : List UInt8} (known : s.conns other = some conn)
    (why : bytes ≠ [] ∧ (event = .mainControl other (.refuse bytes) ∨
      event = .handshakeExpired other ∧ conn.handshakeSeen = false ∧
        bytes = s.timeoutRefusalBytes)) :
    Fenced ((s.setConn other conn.refuse).startConnWrite other refusalSequence (.chunk bytes)) id := by
  by_cases same : id = other
  · subst same
    have free : s.writes id = [] ∧ conn.pendingDown = [] := by
      by_contra busy
      refine (undisturbed id).1 ⟨conn, by rw [tabled.live, known], ?_, ?_⟩
      · by_contra idle
        simp only [not_or, not_not] at idle
        exact busy idle
      · obtain ⟨nonempty, refused | ⟨expired, unseen, timeout⟩⟩ := why
        · exact .inl ⟨bytes, refused, nonempty⟩
        · exact .inr ⟨expired, unseen, timeout ▸ nonempty⟩
    have open_ : conn.state ≠ .refused := by
      intro refused
      obtain ⟨-, bytes, writing⟩ := fenced.refused conn known refused
      rw [free.1] at writing
      cases writing
    refine fenced.started conn.refuse (refusalSequence, .chunk bytes) known open_ free.1 ?_ ?_ ?_
    · intro item member
      have member : item ∈ conn.pendingDown := member
      rw [free.2] at member
      cases member
    · exact tabled.handedOut id ((tabled.listed id).mpr (by simp [known]))
    · have shut : conn.refuse.state = .refused := rfl
      rw [if_pos shut]
      exact ⟨free.2, bytes, rfl⟩
  · exact fenced.startedOther same _ _ _

theorem Fenced.queueUp (fenced : Fenced s id) (connection : Nat) (payload : ControlUp) :
    Fenced (s.queueUp connection payload) id := by
  have writes : (s.queueUp connection payload).writes = s.writes := by
    unfold Supervisor.queueUp
    split
    · rfl
    · split <;> rfl
  refine fenced.kept (congrFun writes id) ?_ (queueUp_nextConnID s connection payload).ge
    fun conn known => ?_
  · unfold Supervisor.written
    rw [queueUp_history]
  · rcases queueUp_conns s connection payload id with kept | gone
    · exact ⟨conn, kept ▸ known, Iff.rfl, rfl, rfl⟩
    · rw [gone] at known
      cases known

theorem registered_fenced (fenced : Fenced s id) : Fenced s.registered id := by
  have writes : s.registered.writes = s.writes := by
    unfold registered queueUp
    split
    · rfl
    · split <;> rfl
  have written : s.registered.written id = s.written id := by
    unfold Supervisor.written registered
    rw [queueUp_history]
    rfl
  have next : s.registered.nextConnID = s.nextConnID + 1 := by
    unfold registered
    rw [queueUp_nextConnID]
    rfl
  by_cases same : id = s.nextConnID
  · obtain ⟨idle, unwritten⟩ := fenced.fresh same.ge
    have new : ∀ conn, s.registered.conns id = some conn → conn = (Conn.new s.nextConnID).openSent := by
      intro conn known
      rcases queueUp_conns _ s.nextConnID .open id with kept | gone
      · rw [registered, kept] at known
        simpa [setConn, same, eq_comm] using known
      · rw [registered, gone] at known
        cases known
    refine ⟨by simp [writes, idle], ?_, fun conn known _ => ?_, fun conn known refused => ?_,
      fun above => by rw [next] at above; omega⟩
    · intro before refusal after all
      rw [written, unwritten] at all
      simp at all
    · rw [new conn known, written, unwritten, writes]
      refine ⟨by simp, fun _ => idle, ?_⟩
      simp [Conn.openSent, Conn.new]
    · rw [new conn known] at refused
      simp [Conn.openSent, Conn.new] at refused
  · refine fenced.kept (congrFun writes id) written (by rw [next]; omega) fun conn known => ?_
    rcases queueUp_conns _ s.nextConnID .open id with kept | gone
    · rw [registered, kept] at known
      exact ⟨conn, by simpa [setConn, same] using known, Iff.rfl, rfl, rfl⟩
    · rw [registered, gone] at known
      cases known

theorem Handled.fenced (tabled : Tabled s) (genuine : s.Genuine event)
    (undisturbed : s.Undisturbed event) (handled : Handled s event t) (fenced : Fenced s id) :
    Fenced t id := by
  have unrefused : ∀ {other sequence item conn}, event = .mainData other sequence item →
      s.conns other = some conn → conn.state ≠ .refused := by
    intro other sequence item conn is known refused
    exact (undisturbed other).2 ⟨conn, sequence, item, is, by rw [tabled.live, known], refused⟩
  cases handled with
  | closes _ _ closes tabled' => exact fenced.closes closes
  | violated _ error u _ breaks closes tabled' =>
    have blamed : ∀ {u : Supervisor}, Fenced u id → Fenced (u.blamed (.flow error)) id := by
      intro u fenced
      exact fenced.kept rfl rfl (Nat.le_refl _) fun conn known => ⟨conn, known, Iff.rfl, rfl, rfl⟩
    refine (blamed ?_).closes closes
    cases breaks with
    | credit => exact fenced
    | data => exact fenced
    | «end» => exact fenced
    | read =>
      exact fenced.kept rfl rfl (Nat.le_refl _) fun conn known => ⟨conn, known, Iff.rfl, rfl, rfl⟩
    | eof _ _ _ _ _ taken refused => exact fenced.taken taken
    | wrote other sequence bytes conn _ known chunk refused =>
      exact fenced.writeDone other _ genuine (by simp [refuses, chunk])
  | accepted => exact registered_fenced fenced
  | admitted other conn known =>
    refine fenced.setConn known _ ?_ ?_ ?_
    · unfold Conn.admit_
      split
      · rename_i undecided
        rcases undecided with sent | accepted
        · simp [sent]
        · simp [accepted]
      · exact Iff.rfl
    · unfold Conn.admit_
      split <;> rfl
    · unfold Conn.admit_
      split <;> rfl
  | paused other conn known | resumed other conn known =>
    exact fenced.setConn known _ Iff.rfl rfl rfl
  | refused _ other conn known bytes why => exact fenced.refusing tabled undisturbed known why
  | dismissed _ _ _ _ _ closes tabled' gone => exact fenced.closes closes
  | credited other bytes conn conn' known granted =>
    obtain ⟨_, rfl⟩ := Conn.grantCredit_spec granted
    exact fenced.setConn known _ Iff.rfl rfl rfl
  | locked _ admissionEpoch _ closes gone tabled' =>
    have raised : Fenced { s with epoch := admissionEpoch } id :=
      fenced.kept rfl rfl (Nat.le_refl _) fun conn known => ⟨conn, known, Iff.rfl, rfl, rfl⟩
    exact raised.closes closes
  | queued other sequence payload conn conn' known queued =>
    have open_ := unrefused rfl known
    obtain ⟨_, rfl⟩ := Conn.queueDown_spec queued
    exact fenced.queued known open_ genuine rfl rfl rfl
  | queuedEnd other sequence conn conn' known queued =>
    have open_ := unrefused rfl known
    obtain rfl := Conn.queueDownEnd_spec queued
    exact fenced.queued known open_ genuine rfl rfl rfl
  | readGone other bytes failed absent =>
    exact fenced.kept rfl rfl (Nat.le_refl _) fun conn known => ⟨conn, known, Iff.rfl, rfl, rfl⟩
  | read other bytes conn _ taken => exact fenced.taken taken
  | readEnd other bytes conn conn' u taken ended =>
    obtain ⟨-, known⟩ := taken.tabled tabled
    obtain rfl := Conn.peerEnded_spec ended
    exact (fenced.taken taken).setConn known _ Iff.rfl rfl rfl
  | readFailed other bytes error conn u _ taken closes tabled' gone =>
    exact (fenced.taken taken).closes closes
  | wroteGone other sequence item failed absent =>
    by_cases same : id = other
    · subst same
      exact fenced.gone absent (writeDone_fewer id _) rfl (Nat.le_refl _)
    · refine fenced.kept ?_ rfl (Nat.le_refl _) fun conn known => ⟨conn, known, Iff.rfl, rfl, rfl⟩
      simp [Supervisor.writeDone, same]
  | wroteLast other sequence item failed conn known _ closes tabled' gone =>
    by_cases same : id = other
    · subst same
      refine fenced.gone gone ?_ (closes.written id) closes.nextConnID.ge
      rw [closes.writes]
      exact writeDone_fewer id _
    · have done : Fenced (s.writeDone other (sequence, item)) id := by
        refine fenced.kept ?_ rfl (Nat.le_refl _) fun conn known => ⟨conn, known, Iff.rfl, rfl, rfl⟩
        simp [Supervisor.writeDone, same]
      exact done.closes closes
  | wroteEnd other sequence conn known =>
    exact fenced.wrote (sequence, .fin) _ genuine (by simp [refuses, StreamItem.isFin]) known
      rfl rfl
  | wrote other sequence bytes conn conn' ackThrough known chunk completed =>
    obtain ⟨window, rfl⟩ := Conn.writeCompleted_spec completed
    have wrote := fenced.wrote (sequence, .chunk bytes)
      { conn with writeInFlight := false, window := window } genuine (by simp [refuses, chunk]) known
      rfl rfl
    exact wrote.queueUp other (.writeDone ackThrough)

theorem Pumped.fenced (tabled : Tabled s) (pumped : Pumped s t) (fenced : Fenced s id) :
    Fenced t id := by
  cases pumped with
  | closes _ closes tabled' => exact fenced.closes closes
  | read other conn known positive =>
    have unrefused := (Conn.readBudget_pos positive).1
    have state : conn.readIssued.state = .refused ↔ conn.state = .refused := by
      have admitted := Conn.readIssued_admitted.mpr unrefused
      rcases admitted with fresh | reading <;> rcases unrefused with fresh' | reading'
      all_goals simp [*]
    refine (fenced.setConn known conn.readIssued state rfl rfl).kept rfl ?_ (Nat.le_refl _)
      fun conn known => ⟨conn, known, Iff.rfl, rfl, rfl⟩
    simp [written, startConnRead, record, HandleEvent.written]
  | write other conn conn' item known next =>
    obtain ⟨rest, pending, idle, rfl⟩ := nextDown_kept next
    by_cases same : id = other
    · subst same
      have open_ : conn.state ≠ .refused := by
        intro refused
        rw [(fenced.refused conn known refused).1] at pending
        cases pending
      obtain ⟨-, free, positive⟩ := fenced.unrefused conn known open_
      refine fenced.started _ item known open_ (free idle) ?_
        (tabled.handedOut id ((tabled.listed id).mpr (by simp [known]))) ?_
      · exact fun item member => positive item (pending ▸ List.mem_cons_of_mem _ member)
      · have first := positive item (pending ▸ List.mem_cons_self)
        rw [if_neg open_]
        refine ⟨?_, rfl⟩
        simp [refuses, refusalSequence, Nat.ne_of_gt first]
    · exact fenced.startedOther same _ _ _
  | turn other conn item rest roundRobin known waits =>
    exact (fenced.setConn known { conn with
      pendingUp := rest
      throughDataSeq := s.dataUp.sequence } Iff.rfl rfl rfl).kept rfl rfl (Nat.le_refl _)
      fun conn known => ⟨conn, known, Iff.rfl, rfl, rfl⟩

theorem Pumps.fenced (tabled : Tabled s) (pumps : Pumps s t) (fenced : Fenced s id) : Fenced t id := by
  induction pumps with
  | refl => exact fenced
  | tail before pumped ih => exact pumped.fenced (Pumps.tabled tabled before) ih

theorem step_fenced (tabled : Tabled s) (genuine : s.Genuine event)
    (undisturbed : s.Undisturbed event) (fenced : Fenced s id) : Fenced (s.step event) id := by
  rcases step_cases tabled event with ⟨-, closes, -⟩ | ⟨-, handled, tabled', pumps⟩
  · exact fenced.closes closes
  · exact Pumps.fenced tabled' pumps (handled.fenced tabled genuine undisturbed fenced)

/-! ## Runs -/

theorem start_fenced (initialAdmissionEpoch : Nat) (timeoutRefusalBytes : List UInt8) (id : Nat) :
    Fenced (start initialAdmissionEpoch timeoutRefusalBytes) id where
  single := Nat.zero_le 1
  last before refusal after all := by
    have nothing : [] = before ++ refusal :: after := all
    simp at nothing
  unrefused _ known := by cases known
  refused _ known := by cases known
  fresh _ := ⟨rfl, rfl⟩

/-- **A refusal stands alone.** In every run of the front in which no refusal is started on a handle
that is being written or has something queued, and nothing to write arrives for a connection that was
refused, every handle is written one refusal at most, has one write outstanding at most, and is
written no chunk after its refusal. -/
theorem refusal_stands_alone (initialAdmissionEpoch : Nat) (timeoutRefusalBytes : List UInt8)
    (events : List FrontEvent)
    (along : Along step (fun s event => s.Genuine event ∧ s.Undisturbed event)
      (start initialAdmissionEpoch timeoutRefusalBytes) events) (id : Nat) :
    RefusedOnce (run step (start initialAdmissionEpoch timeoutRefusalBytes) events) id := by
  have both : Tabled (run step (start initialAdmissionEpoch timeoutRefusalBytes) events) ∧
      Fenced (run step (start initialAdmissionEpoch timeoutRefusalBytes) events) id := by
    refine along.induction (motive := fun s => Tabled s ∧ Fenced s id) ?_
      ⟨start_tabled _ _, start_fenced _ _ id⟩
    rintro s event ⟨genuine, undisturbed⟩ ⟨tabled, fenced⟩
    exact ⟨step_tabled tabled event, step_fenced tabled genuine undisturbed fenced⟩
  exact both.2.refusedOnce

theorem undisturbed_silent (silent : ∀ id, (∀ bytes, event ≠ .mainControl id (.refuse bytes)) ∧
      event ≠ .handshakeExpired id ∧ ∀ sequence item, event ≠ .mainData id sequence item) :
    s.Undisturbed event := by
  intro id
  obtain ⟨unrefused, unexpired, unfed⟩ := silent id
  constructor
  · rintro ⟨conn, -, -, ⟨bytes, same, -⟩ | ⟨same, -⟩⟩
    · exact unrefused bytes same
    · exact unexpired same
  · rintro ⟨conn, sequence, item, same, -⟩
    exact unfed sequence item same

/-- A handle that is refused, and whose deadline passes after the refusal was written. -/
theorem refused_handle_hears_one_line : RefusedOnce (run step (start 7 [1])
      [.accepted true, .mainControl 1 (.refuse [2]), .connWrote 1 0 (.chunk [2]) false,
        .handshakeExpired 1]) 1 := by
  refine refusal_stands_alone 7 [1] [.accepted true, .mainControl 1 (.refuse [2]),
    .connWrote 1 0 (.chunk [2]) false, .handshakeExpired 1]
    ⟨⟨trivial, undisturbed_silent (by simp)⟩, ⟨trivial, ?_⟩,
      ⟨by decide, undisturbed_silent (by simp)⟩, ⟨trivial, ?_⟩, trivial⟩ 1
  · intro id
    constructor
    · rintro ⟨conn, live, busy, ⟨bytes, same, -⟩ | ⟨same, -⟩⟩
      · obtain ⟨rfl, -⟩ : 1 = id ∧ [2] = bytes := by simpa using same
        have idle : ((start 7 [1]).step (.accepted true)).writes 1 = [] := by decide
        have unqueued : ((start 7 [1]).step (.accepted true)).live 1 =
            some (Conn.new 1).openSent := by decide
        obtain rfl := Option.some.inj (unqueued.symm.trans live)
        rcases busy with busy | busy
        · exact busy idle
        · exact busy rfl
      · cases same
    · rintro ⟨conn, sequence, item, same, -⟩
      cases same
  · intro id
    constructor
    · rintro ⟨conn, live, -, ⟨bytes, same, -⟩ | ⟨same, -⟩⟩
      · cases same
      · obtain rfl : 1 = id := by simpa using same
        have gone : ((((start 7 [1]).step (.accepted true)).step (.mainControl 1 (.refuse [2]))).step
            (.connWrote 1 0 (.chunk [2]) false)).live 1 = none := by decide
        rw [gone] at live
        cases live
    · rintro ⟨conn, sequence, item, same, -⟩
      cases same

/-- A second `REFUSE` is written as well, while the first is being written. -/
theorem second_refusal_is_written :
    ¬∀ (initialAdmissionEpoch : Nat) (timeoutRefusalBytes : List UInt8) (events : List FrontEvent),
      Along step Genuine (start initialAdmissionEpoch timeoutRefusalBytes) events →
      ∀ id, RefusedOnce (run step (start initialAdmissionEpoch timeoutRefusalBytes) events) id := by
  intro always
  have refused := always 7 [] [.accepted true, .mainControl 1 (.refuse [2]), .mainControl 1 (.refuse [3])]
    ⟨trivial, trivial, trivial, trivial⟩ 1
  have twice : ((run step (start 7 []) [.accepted true, .mainControl 1 (.refuse [2]),
      .mainControl 1 (.refuse [3])]).written 1).filter refuses =
        [(0, .chunk [2]), (0, .chunk [3])] := by decide
  have once := refused.once
  rw [twice] at once
  exact absurd once (by decide)

end Supervisor

end Vex.Bridge
