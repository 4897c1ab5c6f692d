import Vex.Bridge.SupervisorSteps
import Vex.Library.Runs

/-!
# The admission fence of the front

Nothing is read from a handle before main has admitted it, at the epoch that is current when the
order is handled, nor after main has refused it. A `LOCK` raises the epoch and closes every handle
that is registered: none of them is read or written again, whatever was queued behind the frame.
An order of another epoch changes nothing.

Events come in any order, whatever main, the peers and the operating system do.
-/

namespace Vex.Bridge

open Vex.Library

namespace Supervisor

/-- The event is an `ADMIT` of the connection at the current epoch, while it is open. -/
def Admits (s : Supervisor) (event : FrontEvent) (id : Nat) : Prop :=
  event = .mainControl id (.admission s.epoch) ∧ (s.live id).isSome

/-- The event refuses the connection: main does, or its handshake has taken too long. -/
def Refuses (s : Supervisor) (event : FrontEvent) (id : Nat) : Prop :=
  ∃ conn, s.live id = some conn ∧ ((∃ bytes, event = .mainControl id (.refuse bytes)) ∨
    event = .handshakeExpired id ∧ conn.handshakeSeen = false)

/-- In a run of events the connection was admitted, and not refused since. -/
def AdmittedIn (s : Supervisor) (events : List FrontEvent) (id : Nat) : Prop :=
  ∃ before event later, events = before ++ event :: later ∧ (run step s before).Admits event id ∧
    ∀ between refusal rest, later = between ++ refusal :: rest →
      ¬(run step s (before ++ event :: between)).Refuses refusal id

/-- What is done to a handle: a read or a write is issued. -/
def touches (id : Nat) : HandleEvent → Bool
  | .readIssued handle _ => handle = id
  | .writeIssued handle _ _ => handle = id
  | _ => false

def touched (s : Supervisor) (id : Nat) : List HandleEvent := s.history.filter (touches id)

variable {s t : Supervisor}

/-! ## What closing leaves -/

theorem Closes.touched (closes : Closes s t) (id : Nat) : t.touched id = s.touched id := by
  obtain ⟨ids, all⟩ := closes.history
  unfold Supervisor.touched
  have nothing : (ids.map HandleEvent.closed).filter (touches id) = [] := by
    refine List.filter_eq_nil_iff.mpr fun event member => ?_
    obtain ⟨closed, -, rfl⟩ := List.mem_map.mp member
    simp [touches]
  rw [all, List.filter_append, nothing, List.append_nil]

/-! ## Admission -/

variable {id : Nat} {after : Conn}

variable {other : Nat} {conn : Conn}

theorem admitted_setConn (known : s.conns id = some conn) (conn' : Conn)
    (kept : conn'.Admitted → conn.Admitted) (found : (s.setConn id conn').conns other = some after)
    (admitted : after.Admitted) : ∃ before, s.conns other = some before ∧ before.Admitted := by
  by_cases same : other = id
  · subst same
    obtain rfl : conn' = after := by simpa [setConn] using found
    exact ⟨conn, known, kept admitted⟩
  · exact ⟨after, by simpa [setConn, same] using found, admitted⟩

theorem ReadTaken.was_admitted {bytes : List UInt8} (taken : ReadTaken s id bytes conn t)
    (found : t.conns other = some after) (admitted : after.Admitted) :
    ∃ before, s.conns other = some before ∧ before.Admitted := by
  cases taken with
  | bytes _ before _ completed known accepted =>
    refine admitted_setConn (s := s.readDone id) known _ ?_ found admitted
    obtain ⟨_, _, rfl⟩ := Conn.acceptRead_spec accepted
    exact fun same => same
  | nothing before known =>
    exact admitted_setConn (s := s.readDone id) known before.readFailed (fun same => same)
      found admitted

variable {event : FrontEvent}

theorem Handled.was_admitted (tabled : Tabled s) (handled : Handled s event t)
    (found : t.conns id = some after) (admitted : after.Admitted) :
    s.Admits event id ∨ ∃ before, s.conns id = some before ∧ before.Admitted := by
  cases handled with
  | closes _ _ closes tabled' | wroteLast _ _ _ _ _ _ _ closes tabled' gone =>
    exact .inr ⟨after, closes.was found, admitted⟩
  | violated _ error u _ breaks closes tabled' =>
    have found' : u.conns id = some after := closes.was found
    refine .inr ?_
    cases breaks with
    | credit | data | «end» | read | wrote => exact ⟨after, found', admitted⟩
    | eof _ _ _ _ _ taken refused => exact taken.was_admitted found' admitted
  | accepted =>
    refine .inr ?_
    by_cases same : id = s.nextConnID
    · rcases queueUp_conns _ s.nextConnID .open id with kept | gone
      · rw [registered, kept] at found
        obtain rfl : (Conn.new s.nextConnID).openSent = after := by simpa [setConn, same] using found
        simp [Conn.Admitted, Conn.openSent, Conn.new] at admitted
      · rw [registered, gone] at found
        cases found
    · rcases queueUp_conns _ s.nextConnID .open id with kept | gone
      · rw [registered, kept] at found
        exact ⟨after, by simpa [setConn, same] using found, admitted⟩
      · rw [registered, gone] at found
        cases found
  | admitted other conn known =>
    by_cases same : id = other
    · subst same
      exact .inl ⟨rfl, by simp [tabled.live, known]⟩
    · exact .inr ⟨after, by simpa [setConn, same] using found, admitted⟩
  | paused other conn known =>
    exact .inr (admitted_setConn known conn.pause (fun same => same) found admitted)
  | resumed other conn known =>
    exact .inr (admitted_setConn known conn.resume (fun same => same) found admitted)
  | refused _ other conn known bytes why =>
    refine .inr (admitted_setConn known conn.refuse ?_ found admitted)
    simp [Conn.Admitted, Conn.refuse]
  | dismissed _ other conn known _ closes tabled' gone =>
    exact .inr ⟨after, closes.was found, admitted⟩
  | credited other bytes conn conn' known granted =>
    refine .inr (admitted_setConn known conn' ?_ found admitted)
    obtain ⟨_, rfl⟩ := Conn.grantCredit_spec granted
    exact fun same => same
  | locked _ _ _ closes gone tabled' =>
    rw [gone id] at found
    cases found
  | queued other sequence payload conn conn' known queued =>
    refine .inr (admitted_setConn known conn' ?_ found admitted)
    obtain ⟨_, rfl⟩ := Conn.queueDown_spec queued
    exact fun same => same
  | queuedEnd other sequence conn conn' known queued =>
    refine .inr (admitted_setConn known conn' ?_ found admitted)
    obtain rfl := Conn.queueDownEnd_spec queued
    exact fun same => same
  | readGone | wroteGone => exact .inr ⟨after, found, admitted⟩
  | read other bytes conn _ taken => exact .inr (taken.was_admitted found admitted)
  | readEnd other bytes conn conn' u taken ended =>
    have known := (taken.tabled tabled).2
    obtain ⟨before, found', admitted'⟩ := admitted_setConn known conn' (by
      obtain rfl := Conn.peerEnded_spec ended
      exact fun same => same) found admitted
    exact .inr (taken.was_admitted found' admitted')
  | readFailed other bytes error conn u _ taken closes tabled' gone =>
    exact .inr (taken.was_admitted (closes.was found) admitted)
  | wroteEnd other sequence conn known =>
    exact .inr (admitted_setConn
      (s := (s.writeDone other (sequence, .fin)).record (.wrote other sequence .fin)) known
      conn.endCompleted (fun same => same) found admitted)
  | wrote other sequence bytes conn conn' ackThrough known chunk completed =>
    rcases queueUp_conns _ other (.writeDone ackThrough) id with kept | gone
    · rw [kept] at found
      refine .inr (admitted_setConn (s := (s.writeDone other (sequence, .chunk bytes)).record
        (.wrote other sequence (.chunk bytes))) known conn' ?_ found admitted)
      obtain ⟨_, rfl⟩ := Conn.writeCompleted_spec completed
      exact fun same => same
    · rw [gone] at found
      cases found

theorem handle_refuses (tabled : Tabled s) (refuses : s.Refuses event id)
    (found : (s.handle event).conns id = some after) : ¬after.Admitted := by
  obtain ⟨conn, live, why⟩ := refuses
  have known : s.conns id = some conn := by rw [← tabled.live id, live]
  have refused : ∀ bytes, (s.refuseWith id conn bytes).conns id = some after → ¬after.Admitted := by
    intro bytes found
    unfold refuseWith at found
    dsimp only at found
    split at found
    · have changed := setConn_tabled tabled known conn.refuse rfl (by simp [Conn.refuse])
      rw [(closeConn_spec changed (by simp [setConn]) .commandedClose).2.2] at found
      cases found
    · obtain rfl : conn.refuse = after := by simpa [startConnWrite, record, setConn] using found
      simp [Conn.Admitted, Conn.refuse]
  rcases why with ⟨bytes, rfl⟩ | ⟨rfl, unseen⟩
  · refine refused bytes ?_
    have handled : s.handle (.mainControl id (.refuse bytes)) = s.handleRefuse id bytes := rfl
    rwa [handled, handleRefuse, live] at found
  · refine refused s.timeoutRefusalBytes ?_
    have handled : s.handle (.handshakeExpired id) = s.handleHandshakeExpired id := rfl
    rw [handled, handleHandshakeExpired, live] at found
    dsimp only at found
    rwa [if_neg (by simp [unseen])] at found

theorem Pumped.was_admitted (pumped : Pumped s t) (found : t.conns id = some after)
    (admitted : after.Admitted) : ∃ before, s.conns id = some before ∧ before.Admitted := by
  cases pumped with
  | closes _ closes tabled => exact ⟨after, closes.was found, admitted⟩
  | read other conn known positive =>
    exact admitted_setConn known conn.readIssued Conn.readIssued_admitted.mp found admitted
  | write other conn conn' item known next =>
    obtain ⟨rest, -, -, rfl⟩ := nextDown_kept next
    exact admitted_setConn known
      { conn with pendingDown := rest, writeInFlight := true } (fun same => same) found
      admitted
  | turn other conn item rest roundRobin known waits =>
    exact admitted_setConn known { conn with
      pendingUp := rest
      throughDataSeq := s.dataUp.sequence } (fun same => same) found admitted

theorem Pumps.was_admitted (pumps : Pumps s t) (found : t.conns id = some after)
    (admitted : after.Admitted) : ∃ before, s.conns id = some before ∧ before.Admitted := by
  induction pumps generalizing after with
  | refl => exact ⟨after, found, admitted⟩
  | tail _ pumped ih =>
    obtain ⟨middle, found', admitted'⟩ := pumped.was_admitted found admitted
    exact ih found' admitted'

/-! ## The history -/

theorem Handled.history (handled : Handled s event t) :
    ∃ later, t.history = s.history ++ later ∧ ∀ id budget, .readIssued id budget ∉ later := by
  have closed : ∀ {u v : Supervisor}, Closes u v → (∃ later, u.history = s.history ++ later ∧
      ∀ id budget, .readIssued id budget ∉ later) → ∃ later, v.history = s.history ++ later ∧
      ∀ id budget, .readIssued id budget ∉ later := by
    rintro u v closes ⟨later, before, unread⟩
    obtain ⟨ids, after⟩ := closes.history
    refine ⟨later ++ ids.map .closed, by rw [after, before, List.append_assoc], ?_⟩
    intro id budget member
    rcases List.mem_append.mp member with member | member
    · exact unread id budget member
    · obtain ⟨_, -, same⟩ := List.mem_map.mp member
      cases same
  have unchanged : ∃ later, s.history = s.history ++ later ∧
      ∀ id budget, .readIssued id budget ∉ later := ⟨[], by simp, by simp⟩
  have taking : ∀ {id bytes conn u}, ReadTaken s id bytes conn u → ∃ later,
      u.history = s.history ++ later ∧ ∀ id budget, .readIssued id budget ∉ later := by
    intro id bytes conn u taken
    cases taken with
    | bytes => exact ⟨[.bytesRead id bytes], rfl, by simp⟩
    | nothing => exact unchanged
  cases handled with
  | closes _ _ closes tabled => exact closed closes unchanged
  | violated _ error u _ breaks closes tabled =>
    refine closed closes ?_
    cases breaks with
    | credit => exact unchanged
    | data => exact unchanged
    | «end» => exact unchanged
    | read => exact unchanged
    | eof _ _ _ _ _ taken refused =>
      have all := taking taken
      exact all
    | wrote => exact unchanged
  | accepted =>
    unfold registered
    rw [queueUp_history]
    exact unchanged
  | admitted => exact unchanged
  | paused => exact unchanged
  | resumed => exact unchanged
  | refused _ id conn known bytes why =>
    exact ⟨[.writeIssued id refusalSequence (.chunk bytes)], rfl, by simp⟩
  | dismissed _ _ _ _ _ closes tabled gone => exact closed closes unchanged
  | credited => exact unchanged
  | locked _ admissionEpoch _ closes gone tabled =>
    exact closed (u := { s with epoch := admissionEpoch }) closes unchanged
  | queued => exact unchanged
  | queuedEnd => exact unchanged
  | readGone => exact unchanged
  | read _ _ _ _ taken => exact taking taken
  | readEnd _ _ _ _ _ taken ended =>
    have all := taking taken
    exact all
  | readFailed _ _ _ _ _ _ taken closes tabled gone => exact closed closes (taking taken)
  | wroteGone => exact unchanged
  | wroteLast id sequence item _ _ _ _ closes tabled gone =>
    exact closed (u := s.writeDone id (sequence, item)) closes unchanged
  | wroteEnd id sequence => exact ⟨[.wrote id sequence .fin], rfl, by simp⟩
  | wrote id sequence bytes =>
    rw [queueUp_history]
    exact ⟨[.wrote id sequence (.chunk bytes)], rfl, by simp⟩

theorem Pumps.history (pumps : Pumps s t) :
    ∃ later, t.history = s.history ++ later ∧ ∀ id budget, .readIssued id budget ∈ later →
      ∃ conn, s.conns id = some conn ∧ conn.Admitted := by
  induction pumps with
  | refl => exact ⟨[], by simp, by simp⟩
  | @tail u t before pumped ih =>
    obtain ⟨later, all, issued⟩ := ih
    cases pumped with
    | closes _ closes tabled =>
      obtain ⟨ids, after⟩ := closes.history
      refine ⟨later ++ ids.map .closed, by rw [after, all, List.append_assoc], ?_⟩
      intro id budget member
      rcases List.mem_append.mp member with member | member
      · exact issued id budget member
      · obtain ⟨_, -, same⟩ := List.mem_map.mp member
        cases same
    | read other conn known positive =>
      refine ⟨later ++ [.readIssued other conn.readBudget], ?_, ?_⟩
      · rw [← List.append_assoc, ← all]
        rfl
      · intro id budget member
        rcases List.mem_append.mp member with member | member
        · exact issued id budget member
        · obtain ⟨rfl, rfl⟩ : id = other ∧ budget = conn.readBudget := by simpa using member
          exact Pumps.was_admitted before known (Conn.readBudget_pos positive).1
    | write other conn conn' item known next =>
      refine ⟨later ++ [.writeIssued other item.1 item.2], ?_, ?_⟩
      · rw [← List.append_assoc, ← all]
        rfl
      · intro id budget member
        exact issued id budget (by simpa using member)
    | turn => exact ⟨later, all, issued⟩

/-! ## A handle that is gone -/

def Gone (s : Supervisor) (id : Nat) : Prop := s.conns id = none ∧ id < s.nextConnID

theorem Closes.gone (closes : Closes s t) (gone : s.Gone id) : t.Gone id := by
  refine ⟨?_, closes.nextConnID ▸ gone.2⟩
  rcases closes.conns id with same | absent
  · rw [same, gone.1]
  · exact absent

theorem gone_setConn {conn' : Conn} (known : s.conns other = some conn) (gone : s.Gone id) :
    (s.setConn other conn').Gone id := by
  have different : id ≠ other := by
    rintro rfl
    rw [gone.1] at known
    cases known
  exact ⟨by simp [setConn, different, gone.1], gone.2⟩

theorem ReadTaken.gone {bytes : List UInt8} (taken : ReadTaken s other bytes conn t)
    (gone : s.Gone id) : t.Gone id ∧ t.touched id = s.touched id := by
  cases taken with
  | bytes _ before _ completed known accepted =>
    refine ⟨gone_setConn (s := s.readDone other) known gone, ?_⟩
    simp [touched, record, setConn, readDone, touches]
  | nothing before known => exact ⟨gone_setConn (s := s.readDone other) known gone, rfl⟩

theorem queueUp_gone {connection : Nat} (payload : ControlUp) (gone : s.Gone id) :
    (s.queueUp connection payload).Gone id := by
  refine ⟨?_, by rw [queueUp_nextConnID]; exact gone.2⟩
  rcases queueUp_conns s connection payload id with same | absent
  · rw [same, gone.1]
  · exact absent

theorem Handled.gone (handled : Handled s event t) (gone : s.Gone id) :
    t.Gone id ∧ t.touched id = s.touched id := by
  have closed : ∀ {u v : Supervisor}, Closes u v → u.Gone id ∧ u.touched id = s.touched id →
      v.Gone id ∧ v.touched id = s.touched id := by
    rintro u v closes ⟨gone', same⟩
    exact ⟨closes.gone gone', (closes.touched id).trans same⟩
  have changed : ∀ {other conn conn'}, s.conns other = some conn →
      (s.setConn other conn').Gone id ∧ (s.setConn other conn').touched id = s.touched id :=
    fun known => ⟨gone_setConn known gone, rfl⟩
  cases handled with
  | closes _ _ closes tabled => exact closed closes ⟨gone, rfl⟩
  | violated _ error u _ breaks closes tabled =>
    refine closed closes ?_
    cases breaks with
    | credit => exact ⟨gone, rfl⟩
    | data => exact ⟨gone, rfl⟩
    | «end» => exact ⟨gone, rfl⟩
    | read => exact ⟨gone, rfl⟩
    | eof _ _ _ _ _ taken refused => exact taken.gone gone
    | wrote => exact ⟨gone, rfl⟩
  | accepted =>
    have other : id ≠ s.nextConnID := Nat.ne_of_lt gone.2
    refine ⟨queueUp_gone .open ⟨?_, Nat.lt_succ_of_lt gone.2⟩, ?_⟩
    · simp [setConn, other, gone.1]
    · unfold touched registered
      rw [queueUp_history]
      rfl
  | admitted other conn known => exact changed known
  | paused other conn known => exact changed known
  | resumed other conn known => exact changed known
  | refused _ other conn known bytes why =>
    have different : other ≠ id := by
      rintro rfl
      rw [gone.1] at known
      cases known
    refine ⟨(changed known).1, ?_⟩
    simp [touched, startConnWrite, record, setConn, touches, different]
  | dismissed _ _ _ _ _ closes tabled absent => exact closed closes ⟨gone, rfl⟩
  | credited other bytes conn conn' known granted => exact changed known
  | locked _ admissionEpoch _ closes absent tabled =>
    exact closed (u := { s with epoch := admissionEpoch }) closes ⟨gone, rfl⟩
  | queued other sequence payload conn conn' known queued => exact changed known
  | queuedEnd other sequence conn conn' known queued => exact changed known
  | readGone => exact ⟨gone, rfl⟩
  | read _ _ _ _ taken => exact taken.gone gone
  | readEnd other bytes conn conn' u taken ended =>
    obtain ⟨gone', same⟩ := taken.gone gone
    have known : ∃ before, u.conns other = some before := by
      cases taken with
      | bytes => exact ⟨_, by simp [setConn, record]; rfl⟩
      | nothing => exact ⟨_, by simp [setConn]; rfl⟩
    obtain ⟨before, known⟩ := known
    exact ⟨gone_setConn known gone', same⟩
  | readFailed _ _ _ _ _ _ taken closes tabled absent => exact closed closes (taken.gone gone)
  | wroteGone => exact ⟨gone, rfl⟩
  | wroteLast other sequence item _ _ _ _ closes tabled absent =>
    exact closed (u := s.writeDone other (sequence, item)) closes ⟨gone, rfl⟩
  | wroteEnd other sequence conn known =>
    refine ⟨gone_setConn (s := (s.writeDone other (sequence, .fin)).record
      (.wrote other sequence .fin)) known gone, ?_⟩
    simp [touched, setConn, record, writeDone, touches]
  | wrote other sequence bytes conn conn' ackThrough known chunk completed =>
    refine ⟨queueUp_gone _ (gone_setConn (s := (s.writeDone other (sequence, .chunk bytes)).record
      (.wrote other sequence (.chunk bytes))) known gone), ?_⟩
    unfold touched
    rw [queueUp_history]
    simp [setConn, record, writeDone, touches]

theorem Pumps.gone (pumps : Pumps s t) (gone : s.Gone id) :
    t.Gone id ∧ t.touched id = s.touched id := by
  induction pumps with
  | refl => exact ⟨gone, rfl⟩
  | @tail u t _ pumped ih =>
    obtain ⟨gone', same⟩ := ih
    have different : ∀ {other conn}, u.conns other = some conn → other ≠ id := by
      rintro other conn known rfl
      rw [gone'.1] at known
      cases known
    cases pumped with
    | closes _ closes tabled => exact ⟨closes.gone gone', (closes.touched id).trans same⟩
    | read other conn known positive =>
      refine ⟨gone_setConn known gone', ?_⟩
      rw [← same]
      simp [touched, startConnRead, record, setConn, touches, different known]
    | write other conn conn' item known next =>
      refine ⟨gone_setConn known gone', ?_⟩
      rw [← same]
      simp [touched, startConnWrite, record, setConn, touches, different known]
    | turn other conn item rest roundRobin known waits => exact ⟨gone_setConn known gone', same⟩

theorem step_gone (tabled : Tabled s) (event : FrontEvent) (gone : s.Gone id) :
    (s.step event).Gone id ∧ (s.step event).touched id = s.touched id := by
  rcases step_cases tabled event with ⟨-, closes, -⟩ | ⟨-, handled, -, pumps⟩
  · exact ⟨closes.gone gone, closes.touched id⟩
  · obtain ⟨gone', same⟩ := handled.gone gone
    obtain ⟨gone'', same'⟩ := pumps.gone gone'
    exact ⟨gone'', same'.trans same⟩

theorem run_gone (tabled : Tabled s) (events : List FrontEvent) (gone : s.Gone id) :
    (run step s events).touched id = s.touched id := by
  have kept : Tabled (run step s events) ∧ (run step s events).Gone id ∧
      (run step s events).touched id = s.touched id := by
    refine run_induction (motive := fun t => Tabled t ∧ t.Gone id ∧ t.touched id = s.touched id)
      ?_ ⟨tabled, gone, rfl⟩ events
    rintro t event ⟨tabled', gone', same⟩
    obtain ⟨gone'', same'⟩ := step_gone tabled' event gone'
    exact ⟨step_tabled tabled' event, gone'', same'.trans same⟩
  exact kept.2.2

/-! ## The fence -/

theorem run_tabled (tabled : Tabled s) (events : List FrontEvent) : Tabled (run step s events) :=
  run_induction (motive := Tabled) (fun _ event tabled => step_tabled tabled event) tabled events

theorem admittedIn_concat {events : List FrontEvent} (admitted : AdmittedIn s events id)
    (kept : ¬(run step s events).Refuses event id) : AdmittedIn s (events ++ [event]) id := by
  obtain ⟨before, order, later, rfl, admits, unrefused⟩ := admitted
  refine ⟨before, order, later ++ [event], by simp, admits, ?_⟩
  intro between refusal rest split
  rcases List.eq_nil_or_concat rest with rfl | ⟨rest, last, rfl⟩
  · obtain ⟨rfl, rfl⟩ : later = between ∧ event = refusal := by
      simpa using List.append_inj' split rfl
    simpa using kept
  · refine unrefused between refusal rest ?_
    have same : later ++ [event] = between ++ refusal :: rest ++ [last] := by simpa using split
    exact (List.append_inj' same rfl).1

theorem admittedIn_of_admitted (tabled : Tabled s) (nothing : ∀ id, s.conns id = none)
    (events : List FrontEvent) (known : (run step s events).conns id = some conn)
    (admitted : conn.Admitted) : AdmittedIn s events id := by
  induction events using List.reverseRecOn generalizing conn with
  | nil =>
    rw [run_nil, nothing id] at known
    cases known
  | append_singleton events event ih =>
    rw [run_concat] at known
    rcases step_cases (run_tabled tabled events) event with
      ⟨done, closes, -⟩ | ⟨-, handled, -, pumps⟩
    · have before := closes.was known
      have listed := (run_tabled tabled events).listed id
      rw [(run_tabled tabled events).ended done, before] at listed
      simp at listed
    · obtain ⟨middle, found, admitted'⟩ := Pumps.was_admitted pumps known admitted
      have unrefused : ¬(run step s events).Refuses event id := fun refuses =>
        handle_refuses (run_tabled tabled events) refuses found admitted'
      rcases handled.was_admitted (run_tabled tabled events) found admitted' with
        admits | ⟨before, known', admitted''⟩
      · refine ⟨events, event, [], rfl, admits, ?_⟩
        intro between refusal rest split
        simp at split
      · exact admittedIn_concat (ih known' admitted'') unrefused

theorem admittedIn_of_read (tabled : Tabled s) (nothing : ∀ id, s.conns id = none)
    (events : List FrontEvent) (event : FrontEvent) {budget : Nat} (issued : .readIssued id budget ∈
      (run step s (events ++ [event])).history.drop (run step s events).history.length) :
    AdmittedIn s (events ++ [event]) id := by
  rw [run_concat] at issued
  rcases step_cases (run_tabled tabled events) event with
    ⟨-, closes, -⟩ | ⟨running, handled, tabled', pumps⟩
  · obtain ⟨ids, all⟩ := closes.history
    rw [all, List.drop_left] at issued
    obtain ⟨_, -, same⟩ := List.mem_map.mp issued
    cases same
  · obtain ⟨first, handledHistory, unread⟩ := handled.history
    obtain ⟨second, pumpedHistory, reads⟩ := Pumps.history pumps
    rw [pumpedHistory, handledHistory, List.append_assoc, List.drop_left] at issued
    rcases List.mem_append.mp issued with member | member
    · exact absurd member (unread id budget)
    · obtain ⟨conn, found, admitted⟩ := reads id budget member
      have unrefused : ¬(run step s events).Refuses event id := fun refuses =>
        handle_refuses (run_tabled tabled events) refuses found admitted
      rcases handled.was_admitted (run_tabled tabled events) found admitted with
        admits | ⟨before, known, admitted'⟩
      · refine ⟨events, event, [], rfl, admits, ?_⟩
        intro between refusal rest split
        simp at split
      · exact admittedIn_concat
          (admittedIn_of_admitted tabled nothing events known admitted') unrefused

theorem lock_gone (tabled : Tabled s) (connection epoch : Nat) (old : id < s.nextConnID) :
    (s.step (.mainControl connection (.lock epoch))).Gone id ∧
      (s.step (.mainControl connection (.lock epoch))).touched id = s.touched id := by
  obtain ⟨closes, -, gone⟩ := handleLock_spec tabled epoch
  rcases step_cases tabled (.mainControl connection (.lock epoch)) with
    ⟨done, ended, -⟩ | ⟨-, -, -, pumps⟩
  · have absent : s.conns id = none := by
      have listed := tabled.listed id
      rw [tabled.ended done] at listed
      simpa using listed
    exact ⟨ended.gone ⟨absent, old⟩, ended.touched id⟩
  · have gone' : (s.handleLock epoch).Gone id := ⟨gone id, closes.nextConnID.symm ▸ old⟩
    obtain ⟨gone'', same⟩ := Pumps.gone pumps gone'
    exact ⟨gone'', same.trans (closes.touched id)⟩

/-- **The admission fence holds.** In every run of the front, a read that is issued is of a
connection that was admitted at the epoch of that moment, while it was open, and not refused since;
once a `LOCK` is handled no handle that was registered before is read or written again; and an
`ADMIT` of another epoch leaves the front as it is. -/
theorem admission_fence (initialAdmissionEpoch : Nat) (timeoutRefusalBytes : List UInt8)
    (events : List FrontEvent) :
    (∀ event id budget, .readIssued id budget ∈
        (run step (start initialAdmissionEpoch timeoutRefusalBytes) (events ++ [event])).history.drop
          (run step (start initialAdmissionEpoch timeoutRefusalBytes) events).history.length →
      AdmittedIn (start initialAdmissionEpoch timeoutRefusalBytes) (events ++ [event]) id) ∧
    (∀ connection epoch id later,
      id < (run step (start initialAdmissionEpoch timeoutRefusalBytes) events).nextConnID →
      (run step (start initialAdmissionEpoch timeoutRefusalBytes)
        (events ++ .mainControl connection (.lock epoch) :: later)).touched id =
        (run step (start initialAdmissionEpoch timeoutRefusalBytes) events).touched id) ∧
    (∀ id epoch, epoch ≠ (run step (start initialAdmissionEpoch timeoutRefusalBytes) events).epoch →
      (run step (start initialAdmissionEpoch timeoutRefusalBytes) events).handle
        (.mainControl id (.admission epoch)) =
      run step (start initialAdmissionEpoch timeoutRefusalBytes) events) := by
  have tabled := start_tabled initialAdmissionEpoch timeoutRefusalBytes
  refine ⟨fun event id budget issued => ?_, fun connection epoch id later old => ?_,
    fun id epoch other => ?_⟩
  · exact admittedIn_of_read tabled (fun _ => rfl) events event issued
  · rw [run_append, run_cons]
    obtain ⟨gone, same⟩ := lock_gone (run_tabled tabled events) connection epoch old
    rw [run_gone (step_tabled (run_tabled tabled events) _) later gone, same]
  · exact if_pos other

/-- A connection that is accepted, admitted and given credit is read. -/
theorem admitted_connection_is_read : AdmittedIn (start 7 [])
      [.accepted true, .mainControl 1 (.admission 7), .mainControl 1 (.credit 65536)] 1 :=
  (admission_fence 7 [] [.accepted true, .mainControl 1 (.admission 7)]).1
    (.mainControl 1 (.credit 65536)) 1 32768 (by decide +kernel)

end Supervisor

end Vex.Bridge
