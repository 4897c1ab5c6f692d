import Vex.Studio.FrontSupervisor

/-!
# Relaying after a lock cycle

What the relay does for an `OPEN`, and in which runs of the supervisor it does it. A relay is
closed by a lock, or by a failure after which the supervisor has no relay. So in every run in which
no lock is requested while there is a relay, an `OPEN` that arrives while the supervisor serves is
answered; and a lock cycle leaves a supervisor that serves with a relay that answers nothing.
-/

namespace Vex.Studio

open Vex.Library
open Vex.Bridge

namespace FrontRelay

/-- What a relay knows of its supervisor, and what the supervisor knows of it. -/
structure Standing where
  admissionEpoch : Nat
  refusal : Option (List UInt8)
  fatalIgnored : Bool
  fatal : List FatalName
  closed : Bool

def standing (r : FrontRelay) : Standing :=
  ⟨r.admissionEpoch, r.refusal, r.fatalIgnored, r.fatal, r.closed⟩

variable {r r' : FrontRelay}

variable (id : Nat)

@[simp] theorem standing_setConnection (connection : RelayConnection) :
    (r.setConnection id connection).standing = r.standing := rfl

@[simp] theorem standing_emit (edge : RelayEdge) : (r.emit edge).standing = r.standing := rfl

@[simp] theorem standing_call (continuation : Continuation) :
    (r.call continuation).standing = r.standing := rfl

@[simp] theorem standing_queueMicrotask (task : Microtask) :
    (r.queueMicrotask task).standing = r.standing := rfl

@[simp] theorem standing_writeControl (body : ControlDown) :
    (r.writeControl id body).standing = r.standing := rfl

@[simp] theorem standing_writeData (item : StreamItem UInt8) :
    (r.writeData id item).standing = r.standing := rfl

@[simp] theorem standing_raiseClose (connection : RelayConnection) (reason : CloseReason) :
    (r.raiseClose id connection reason).standing = r.standing := by
  unfold raiseClose
  split <;> simp

@[simp] theorem standing_finishClose (connection : RelayConnection) :
    (r.finishClose id connection).standing = r.standing := by
  unfold finishClose
  rw [standing_raiseClose]
  rfl

@[simp] theorem standing_grantCredit (id bytes : Nat) :
    (r.grantCredit id bytes).standing = r.standing := by
  unfold grantCredit
  split
  · rfl
  · dsimp only
    split <;> simp

@[simp] theorem standing_replenish (id bytes : Nat) :
    (r.replenish id bytes).standing = r.standing := by
  unfold replenish
  split
  · rfl
  · split <;> simp

@[simp] theorem standing_writeOneChunk (connection : RelayConnection) :
    (r.writeOneChunk id connection).1.standing = r.standing := by
  unfold writeOneChunk
  split
  · rfl
  · rfl
  · split
    · rfl
    · split
      · rfl
      · simp

@[simp] theorem standing_pumpOne (state : FrontRelay × Bool) (id : Nat) :
    (pumpOne state id).1.standing = state.1.standing := by
  unfold pumpOne
  split
  · rfl
  · exact standing_writeOneChunk _ _

theorem standing_pumpEach (ids : List Nat) (state : FrontRelay × Bool) :
    (ids.foldl pumpOne state).1.standing = state.1.standing := by
  induction ids generalizing state with
  | nil => rfl
  | cons id rest ih => rw [List.foldl_cons, ih, standing_pumpOne]

@[simp] theorem standing_pumpRound : r.pumpRound.1.standing = r.standing :=
  standing_pumpEach (r.rotation.rotate r.rotationCursor) (r, false)

@[simp] theorem standing_pump : r.pump.standing = r.standing := by
  have rounds : ∀ fuel (r : FrontRelay), (pumpRounds fuel r).standing = r.standing := by
    intro fuel
    induction fuel with
    | zero => exact fun _ => rfl
    | succ fuel ih =>
      intro r
      rw [pumpRounds]
      dsimp only
      split
      · rw [ih, standing_pumpRound]
      · exact standing_pumpRound
  unfold pump
  split
  · rfl
  · exact rounds _ r

@[simp] theorem standing_maybeDrain : (r.maybeDrain id).standing = r.standing := by
  unfold maybeDrain
  split
  · rfl
  · split <;> simp

@[simp] theorem standing_settleFrom (id ack remaining : Nat) :
    (settleFrom id ack remaining r).standing = r.standing := by
  induction remaining generalizing r with
  | zero => simp [settleFrom]
  | succ index ih =>
    rw [settleFrom]
    split
    · rfl
    · split
      · rfl
      · split
        · dsimp only
          split
          · simp
          · rw [ih]
            simp
        · exact ih

@[simp] theorem standing_handlePeerClosed (id through : Nat) :
    (r.handlePeerClosed id through).standing = r.standing := by
  unfold handlePeerClosed
  split
  · rfl
  · dsimp only
    split <;> simp

@[simp] theorem standing_afterDataBatch : r.afterDataBatch.standing = r.standing := by
  have each : ∀ (ids : List Nat) (r : FrontRelay),
      (ids.foldl closeDelivered r).standing = r.standing := by
    intro ids
    induction ids with
    | nil => exact fun _ => rfl
    | cons id rest ih =>
      intro r
      rw [List.foldl_cons, ih]
      unfold closeDelivered
      split
      · rfl
      · split
        · rfl
        · split <;> simp
  unfold afterDataBatch
  split
  · rfl
  · exact each _ r

@[simp] theorem standing_end : (r.end_ id).standing = r.standing := by
  unfold end_
  split
  · rfl
  · split <;> simp

@[simp] theorem standing_destroy : (r.destroy id).standing = r.standing := by
  unfold destroy
  split <;> simp

@[simp] theorem standing_pause : (r.pause id).standing = r.standing := by
  unfold pause
  split
  · rfl
  · split <;> simp

@[simp] theorem standing_flushHeld : (r.flushHeld id).standing = r.standing := by
  unfold flushHeld
  split
  · rfl
  · split
    · rfl
    · split <;> simp

@[simp] theorem standing_resume : (r.resume id).standing = r.standing := by
  unfold resume
  split
  · rfl
  · split <;> simp

@[simp] theorem standing_callbackReturns : r.callbackReturns.standing = r.standing := by
  unfold callbackReturns
  split
  · rfl
  · rename_i continuation rest _
    cases continuation with
    | done => rfl
    | replenish id bytes => exact standing_replenish id bytes
    | flush id bytes =>
      dsimp only
      rw [standing_flushHeld, standing_replenish]
      rfl
    | settle id ack remaining => exact standing_settleFrom id ack remaining

@[simp] theorem standing_runMicrotask : r.runMicrotask.standing = r.standing := by
  unfold runMicrotask
  split <;> rfl

theorem standing_closeEach (reason : CloseReason) (ids : List Nat) :
    (ids.foldl (closeOne reason) r).standing = r.standing := by
  induction ids generalizing r with
  | nil => rfl
  | cons id rest ih =>
    rw [List.foldl_cons, ih]
    unfold closeOne
    split <;> simp

@[simp] theorem standing_closeAll (reason : CloseReason) :
    (r.closeAll reason).standing = { r.standing with closed := true } := by
  unfold closeAll
  split
  · rename_i closed
    simp [standing, closed]
  · exact standing_closeEach reason r.rotation (r := { r with closed := true })

/-! ## A failure of the relay -/

/-- The relay goes on, or it reports a failure; it is closed only with a failure that its
supervisor acts on. -/
def Reports (r r' : FrontRelay) : Prop :=
  r'.standing = r.standing ∨ ∃ failure, r'.standing = { r.standing with
    fatal := r.fatal ++ [failure]
    closed := r.closed || !r.fatalIgnored }

theorem onFatal_reports (failure : FatalName) (same : r'.standing = r.standing) :
    Reports r (r'.onFatal failure) := by
  obtain ⟨epoch, refusal, ignored, fatal, closed⟩ : r'.admissionEpoch = r.admissionEpoch ∧
    r'.refusal = r.refusal ∧ r'.fatalIgnored = r.fatalIgnored ∧ r'.fatal = r.fatal ∧
    r'.closed = r.closed := by simpa [standing] using same
  refine .inr ⟨failure, ?_⟩
  unfold onFatal
  dsimp only
  split
  · rename_i ignoring
    rw [ignored] at ignoring
    simp [standing, epoch, refusal, ignored, fatal, closed, ignoring]
  · rename_i acting
    rw [ignored] at acting
    rw [standing_closeAll]
    simp [standing, epoch, refusal, ignored, fatal, acting]

theorem handleOpen_reports : Reports r (r.handleOpen id) := by
  unfold handleOpen
  split
  · exact onFatal_reports _ rfl
  · split
    · exact .inl rfl
    · exact .inl (by simp only [standing_call, standing_emit, standing_grantCredit]; rfl)

theorem handleWriteDone_reports (id ack : Nat) : Reports r (r.handleWriteDone id ack) := by
  unfold handleWriteDone
  split
  · exact .inl rfl
  · split
    · exact onFatal_reports _ rfl
    · split
      · exact onFatal_reports _ rfl
      · exact .inl (by simp)

theorem handleControlFrame_reports (body : ControlUp) :
    Reports r (r.handleControlFrame id body) := by
  unfold handleControlFrame
  split
  · exact .inl rfl
  · split
    · exact handleOpen_reports id
    · exact handleWriteDone_reports id _
    · exact .inl (standing_handlePeerClosed _ _)
    · exact onFatal_reports _ rfl

theorem handleDataFrame_reports (item : StreamItem UInt8) :
    Reports r (r.handleDataFrame id item) := by
  unfold handleDataFrame
  split
  · exact .inl rfl
  · split
    · unfold handleData
      split
      · exact .inl rfl
      · split
        · exact onFatal_reports _ rfl
        · split
          · exact onFatal_reports _ rfl
          · split <;> exact .inl (by simp)
    · unfold handleEnd
      split
      · exact .inl rfl
      · split
        · exact onFatal_reports _ rfl
        · exact .inl (by simp)

theorem write_reports (line : List UInt8) (callback : Bool) :
    Reports r (r.write id line callback).1 := by
  unfold write
  split
  · exact .inl rfl
  · split
    · exact .inl rfl
    · dsimp only
      split
      · dsimp only
        split <;> exact .inl (by simp)
      · split
        · exact onFatal_reports _ (by simp)
        · split
          · exact .inl (by simp)
          · split <;> exact .inl (by simp)

theorem callOf_reports (call : ConsumerCall) : Reports r (r.callOf call) := by
  cases call with
  | write id line callback => exact write_reports id line callback
  | «end» id => exact .inl (standing_end id)
  | destroy id => exact .inl (standing_destroy id)
  | pause id => exact .inl (standing_pause id)
  | resume id => exact .inl (standing_resume id)

theorem handleOpen_new {id : Nat} (open_ : r.closed = false) (fresh : r.get id = none) :
    ∃ r', r.handleControlFrame id .open = r' ∧ r'.standing = r.standing ∧
      ((r.refusal = none ∧ (r'.get id).isSome ∧ r'.log = r.log ++ [.connection id] ∧
        r'.controlDown = r.controlDown ++
          [(id, .admission r.admissionEpoch), (id, .credit frontCreditBytes)]) ∨
      (∃ bytes, r.refusal = some bytes ∧ r'.log = r.log ∧
        r'.controlDown = r.controlDown ++ [(id, .refuse bytes)])) := by
  refine ⟨_, rfl, ?_⟩
  unfold handleControlFrame
  rw [if_neg (by simp [open_])]
  dsimp only
  unfold handleOpen
  rw [fresh]
  dsimp only
  cases refusal : r.refusal with
  | some bytes => exact ⟨rfl, .inr ⟨bytes, rfl, rfl, rfl⟩⟩
  | none =>
    refine ⟨?_, .inl ⟨rfl, ?_⟩⟩
    · simp only [standing_call, standing_emit, standing_grantCredit]
      rfl
    · simp [grantCredit, setConnection, writeControl, emit, call, get, RelayConnection.new,
        frontCreditBytes]

end FrontRelay

namespace FrontSupervisor

variable {s : FrontSupervisor}

/-! ## What a relay needs of its supervisor -/

def Acts (s : FrontSupervisor) (live : LiveChild) : Prop :=
  live.settled = false ∧ s.state ≠ .stopped ∧ s.quitRequested = false

/-- A relay belongs to a child, is open, and knows the gate. -/
def Attended (s : FrontSupervisor) : Prop :=
  ∀ r, s.relay = some r → ∃ live, s.live = some live ∧ r.closed = false ∧
    r.admissionEpoch = s.admissionEpoch ∧ r.refusal = s.refusal ∧
    (r.fatalIgnored = false → s.Acts live)

theorem Attended.of_none (absent : s.relay = none) : Attended s := by
  intro r known
  rw [absent] at known
  cases known

theorem fail_attended (attended : Attended s) (failure : FrontFailureName) :
    Attended (s.fail failure) := by
  unfold fail
  split
  · exact attended
  · split
    · rename_i ignoring
      intro r known
      obtain ⟨live, alive, open_, epoch, refusal, acts⟩ := attended r known
      refine ⟨{ live with settled := true }, by simp [alive], open_, epoch, refusal, fun acting => ?_⟩
      obtain ⟨-, unstopped, unquit⟩ := acts acting
      rcases ignoring with stopped | quit
      · exact absurd stopped unstopped
      · rw [unquit] at quit
        cases quit
    · split
      · exact .of_none rfl
      · split <;> exact .of_none rfl

theorem failCurrent_attended (attended : Attended s) (failure : FrontFailureName) :
    Attended (s.failCurrent failure) := by
  unfold failCurrent
  split
  · exact attended
  · exact fail_attended attended failure

theorem fail_acts {live : LiveChild} (alive : s.live = some live) (acts : s.Acts live)
    (failure : FrontFailureName) : (s.failCurrent failure).relay = none := by
  obtain ⟨unsettled, unstopped, unquit⟩ := acts
  unfold failCurrent fail
  rw [if_neg (by simp [alive]), if_neg (by simp [alive, unsettled]),
    if_neg (by simp [unstopped, unquit])]
  split
  · rfl
  · split <;> rfl

theorem relayDoes_attended (attended : Attended s) {act : FrontRelay → FrontRelay}
    (reports : ∀ r, FrontRelay.Reports r (act r)) : Attended (s.relayDoes act) := by
  unfold relayDoes
  cases known : s.relay with
  | none => exact attended
  | some r =>
    obtain ⟨live, alive, open_, epoch, refusal, acts⟩ := attended r known
    dsimp only
    rcases reports r with same | ⟨failure, same⟩
    · obtain ⟨epoch', refusal', ignored', fatal', closed'⟩ :
          (act r).admissionEpoch = r.admissionEpoch ∧ (act r).refusal = r.refusal ∧
          (act r).fatalIgnored = r.fatalIgnored ∧ (act r).fatal = r.fatal ∧
          (act r).closed = r.closed := by simpa [FrontRelay.standing] using same
      rw [fatal', List.drop_length]
      intro r' known'
      obtain rfl := Option.some.inj known'
      exact ⟨live, alive, closed'.trans open_, epoch'.trans epoch, refusal'.trans refusal,
        fun acting => acts (ignored' ▸ acting)⟩
    · obtain ⟨epoch', refusal', ignored', fatal', closed'⟩ :
          (act r).admissionEpoch = r.admissionEpoch ∧ (act r).refusal = r.refusal ∧
          (act r).fatalIgnored = r.fatalIgnored ∧ (act r).fatal = r.fatal ++ [failure] ∧
          (act r).closed = (r.closed || !r.fatalIgnored) := by
        simpa [FrontRelay.standing] using same
      rw [fatal', List.drop_left]
      cases ignored : r.fatalIgnored with
      | false =>
        exact .of_none (fail_acts (s := { s with relay := some (act r) }) alive (acts ignored)
          failure.failure)
      | true =>
        refine failCurrent_attended ?_ failure.failure
        intro r' known'
        obtain rfl := Option.some.inj known'
        refine ⟨live, alive, by rw [closed', open_, ignored]; rfl, epoch'.trans epoch,
          refusal'.trans refusal, fun acting => ?_⟩
        rw [ignored', ignored] at acting
        cases acting

theorem handleControlFrame_attended (attended : Attended s) (frame : SupervisorFrame) :
    Attended (s.handleControlFrame frame) := by
  unfold handleControlFrame
  cases alive : s.live with
  | none => exact attended
  | some live =>
    cases frame with
    | helloAck wrong =>
      dsimp only
      split
      · exact failCurrent_attended attended _
      · cases wrong with
        | some failure => exact failCurrent_attended attended failure
        | none =>
          intro r known
          obtain ⟨live', alive', open_, epoch, refusal, acts⟩ := attended r known
          obtain rfl : live = live' := Option.some.inj (alive.symm.trans alive')
          exact ⟨_, rfl, open_, epoch, refusal, acts⟩
    | bound wrong =>
      dsimp only
      split
      · exact failCurrent_attended attended _
      · cases wrong with
        | some failure => exact failCurrent_attended attended failure
        | none =>
          intro r known
          obtain rfl := Option.some.inj known
          refine ⟨_, rfl, rfl, rfl, rfl, fun acting => ?_⟩
          obtain ⟨unquit, unsettled⟩ : s.quitRequested = false ∧ live.settled = false := by
            simpa using acting
          exact ⟨unsettled, by simp, unquit⟩
    | control connection body =>
      dsimp only
      split
      · split
        · intro r known
          obtain ⟨live', alive', open_, epoch, refusal, acts⟩ := attended r known
          refine ⟨live', alive.symm.trans alive', open_, epoch, refusal, fun acting => ?_⟩
          exact ⟨(acts acting).1, by simp, (acts acting).2.2⟩
        · exact attended
      · exact attended
      · exact attended
      · unfold handleErrorFrame
        split
        · exact failCurrent_attended attended _
        · exact failCurrent_attended attended _
        · exact attended
      · split
        · exact failCurrent_attended attended _
        · exact relayDoes_attended attended fun r =>
            FrontRelay.handleControlFrame_reports connection _

theorem failCurrent_none (absent : s.relay = none) (failure : FrontFailureName) :
    (s.failCurrent failure).relay = none := by
  unfold failCurrent fail
  split
  · exact absent
  · split
    · exact absent
    · split
      · exact absent
      · split
        · rfl
        · split <;> rfl

theorem lock_none (absent : s.relay = none) : s.lock.relay = none := by
  unfold lock
  rw [absent]
  dsimp only [Option.map_none]
  split
  · rfl
  · split
    · rfl
    · split
      · exact failCurrent_none rfl _
      · rfl

theorem quit_attended (attended : Attended s) (deadlineMs : Nat) : Attended (s.quit deadlineMs) := by
  unfold quit
  cases known : s.relay with
  | none =>
    refine .of_none ?_
    dsimp only [Option.map_none]
    split
    · rfl
    · split <;> rfl
  | some r =>
    obtain ⟨live, alive, open_, epoch, refusal, -⟩ := attended r known
    dsimp only [Option.map_some]
    rw [alive]
    dsimp only
    split
    · intro r' known'
      obtain rfl := Option.some.inj known'
      refine ⟨live, rfl, open_, epoch, refusal, fun acting => ?_⟩
      cases acting
    · exact .of_none rfl

theorem step_attended (attended : Attended s) {op : SupervisorOp}
    (unlocked : op = .lock → s.relay = none) : Attended (s.step op) := by
  cases op with
  | spawn =>
    change Attended s.spawnOnce
    unfold spawnOnce
    split
    · exact attended
    · rename_i childless
      refine .of_none ?_
      cases known : s.relay with
      | none => rfl
      | some r =>
        obtain ⟨live, alive, -⟩ := attended r known
        exact absurd (by simp [alive]) childless
  | frame frame => exact handleControlFrame_attended attended frame
  | data connection item =>
    change Attended (s.handleDataFrame connection item)
    unfold handleDataFrame
    split
    · exact failCurrent_attended attended _
    · exact relayDoes_attended attended fun r => FrontRelay.handleDataFrame_reports connection item
  | dataBatchEnds delivered =>
    refine relayDoes_attended attended fun r => .inl ?_
    exact FrontRelay.standing_afterDataBatch (r := { r with delivered := delivered })
  | lock => exact .of_none (lock_none (unlocked rfl))
  | lockAckTimeout => exact failCurrent_attended attended _
  | quit deadlineMs => exact quit_attended attended deadlineMs
  | dispose => exact .of_none rfl
  | lost failure => exact failCurrent_attended attended failure
  | parentDeath =>
    intro r' known'
    obtain ⟨r, known, rfl⟩ := Option.map_eq_some_iff.mp known'
    obtain ⟨live, alive, open_, epoch, refusal, -⟩ := attended r known
    refine ⟨live, alive, open_, epoch, refusal, fun acting => ?_⟩
    cases acting
  | gate admissionEpoch refusal =>
    intro r' known'
    obtain ⟨r, known, rfl⟩ := Option.map_eq_some_iff.mp known'
    obtain ⟨live, alive, open_, -, -, acts⟩ := attended r known
    exact ⟨live, alive, open_, rfl, rfl, acts⟩
  | consumer call => exact relayDoes_attended attended fun r => FrontRelay.callOf_reports call
  | callbackReturns =>
    exact relayDoes_attended attended fun r => .inl FrontRelay.standing_callbackReturns
  | microtask => exact relayDoes_attended attended fun r => .inl FrontRelay.standing_runMicrotask

/-! ## Answers -/

/-- An `OPEN` is answered: by an `ADMIT` with the current epoch, the credit of a window and a
connection for the consumer, or by a `REFUSE` and nothing else. -/
def Answers (s : FrontSupervisor) (r : FrontRelay) (id : Nat) : Prop :=
  ∃ r', (s.handleControlFrame (.control id .open)).relay = some r' ∧
    ((s.refusal = none ∧ (r'.get id).isSome ∧ r'.log = r.log ++ [.connection id] ∧
      r'.controlDown = r.controlDown ++
        [(id, .admission s.admissionEpoch), (id, .credit frontCreditBytes)]) ∨
    ∃ bytes, s.refusal = some bytes ∧ r'.log = r.log ∧
      r'.controlDown = r.controlDown ++ [(id, .refuse bytes)])

/-- While the supervisor serves, what the front opens is answered. -/
def Serves (s : FrontSupervisor) : Prop :=
  s.state = .serving → ∀ r, s.relay = some r → ∀ id, r.get id = none → Answers s r id

theorem Attended.serves (attended : Attended s) : Serves s := by
  intro _ r known id fresh
  obtain ⟨live, alive, open_, epoch, refusal, -⟩ := attended r known
  obtain ⟨r', handled, same, answered⟩ := FrontRelay.handleOpen_new open_ fresh
  have fatal : (r.handleControlFrame id .open).fatal = r.fatal := by
    rw [handled]
    exact congrArg FrontRelay.Standing.fatal same
  refine ⟨r', ?_, ?_⟩
  · unfold handleControlFrame
    rw [alive]
    dsimp only
    rw [if_neg (by simp [known])]
    unfold relayDoes
    rw [known]
    dsimp only
    rw [fatal, List.drop_length, handled]
  · rw [← epoch, ← refusal]
    exact answered

/-- **What the front opens is answered in every run without a lock.** In every run of the
supervisor in which no lock is requested while there is a relay, whatever else happens, an `OPEN`
of a new connection that arrives while the supervisor serves is answered in full. -/
theorem opens_answered_without_lock (admissionEpoch : Nat) (refusal : Option (List UInt8))
    (ops : List SupervisorOp)
    (unlocked : Along step (fun s op => op = .lock → s.relay = none)
      (initial admissionEpoch refusal) ops) :
    Serves (run step (initial admissionEpoch refusal) ops) := by
  refine Attended.serves ?_
  exact unlocked.induction (fun s op free attended => step_attended attended free) (.of_none rfl)

/-- A front that is brought up and admits. -/
theorem front_brought_up_answers :
    Serves (run step (initial 7 none) [.spawn, .frame (.helloAck none), .frame (.bound none)]) :=
  opens_answered_without_lock 7 none [.spawn, .frame (.helloAck none), .frame (.bound none)]
    ⟨by simp, by simp, by simp, trivial⟩

/-- A front is brought up, locked, and unlocked after it has acknowledged the lock. -/
def lockCycle : List SupervisorOp :=
  [.spawn, .frame (.helloAck none), .frame (.bound none), .lock, .gate 8 (some [1]),
    .frame (.control 0 (.lockAck 8 0)), .gate 8 none]

/-- After a lock cycle the supervisor serves, the gate is open, and an `OPEN` is ignored. -/
theorem lock_cycle_ignores_opens :
    ¬∀ (admissionEpoch : Nat) (refusal : Option (List UInt8)) (ops : List SupervisorOp),
      Serves (run step (initial admissionEpoch refusal) ops) := by
  intro always
  have serves := always 7 none lockCycle rfl _ rfl 1 rfl
  obtain ⟨r', after, answered⟩ := serves
  obtain rfl := Option.some.inj after
  rcases answered with ⟨-, -, log, -⟩ | ⟨bytes, refused, -⟩
  · exact absurd log (by decide)
  · cases refused

end FrontSupervisor

end Vex.Studio
