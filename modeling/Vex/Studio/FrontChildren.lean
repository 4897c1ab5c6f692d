import Vex.Studio.FrontSupervisor

/-!
# The children of the supervisor

The supervisor with respect to the processes it spawns and to the callers of `start`: a token for
each spawn, the reference to the live child, the record that a child's failure is accounted, the
budget of restarts, the timers, and the restarts that wait for a child to exit. What the relay
reports comes with the frames that it is given.

The signals of a child are its frames, the end and the errors of its planes, the error and the exit
of its process, and the timers. They come in any order, and as often as they like.
-/

namespace Vex.Studio

open Vex.Library
open Vex.Bridge

def frontExitFailure : Option Int → FrontFailureName
  | some 2 => .unsupportedPlatform
  | some 3 => .helloAckVersion
  | some 4 => .malformedFrame
  | some 6 => .boundFlagsUnconfirmed
  | some 7 => .creditOverrun
  | _ => .childExit

/-- `LiveChild`: a spawn, its planes and its process. -/
structure FrontChild where
  acked : Bool
  bound : Bool
  settled : Bool
  exited : Bool
  /-- The listeners of the planes are detached. -/
  planesDisposed : Bool
  /-- `kill` has been called. -/
  killed : Bool
  /-- The process has reported an error. -/
  errored : Bool

namespace FrontChild

/-- A child that has just been spawned. -/
def fresh : FrontChild := ⟨false, false, false, false, false, false, false⟩

/-- Main has not killed the child, and has not been told that it is gone. -/
def running (child : FrontChild) : Bool := !child.killed && !child.exited && !child.errored

end FrontChild

/-- A restart that waits for the exit of a child: `awaitChildExit`, and what it is resolved to. -/
structure ExitWait where
  token : Nat
  observed : Option Bool
  deriving DecidableEq

/-- What `spawnFront` and the encoder of `HELLO` answer: how many spawns throw before one does not,
and whether its `HELLO` is refused. -/
structure SpawnAnswers where
  throws : Nat
  helloRefused : Bool
  deriving DecidableEq

/-- `FrontSupervisor`, the children it has spawned and the callers of `start`. -/
structure FrontChildren where
  state : FrontSupervisorState
  failureName : Option FrontFailureName
  /-- The token of the live child. -/
  live : Option Nat
  /-- There is a relay. -/
  relay : Bool
  restartCount : Nat
  spawnToken : Nat
  quitRequested : Bool
  /-- The token of the child for which the timer is armed. -/
  bringupTimer : Option Nat
  lockTimer : Bool
  /-- The caller that `startSettle` resolves. -/
  startSettle : Option Nat
  /-- The quits that wait for `QUIT_ACK` or for the deadline. -/
  quits : Nat
  /-- The children, by their tokens. -/
  children : Nat → Option FrontChild
  /-- The restarts that wait for an exit. -/
  waits : List ExitWait
  /-- The units of the budget that each child has spent. -/
  spent : Nat → Nat
  /-- The children spawned since the last `start`. -/
  spawned : Nat
  /-- The callers of `start` so far, and those that wait. -/
  callers : Nat
  waiting : List Nat

/-- An event of plane 4. What the validation of a frame of the bootstrap finds wrong, and what the
relay reports of the frames it is given, come with the frame. -/
inductive ControlUpEvent where
  | malformed
  | helloAck (wrong : Option FrontFailureName)
  | bound (wrong : Option FrontFailureName)
  | lockAck
  | quitAck
  | pong
  | error (name : Option ErrorCode)
  | relayed (fatal : Option FatalName)
  | other

inductive DataUpEvent where
  | malformed
  | relayed (fatal : Option FatalName)
  deriving DecidableEq

inductive ChildrenEvent where
  | start (answers : SpawnAnswers)
  | lock
  | quit
  /-- `QUIT_ACK` or the deadline of a quit. -/
  | quitResumes
  | dispose
  | controlUp (token : Nat) (batch : List ControlUpEvent)
  | dataUp (token : Nat) (batch : List DataUpEvent) (afterBatch : Option FatalName)
  /-- The relay reports something outside a batch. -/
  | relayFatal (failure : FatalName)
  | planeEof (token : Nat) (answers : SpawnAnswers)
  | planeError (token : Nat) (answers : SpawnAnswers)
  | processError (token : Nat) (answers : SpawnAnswers)
  | exits (token : Nat) (code : Option Int) (answers : SpawnAnswers)
  | bringupExpires (answers : SpawnAnswers)
  | lockExpires
  /-- The timer of a restart's wait. -/
  | exitWaitExpires (index : Nat)
  /-- A restart goes on when its wait is over. -/
  | restartResumes (index : Nat) (answers : SpawnAnswers)

namespace FrontChildren

def initial : FrontChildren where
  state := .idle
  failureName := none
  live := none
  relay := false
  restartCount := 0
  spawnToken := 0
  quitRequested := false
  bringupTimer := none
  lockTimer := false
  startSettle := none
  quits := 0
  children := fun _ => none
  waits := []
  spent := fun _ => 0
  spawned := 0
  callers := 0
  waiting := []

/-! ## Children -/

def updateChild (s : FrontChildren) (token : Nat) (change : FrontChild → FrontChild) :
    FrontChildren :=
  { s with children := fun other =>
    if other = token then (s.children other).map change else s.children other }

def liveChild (s : FrontChildren) : Option FrontChild := s.live.bind s.children

def updateLive (s : FrontChildren) (change : FrontChild → FrontChild) : FrontChildren :=
  { s with children := fun other =>
    if s.live = some other then (s.children other).map change else s.children other }

/-! ## Failures and restarts -/

def settleStart (s : FrontChildren) : FrontChildren :=
  { s with
    startSettle := none
    waiting := match s.startSettle with
      | none => s.waiting
      | some caller => s.waiting.erase caller }

def finishFailed (s : FrontChildren) (failure : FrontFailureName) : FrontChildren :=
  settleStart { s with state := .failed, failureName := some failure }

def giveUp (s : FrontChildren) (alreadyDead : Bool) : FrontChildren :=
  { s.updateLive fun child =>
    { child with planesDisposed := true, killed := child.killed || !alreadyDead } with
  bringupTimer := none
  lockTimer := false
  relay := false
  live := none }

/-- A child spends a unit of the budget. -/
def spend (s : FrontChildren) (token : Nat) : FrontChildren :=
  { s with
    restartCount := s.restartCount + 1
    spent := fun other => if other = token then s.spent token + 1 else s.spent other }

def mayRestart (s : FrontChildren) : Bool :=
  !s.quitRequested && s.state != .stopped && s.live.isNone

/-- `scheduleRestart`, and whether the replacement is spawned at once. -/
def scheduleRestart (s : FrontChildren) (live : Option Nat) : FrontChildren × Bool :=
  let s := { s with state := .starting }
  match live with
  | none => (s, s.mayRestart)
  | some token =>
    let observed := if (s.children token).any FrontChild.exited then some true else none
    ({ s with waits := s.waits ++ [⟨token, observed⟩] }, false)

/-- A failure that counts: a restart, or the end. -/
def account (s : FrontChildren) (token : Nat) (failure : FrontFailureName) (alreadyDead : Bool) :
    FrontChildren × Bool :=
  let live := s.live
  let s := s.giveUp alreadyDead
  if ¬failure.isRestartable then (s.finishFailed failure, false)
  else if s.restartCount ≤ frontMaxRestarts then (s.spend token).scheduleRestart live
  else (s.finishFailed .restartBudgetExhausted, false)

/-- `fail`, and whether the replacement is spawned at once. -/
def fail (s : FrontChildren) (token : Nat) (failure : FrontFailureName) (alreadyDead : Bool) :
    FrontChildren × Bool :=
  if s.live.any (· ≠ token) then (s, false)
  else if s.live = none ∧ token ≠ s.spawnToken then (s, false)
  else if s.liveChild.any FrontChild.settled then (s, false)
  else
    let s := s.updateLive fun child => { child with settled := true }
    if s.state = .stopped ∨ s.quitRequested then (s, false)
    else s.account token failure alreadyDead

/-- `failCurrent`: there is a live child, and its replacement waits for its exit. -/
def failCurrent (s : FrontChildren) (failure : FrontFailureName) : FrontChildren :=
  match s.live with
  | none => s
  | some token => (s.fail token failure false).1

/-! ## Spawning -/

/-- `spawnOnce`, up to the spawn. -/
def beginSpawn (s : FrontChildren) : FrontChildren :=
  { s with state := .starting, failureName := none, spawnToken := s.spawnToken + 1 }

/-- The child of a spawn becomes the live child. -/
def adopt (s : FrontChildren) : FrontChildren :=
  { s with
    live := some s.spawnToken
    children := fun other => if other = s.spawnToken then some .fresh else s.children other
    bringupTimer := some s.spawnToken
    spawned := s.spawned + 1 }

/-- `spawnOnce`. A spawn that throws fails, and when it may be restarted the next one follows. -/
def spawnOnce (helloRefused : Bool) : Nat → FrontChildren → FrontChildren
  | 0, s =>
    let s := s.beginSpawn.adopt
    if helloRefused then (s.fail s.spawnToken .spawnFailed false).1 else s
  | throws + 1, s =>
    let s := s.beginSpawn
    let failed := s.fail s.spawnToken .spawnFailed true
    if failed.2 then spawnOnce helloRefused throws failed.1 else failed.1

/-- `fail`, with the spawn that may follow. -/
def failThen (s : FrontChildren) (answers : SpawnAnswers) (token : Nat)
    (failure : FrontFailureName) (alreadyDead : Bool) : FrontChildren :=
  let failed := s.fail token failure alreadyDead
  if failed.2 then spawnOnce answers.helloRefused answers.throws failed.1 else failed.1

/-! ## The calls -/

def start (s : FrontChildren) (answers : SpawnAnswers) : FrontChildren :=
  if s.state = .serving then s
  else
    spawnOnce answers.helloRefused answers.throws { s with
        startSettle := some s.callers
        callers := s.callers + 1
        waiting := s.waiting ++ [s.callers]
        spawned := 0 }

def lock (s : FrontChildren) : FrontChildren :=
  match s.liveChild with
  | none => s
  | some live =>
    if s.state = .stopped ∨ s.state = .failed then s
    else
      let s := { s with state := .locking }
      if ¬live.acked then s.failCurrent .lockBeforeHelloAck else { s with lockTimer := true }

def dispose (s : FrontChildren) : FrontChildren :=
  let s := s.giveUp false
  { s with state := if s.state = .failed then .failed else .stopped }

/-- `quit`, up to its wait for `QUIT_ACK`. -/
def quit (s : FrontChildren) : FrontChildren :=
  let s := { s with quitRequested := true }
  match s.liveChild with
  | none => { s with state := .stopped }
  | some live =>
    let s := { s with state := .quitting }
    if live.acked then { s with quits := s.quits + 1 } else s.dispose

/-! ## The planes -/

def handleErrorFrame (s : FrontChildren) : Option ErrorCode → FrontChildren × Bool
  | none => (s.failCurrent .frontError, false)
  | some .sddlReadbackMismatch => (s.failCurrent .sddlReadbackMismatch, false)
  | some .admissionEpochExhausted => (s.failCurrent .admissionEpochExhausted, false)
  | some _ => (s, true)

def relayReports (s : FrontChildren) : Option FatalName → FrontChildren
  | none => s
  | some failure => s.failCurrent failure.failure

/-- `BOUND`: the front serves. -/
def serve (s : FrontChildren) : FrontChildren :=
  settleStart { s.updateLive fun child => { child with bound := true } with
    bringupTimer := none
    relay := true
    state := .serving }

/-- `handleControlFrame`, and whether the batch goes on. -/
def handleControlFrame (s : FrontChildren) (event : ControlUpEvent) : FrontChildren × Bool :=
  match s.liveChild with
  | none => (s, false)
  | some live =>
    match event with
    | .malformed => (s.failCurrent .malformedFrame, false)
    | .helloAck wrong =>
      if live.acked then (s.failCurrent .unexpectedFrame, false)
      else
        match wrong with
        | some failure => (s.failCurrent failure, false)
        | none => (s.updateLive fun child => { child with acked := true }, true)
    | .bound wrong =>
      if ¬live.acked ∨ live.bound then (s.failCurrent .unexpectedFrame, false)
      else
        match wrong with
        | some failure => (s.failCurrent failure, false)
        | none => (s.serve, true)
    | .lockAck =>
      let s := { s with lockTimer := false }
      (if s.state = .locking then { s with state := .serving } else s, true)
    | .quitAck => (s, true)
    | .pong => (s, true)
    | .error name => s.handleErrorFrame name
    | .relayed fatal =>
      if ¬s.relay then (s.failCurrent .unexpectedFrame, false)
      else
        let s := s.relayReports fatal
        (s, s.state == .serving || s.state == .locking)
    | .other => (s.failCurrent .unexpectedFrame, false)

def handleControlBatch : FrontChildren → List ControlUpEvent → FrontChildren
  | s, [] => s
  | s, event :: batch =>
    let handled := s.handleControlFrame event
    if handled.2 then handled.1.handleControlBatch batch else handled.1

/-- `handleDataBatch`. The relay is the one there was at its beginning. -/
def handleDataBatch (relay : Bool) (afterBatch : Option FatalName) :
    FrontChildren → List DataUpEvent → FrontChildren
  | s, [] => if relay then s.relayReports afterBatch else s
  | s, .malformed :: _ => s.failCurrent .malformedFrame
  | s, .relayed fatal :: batch =>
    if ¬relay then s.failCurrent .unexpectedFrame
    else handleDataBatch relay afterBatch (s.relayReports fatal) batch

/-! ## The process -/

def handleExit (s : FrontChildren) (answers : SpawnAnswers) (token : Nat) (code : Option Int) :
    FrontChildren :=
  if s.quitRequested ∨ s.state = .stopped then s
  else if s.live.any (· ≠ token) then s
  -- The parent is gone.
  else if code = some 9 then { s with state := .stopped }
  else s.failThen answers token (frontExitFailure code) true

def childExits (s : FrontChildren) (answers : SpawnAnswers) (token : Nat) (code : Option Int) :
    FrontChildren :=
  match s.children token with
  | none => s
  | some child =>
    let s := { s.updateChild token fun child => { child with exited := true } with
      waits := s.waits.map fun wait =>
        if wait.token = token ∧ wait.observed = none then { wait with observed := some true }
        else wait }
    if child.settled then s else s.handleExit answers token code

/-- The listener of the ends and the errors of a child's planes. -/
def planeFails (s : FrontChildren) (answers : SpawnAnswers) (token : Nat)
    (failure : FrontFailureName) : FrontChildren :=
  if (s.children token).all FrontChild.planesDisposed then s
  else s.failThen answers token failure false

def processErrors (s : FrontChildren) (answers : SpawnAnswers) (token : Nat) : FrontChildren :=
  if s.children token = none then s
  else
    (s.updateChild token fun child => { child with errored := true }).failThen answers token
      .spawnFailed true

/-- The planes of a child are listened to, and it is the live child. -/
def hears (s : FrontChildren) (token : Nat) : Bool :=
  (s.children token).any (!·.planesDisposed) && s.live == some token

/-- A restart whose wait is over goes on: `resume`. -/
def restartResumes (s : FrontChildren) (answers : SpawnAnswers) (index : Nat) : FrontChildren :=
  match s.waits[index]? with
  | some ⟨_, some _⟩ =>
    let s := { s with waits := s.waits.eraseIdx index }
    if s.mayRestart then spawnOnce answers.helloRefused answers.throws s else s
  | _ => s

def step (s : FrontChildren) : ChildrenEvent → FrontChildren
  | .start answers => s.start answers
  | .lock => s.lock
  | .quit => s.quit
  | .quitResumes => if s.quits = 0 then s else { s with quits := s.quits - 1 }.dispose
  | .dispose => s.dispose
  | .controlUp token batch => if s.hears token then s.handleControlBatch batch else s
  | .dataUp token batch afterBatch =>
    if s.hears token then s.handleDataBatch s.relay afterBatch batch else s
  | .relayFatal failure => s.failCurrent failure.failure
  | .planeEof token answers => s.planeFails answers token .planeEof
  | .planeError token answers => s.planeFails answers token .planeIoError
  | .processError token answers => s.processErrors answers token
  | .exits token code answers => s.childExits answers token code
  | .bringupExpires answers =>
    match s.bringupTimer with
    | none => s
    | some token => { s with bringupTimer := none }.failThen answers token .childExit false
  | .lockExpires => if s.lockTimer then { s with lockTimer := false }.failCurrent .lockAckTimeout
      else s
  | .exitWaitExpires index =>
    { s with waits := s.waits.modify index fun wait =>
      if wait.observed = none then { wait with observed := some false } else wait }
  | .restartResumes index answers => s.restartResumes answers index

end FrontChildren

end Vex.Studio
