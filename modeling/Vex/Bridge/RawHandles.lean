import Vex.Bridge.Front
import Vex.Library.Runs

/-!
# The raw handles

The accept loop counts a handle when `Accept` has returned it and hands it to the front through the
control channel, or closes it. The front closes it later, and its slot is released after each
close. `FrontProcess` is both, with the count between them. A step of the supervisor changes its
tables at once, and what it does to raw handles is then performed one operation after another,
between which the accept loop may act; the supervisor takes its next event when all are performed.

When the front has ended it flushes plane 4, for which it reads the control channel, and drops an
accepted handle that it finds there.
-/

namespace Vex.Bridge

open Vex.Library

def maxRawHandles : Nat := 21

/-- Where `Serve` is: a handle it holds is accepted, then counted, and either admitted or to be
closed; `last` says that the loop ends with it. -/
inductive AcceptLoop where
  | accepting
  | accepted (handle : Nat) (halfCloses : Bool)
  | admitted (handle : Nat) (halfCloses : Bool)
  | closing (handle : Nat) (last : Bool)
  | releasing (handle : Nat) (last : Bool)
  | ended
  deriving DecidableEq

/-- The accept loop, the supervisor, and what is between them. -/
structure FrontProcess where
  front : Front
  /-- The operations of `front.ops` that are performed. -/
  performed : Nat
  /-- `RawHandles.live`. -/
  raw : Nat
  loop : AcceptLoop
  /-- The handles that `Accept` has returned are those below. -/
  handles : Nat
  /-- The accepted handles in the control channel. -/
  ctrl : List (Nat × Bool)
  /-- What was done to raw handles, in order. -/
  log : List RawOp
  /-- The handles that the flush of plane 4 has taken from the channel. -/
  swallowed : List Nat
  /-- `stopEverything` has run: the listener and `done` are closed. -/
  stopped : Bool

inductive Act where
  | accept (halfCloses : Bool)
  | acquire
  | deliver
  | reject
  | close
  | release
  | leave
  | perform
  | handle (fuel : Nat) (event : FrontEvent)
  | take (fuel : Nat)
  | pump (fuel : Nat)
  | flush (written : Bool)
  | swallow
  | stop

namespace Front

/-- `Supervisor.stopEverything`, as far as it concerns connections. -/
def stopEverything (s : Front) : Front :=
  s.sup.order.foldl (fun s id =>
    match s.sup.live id with
    | none => s
    | some conn => s.shut conn)
  { s with timers := [] }

def registered (s : Front) : List Nat := s.sup.order.map s.wires

/-- The pump of `flushControlUp`. -/
def flush (s : Front) (written : Bool) : Front :=
  pumpControlUp { s with sup := { s.sup with controlUp := { s.sup.controlUp with
      busy := s.sup.controlUp.busy && !written } } }

end Front

namespace FrontProcess

def start (initialAdmissionEpoch : Nat) (timeoutRefusalBytes : List UInt8) : FrontProcess where
  front := .start initialAdmissionEpoch timeoutRefusalBytes
  performed := 0
  raw := 0
  loop := .accepting
  handles := 0
  ctrl := []
  log := []
  swallowed := []
  stopped := false

/-- The supervisor has performed what its last step does to raw handles. -/
def Idle (p : FrontProcess) : Prop := p.performed = p.front.ops.length

instance (p : FrontProcess) : Decidable p.Idle := inferInstanceAs (Decidable (_ = _))

def Flushing (p : FrontProcess) : Prop :=
  p.Idle ∧ p.front.sup.terminal = true ∧ p.stopped = false

instance (p : FrontProcess) : Decidable p.Flushing := inferInstanceAs (Decidable (_ ∧ _))

/-- An event that does not come from the accept loop. -/
def isOther : FrontEvent → Bool
  | .accepted _ => false
  | _ => true

/-- `RawHandles.Release`. -/
def released (p : FrontProcess) (handle : Nat) : FrontProcess :=
  { p with log := p.log ++ [.released handle], raw := p.raw - 1 }

def performs (p : FrontProcess) : RawOp → FrontProcess
  | .closed handle => { p with log := p.log ++ [.closed handle] }
  | .released handle => p.released handle

/-- The front after a step of the supervisor that returns. -/
def moved (p : FrontProcess) (front : Option Front) (ctrl : List (Nat × Bool)) : FrontProcess :=
  match front with
  | none => p
  | some front => { p with front := front, ctrl := ctrl }

/-- One step; a step that cannot be taken changes nothing. -/
def step (p : FrontProcess) : Act → FrontProcess
  | .accept halfCloses =>
    if p.loop = .accepting then
      { p with loop := .accepted p.handles halfCloses, handles := p.handles + 1 }
    else p
  | .acquire =>
    match p.loop with
    | .accepted handle halfCloses =>
      { p with
        raw := p.raw + 1
        loop := if p.raw + 1 ≤ maxRawHandles then .admitted handle halfCloses
          else .closing handle false }
    | _ => p
  | .deliver =>
    match p.loop with
    | .admitted handle halfCloses =>
      { p with ctrl := p.ctrl ++ [(handle, halfCloses)], loop := .accepting }
    | _ => p
  | .reject =>
    match p.loop with
    | .admitted handle _ => if p.stopped then { p with loop := .closing handle true } else p
    | _ => p
  | .close =>
    match p.loop with
    | .closing handle last =>
      { p with log := p.log ++ [.closed handle], loop := .releasing handle last }
    | _ => p
  | .release =>
    match p.loop with
    | .releasing handle last =>
      { p.released handle with loop := if last then .ended else .accepting }
    | _ => p
  | .leave => if p.loop = .accepting ∧ p.stopped then { p with loop := .ended } else p
  | .perform =>
    match p.front.ops[p.performed]? with
    | none => p
    | some op => { p.performs op with performed := p.performed + 1 }
  | .handle fuel event =>
    if p.Idle ∧ p.stopped = false ∧ isOther event ∧
        (p.front.sup.terminal = false ∨ Front.isFrame event) then
      p.moved (p.front.handle fuel 0 event) p.ctrl
    else p
  | .take fuel =>
    match p.ctrl with
    | [] => p
    | (handle, halfCloses) :: rest =>
      if p.Idle ∧ p.front.sup.terminal = false then
        p.moved (p.front.handle fuel handle (.accepted halfCloses)) rest
      else p
  | .pump fuel =>
    if p.Idle ∧ p.front.sup.terminal = false then p.moved (p.front.pump fuel) p.ctrl else p
  | .flush written => if p.Flushing then { p with front := p.front.flush written } else p
  | .swallow =>
    match p.ctrl with
    | [] => p
    | (handle, _) :: rest =>
      if p.Flushing then { p with ctrl := rest, swallowed := p.swallowed ++ [handle] } else p
  | .stop =>
    if p.Flushing then { p with front := p.front.stopEverything, stopped := true } else p

/-! ## What the count is to mean -/

/-- The handle that the accept loop holds. -/
def held (p : FrontProcess) : List Nat :=
  match p.loop with
  | .accepting | .ended => []
  | .accepted handle _ | .admitted handle _ | .closing handle _ | .releasing handle _ => [handle]

/-- A handle that `Accept` has returned and `Acquire` has not counted. -/
def uncounted (p : FrontProcess) : Nat :=
  match p.loop with
  | .accepted _ _ => 1
  | _ => 0

/-- The number of accepted handles that are not closed. -/
def unclosed (p : FrontProcess) : Nat := (List.range p.handles).countP fun h => .closed h ∉ p.log

/-- The number of handles that are closed and whose slot is not released. -/
def unreleased (p : FrontProcess) : Nat :=
  (List.range p.handles).countP fun h => .closed h ∈ p.log ∧ .released h ∉ p.log

/-- Neither goroutine is between accepting and counting, or closing and releasing. -/
def Rests (p : FrontProcess) : Prop :=
  p.Idle ∧ (∀ handle halfCloses, p.loop ≠ .accepted handle halfCloses) ∧
    ∀ handle last, p.loop ≠ .releasing handle last

def Over (p : FrontProcess) : Prop := p.Idle ∧ p.stopped = true ∧ p.loop = .ended

/-- Raw handle slots are neither leaked nor released early. -/
structure Accounted (p : FrontProcess) : Prop where
  count : p.raw + p.uncounted = p.unclosed + p.unreleased
  rests : p.Rests → p.raw = p.unclosed
  once : ∀ h, p.log.count (.closed h) ≤ 1 ∧ p.log.count (.released h) ≤ 1
  closeFirst : ∀ before h rest, p.log = before ++ .released h :: rest → .closed h ∈ before
  bounded : p.front.sup.order.length ≤ maxRawHandles
  listed : ∀ id, (p.front.sup.conns id).isSome ∨ id ∈ p.front.sup.order ∨ id ∈ p.front.timers →
    p.front.wires id < p.handles ∧ .closed (p.front.wires id) ∉ p.log
  kept : ∀ h < p.handles, .closed h ∈ p.log ∨ h ∈ p.held ∨ h ∈ p.front.registered ∨
    .closed h ∈ p.front.ops.drop p.performed ∨
    p.front.sup.terminal = false ∧ h ∈ p.ctrl.map Prod.fst
  ended : p.Over → ∀ h < p.handles, p.log.count (.closed h) = 1 ∧ p.log.count (.released h) = 1

/-- No handle is in the channel when the front ends, and none is put there afterwards. -/
def Quiet (p : FrontProcess) (act : Act) : Prop :=
  match act with
  | .deliver => p.front.sup.terminal = false
  | .handle _ _ | .pump _ => (p.step act).front.sup.terminal = true → p.ctrl = []
  | .take _ => (p.step act).front.sup.terminal = true → p.ctrl.tail = []
  | _ => True

instance (p : FrontProcess) : (act : Act) → Decidable (p.Quiet act)
  | .deliver => inferInstanceAs (Decidable (_ = _))
  | .handle _ _ | .pump _ | .take _ => inferInstanceAs (Decidable (_ → _))
  | .accept _ | .acquire | .reject | .close | .release | .leave | .perform | .flush _ | .swallow
  | .stop => .isTrue trivial

end FrontProcess

end Vex.Bridge
