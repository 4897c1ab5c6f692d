import Vex.Bridge.Credit
import Vex.Library.StreamItems
import Vex.Mcp.PipeFrontFrames

/-!
# One accepted handle

The state the front keeps for a connection, and what it does to that state: the gate in front of
its reads, the queue that waits for plane 6, the queue of what main wrote, and the two half-close
latches, of which neither implies the other. It issues no reads and no writes; the supervisor
asks it what to do next.
-/

namespace Vex.Bridge

open Vex.Library

/-- `State`. -/
inductive ConnState where
  | accepted
  | openSent
  | admitted
  | reading
  | refused
  | closed
  deriving DecidableEq

/-- What breaks a per-connection invariant: a violation of an account, or a `Fault`. -/
inductive FlowError where
  | violation (name : ViolationName)
  | dataAfterEnd
  | internalInvariant
  deriving DecidableEq

/-- `downItem`: a chunk or the half-close, under the plane 5 sequence it arrived on. -/
abbrev DownItem := Nat × StreamItem UInt8

def maxPendingDown : Nat := windowBytes + 1

def maxPendingUp : Nat := windowBytes + 1

structure Conn where
  id : Nat
  state : ConnState
  readEnded : Bool
  writeEnded : Bool
  paused : Bool
  grant : Grant
  window : Window
  readInFlight : Bool
  writeInFlight : Bool
  pendingDown : List DownItem
  pendingUp : List (StreamItem UInt8)
  handshakeSeen : Bool
  throughDataSeq : Nat
  deriving DecidableEq

namespace Conn

def new (id : Nat) : Conn where
  id := id
  state := .accepted
  readEnded := false
  writeEnded := false
  paused := false
  grant := .new
  window := .new
  readInFlight := false
  writeInFlight := false
  pendingDown := []
  pendingUp := []
  handshakeSeen := false
  throughDataSeq := 0

/-! ## Admission -/

def openSent (conn : Conn) : Conn :=
  if conn.state = .accepted then { conn with state := .openSent } else conn

def admit_ (conn : Conn) : Conn :=
  if conn.state = .openSent ∨ conn.state = .accepted then { conn with state := .admitted } else conn

def Admitted (conn : Conn) : Prop := conn.state = .admitted ∨ conn.state = .reading

instance (conn : Conn) : Decidable conn.Admitted := inferInstanceAs (Decidable (_ ∨ _))

def refuse (conn : Conn) : Conn := { conn with state := .refused }

def pause (conn : Conn) : Conn := { conn with paused := true }

def resume (conn : Conn) : Conn := { conn with paused := false }

/-! ## Reading -/

def grantCredit (conn : Conn) (bytes : Nat) : Except FlowError Conn :=
  match conn.grant.add bytes with
  | .error name => .error (.violation name)
  | .ok grant => .ok { conn with grant := grant }

def readBudget (conn : Conn) : Nat :=
  if conn.readInFlight ∨ conn.paused ∨ conn.readEnded then 0
  else if conn.state ≠ .admitted ∧ conn.state ≠ .reading then 0
  else conn.grant.readBudget

def readIssued (conn : Conn) : Conn :=
  { conn with
    readInFlight := true
    state := if conn.state = .admitted then .reading else conn.state }

/-- `Conn.AcceptRead`: the credit is charged here, when the bytes leave the operating system. -/
def acceptRead (conn : Conn) (chunk : List UInt8) : Except FlowError (Bool × Conn) :=
  if chunk.length = 0 then .error .internalInvariant
  else if conn.readEnded then .error .dataAfterEnd
  else if conn.pendingUp.length ≥ maxPendingUp then .error .internalInvariant
  else
    match conn.grant.spend (uint32 chunk.length) with
    | .error name => .error (.violation name)
    | .ok grant =>
      let completed := !conn.handshakeSeen && chunk.contains 10
      .ok (completed, { conn with
        readInFlight := false
        grant := grant
        pendingUp := conn.pendingUp ++ [.chunk chunk]
        handshakeSeen := conn.handshakeSeen || completed })

def peerEnded (conn : Conn) : Except FlowError Conn :=
  if conn.readEnded then .error .dataAfterEnd
  else if conn.pendingUp.length ≥ maxPendingUp then .error .internalInvariant
  else .ok { conn with
    readInFlight := false
    readEnded := true
    pendingUp := conn.pendingUp ++ [.fin] }

def readFailed (conn : Conn) : Conn := { conn with readInFlight := false }

def HasUpward (conn : Conn) : Bool := !conn.pendingUp.isEmpty

def takeUpward (conn : Conn) (sequence : Nat) : Except FlowError (StreamItem UInt8 × Conn) :=
  match conn.pendingUp with
  | [] => .error .internalInvariant
  | item :: rest => .ok (item, { conn with pendingUp := rest, throughDataSeq := sequence })

/-! ## Writing -/

/-- `Conn.QueueDown`: the window is charged here, when the frame is decoded. -/
def queueDown (conn : Conn) (sequence : Nat) (payload : List UInt8) : Except FlowError Conn :=
  if conn.writeEnded then .error .dataAfterEnd
  else if conn.pendingDown.length ≥ maxPendingDown then .error .internalInvariant
  else
    match conn.window.reserve sequence (uint32 payload.length) with
    | .error name => .error (.violation name)
    | .ok window => .ok { conn with
        window := window
        pendingDown := conn.pendingDown ++ [(sequence, .chunk payload)] }

/-- `Conn.QueueDownEnd`: the latch closes when the mark is queued. -/
def queueDownEnd (conn : Conn) (sequence : Nat) : Except FlowError Conn :=
  if conn.writeEnded then .error .dataAfterEnd
  else if conn.pendingDown.length ≥ maxPendingDown then .error .internalInvariant
  else .ok { conn with
    writeEnded := true
    pendingDown := conn.pendingDown ++ [(sequence, .fin)] }

def nextDown (conn : Conn) : Option (DownItem × Conn) :=
  match conn.pendingDown with
  | [] => none
  | item :: rest =>
    if conn.writeInFlight ∨ conn.state = .closed then none
    else some (item, { conn with pendingDown := rest, writeInFlight := true })

/-- `Conn.WriteCompleted`: the acknowledgement a `WRITE_DONE` may carry. -/
def writeCompleted (conn : Conn) (sequence : Nat) : Except FlowError (Nat × Conn) :=
  match conn.window.complete sequence with
  | .error name => .error (.violation name)
  | .ok window => .ok (window.ackThrough, { conn with writeInFlight := false, window := window })

def endCompleted (conn : Conn) : Conn := { conn with writeInFlight := false }

def writeFailed (conn : Conn) : Conn := { conn with writeInFlight := false }

def markClosed (conn : Conn) : Conn :=
  { conn with
    state := .closed
    pendingDown := []
    pendingUp := []
    readInFlight := false
    writeInFlight := false }

/-! ## What an accepted call leaves -/

section

variable {conn conn' : Conn} {bytes sequence : Nat} {chunk : List UInt8}

theorem grantCredit_spec (granted : conn.grantCredit bytes = .ok conn') :
    ∃ grant, conn' = { conn with grant := grant } := by
  unfold grantCredit at granted
  split at granted
  · cases granted
  · exact ⟨_, (Except.ok.inj granted).symm⟩

theorem acceptRead_spec {completed : Bool} (accepted : conn.acceptRead chunk = .ok (completed, conn')) :
    ∃ grant seen, conn' = { conn with
      readInFlight := false, grant := grant, pendingUp := conn.pendingUp ++ [.chunk chunk]
      handshakeSeen := seen } := by
  unfold acceptRead at accepted
  split_ifs at accepted
  split at accepted
  · cases accepted
  · exact ⟨_, _, (Prod.mk.inj (Except.ok.inj accepted)).2.symm⟩

theorem peerEnded_spec (ended : conn.peerEnded = .ok conn') : conn' = { conn with
      readInFlight := false, readEnded := true, pendingUp := conn.pendingUp ++ [.fin] } := by
  unfold peerEnded at ended
  split_ifs at ended
  exact (Except.ok.inj ended).symm

theorem queueDown_spec (queued : conn.queueDown sequence chunk = .ok conn') :
    ∃ window, conn' = { conn with
      window := window, pendingDown := conn.pendingDown ++ [(sequence, .chunk chunk)] } := by
  unfold queueDown at queued
  split_ifs at queued
  split at queued
  · cases queued
  · exact ⟨_, (Except.ok.inj queued).symm⟩

theorem queueDownEnd_spec (queued : conn.queueDownEnd sequence = .ok conn') : conn' = { conn with
      writeEnded := true, pendingDown := conn.pendingDown ++ [(sequence, .fin)] } := by
  unfold queueDownEnd at queued
  split_ifs at queued
  exact (Except.ok.inj queued).symm

theorem writeCompleted_spec {through : Nat}
    (completed : conn.writeCompleted sequence = .ok (through, conn')) :
    ∃ window, conn' = { conn with writeInFlight := false, window := window } := by
  unfold writeCompleted at completed
  split at completed
  · cases completed
  · exact ⟨_, (Prod.mk.inj (Except.ok.inj completed)).2.symm⟩

end

/-! ## What gates a read -/

theorem readBudget_pos {conn : Conn} (positive : 0 < conn.readBudget) :
    conn.Admitted ∧ conn.paused = false ∧ conn.readEnded = false ∧ conn.readInFlight = false ∧
      conn.readBudget = conn.grant.readBudget := by
  unfold readBudget at positive ⊢
  split at positive
  · cases positive
  · rename_i idle
    rw [if_neg idle]
    simp only [not_or, Bool.not_eq_true] at idle
    split at positive
    · cases positive
    · rename_i state
      refine ⟨?_, idle.2.1, idle.2.2, idle.1, if_neg state⟩
      unfold Admitted
      by_contra other
      exact state ⟨fun same => other (.inl same), fun same => other (.inr same)⟩

theorem readIssued_admitted {conn : Conn} : conn.readIssued.Admitted ↔ conn.Admitted := by
  unfold readIssued Admitted
  by_cases fresh : conn.state = .admitted
  · simp [fresh]
  · simp [fresh]

end Conn

end Vex.Bridge
