import Vex.Library.StreamItems
import Vex.Mcp.PipeFrontFrames

/-!
# The frames of the relay, as they are handled

Main and the front exchange control frames and data frames. What a decoder delivers of a frame is
the connection it names, its sequence on a data plane, and its body. The bootstrap exchange is
over before the first of these.
-/

namespace Vex.Bridge

open Vex.Library
open Vex.Mcp.PipeFront (PeerClosedReason)

inductive ControlDown where
  | hello
  | admission (admissionEpoch : Nat)
  | refuse (bytes : List UInt8)
  | credit (bytes : Nat)
  | pause
  | resume
  | close
  | lock (admissionEpoch : Nat)
  | quit (deadlineMs : Nat)
  | ping (nonce : Nat)

inductive ErrorCode where
  | malformedMainFrame
  | planeReadFailed
  | planeWriteFailed
  | listenerBindFailed
  | sddlReadbackMismatch
  | admissionEpochExhausted
  | connectionIdsExhausted
  | creditViolation
  | internalInvariant
  deriving DecidableEq

inductive ControlUp where
  | «open»
  | writeDone (ackThroughSequence : Nat)
  | peerClosed (reason : PeerClosedReason) (throughDataSequence : Nat)
  | lockAck (admissionEpoch closedCount : Nat)
  | quitAck
  | pong (nonce : Nat)
  | error (code : ErrorCode) (count : Nat)

/-- A frame of plane 3: the connection it names, 0 for none, and its body. -/
abbrev ControlDownFrame := Nat × ControlDown

abbrev ControlUpFrame := Nat × ControlUp

/-- `DATA` or `END` on plane 5 or 6: the connection, the sequence and the item. -/
abbrev DataFrame := Nat × Nat × StreamItem UInt8

namespace ControlDown

def credited : ControlDown → Option Nat
  | .credit bytes => some bytes
  | _ => none

def isLock : ControlDown → Bool
  | .lock _ => true
  | _ => false

end ControlDown

namespace ControlUp

def acknowledged : ControlUp → Option Nat
  | .writeDone ackThroughSequence => some ackThroughSequence
  | _ => none

/-- The sequence through which plane 6 was delivered before a connection closed. -/
def closing : ControlUp → Option Nat
  | .peerClosed _ throughDataSequence => some throughDataSequence
  | _ => none

def isOpen : ControlUp → Bool
  | .open => true
  | _ => false

end ControlUp

/-- The acknowledgements of a connection among frames of plane 4. -/
def acksOf (id : Nat) (frames : List ControlUpFrame) : List Nat :=
  (ofTag id frames).filterMap ControlUp.acknowledged

def opensOf (frames : List ControlUpFrame) : List Nat :=
  (frames.filter fun frame => frame.2.isOpen).map Prod.fst

@[simp] theorem acksOf_nil (id : Nat) : acksOf id [] = [] := rfl

@[simp] theorem acksOf_append (id : Nat) (frames later : List ControlUpFrame) :
    acksOf id (frames ++ later) = acksOf id frames ++ acksOf id later := by
  simp [acksOf]

variable {connection : Nat} {payload : ControlUp}

theorem acksOf_cons_silent {id : Nat} (silent : payload.acknowledged = none)
    (frames : List ControlUpFrame) :
    acksOf id ((connection, payload) :: frames) = acksOf id frames := by
  unfold acksOf
  by_cases same : connection = id
  · rw [same, ofTag_cons_self, List.filterMap_cons_none silent]
  · rw [ofTag_cons_of_ne same]

@[simp] theorem opensOf_nil : opensOf [] = [] := rfl

@[simp] theorem opensOf_append (frames later : List ControlUpFrame) :
    opensOf (frames ++ later) = opensOf frames ++ opensOf later := by
  simp [opensOf]

theorem opensOf_cons_other (other : payload.isOpen = false) (frames : List ControlUpFrame) :
    opensOf ((connection, payload) :: frames) = opensOf frames := by
  simp [opensOf, other]

end Vex.Bridge
