import Mathlib.Algebra.BigOperators.Group.List.Basic
import Mathlib.Algebra.Ring.Nat

/-!
# The flow-control accounts of the front

`Grant` is the credit main gave a connection for its reads, `Window` what main has written to it
and the front has not acknowledged. Both are bounded by one window. An operation that would break
a bound, or an acknowledgement out of turn, is a violation with the name it has on the wire.
-/

namespace Vex.Bridge

def windowBytes : Nat := 65536

def chunkBytes : Nat := 32768

/-- The names of a `Violation`. -/
inductive ViolationName where
  | creditOverrun
  | duplicateCredit
  | writeWindowExceeded
  | ackRegression
  deriving DecidableEq

/-- The conversion `uint32(n)`. -/
def uint32 (n : Nat) : Nat := n % 2 ^ 32

/-! ## Credit for reads -/

/-- `Grant`: the credit that may still be spent. -/
structure Grant where
  outstanding : Nat
  within : outstanding ≤ windowBytes
  deriving DecidableEq

namespace Grant

def new : Grant := ⟨0, Nat.zero_le _⟩

def add (grant : Grant) (bytes : Nat) : Except ViolationName Grant :=
  if bytes = 0 then .error .duplicateCredit
  else if fits : bytes > windowBytes ∨ grant.outstanding > windowBytes - bytes then
    .error .duplicateCredit
  else .ok ⟨grant.outstanding + bytes, by omega⟩

def spend (grant : Grant) (bytes : Nat) : Except ViolationName Grant :=
  if bytes = 0 then .error .creditOverrun
  else if bytes > grant.outstanding then .error .creditOverrun
  else .ok ⟨grant.outstanding - bytes, Nat.le_trans (Nat.sub_le _ _) grant.within⟩

def readBudget (grant : Grant) : Nat :=
  if grant.outstanding > chunkBytes then chunkBytes else grant.outstanding

end Grant

/-! ## The window of writes -/

/-- `reservation`: a chunk that main has written and the front has not acknowledged. -/
structure Reservation where
  sequence : Nat
  bytes : Nat
  deriving DecidableEq

def reservedBytes (reserved : List Reservation) : Nat := (reserved.map Reservation.bytes).sum

/-- `Window`: the chunks that are unacknowledged, oldest first. -/
structure Window where
  outstanding : Nat
  ackThrough : Nat
  reserved : List Reservation
  sum : outstanding = reservedBytes reserved
  within : outstanding ≤ windowBytes
  deriving DecidableEq

namespace Window

def new : Window := ⟨0, 0, [], rfl, Nat.zero_le _⟩

def reserve (window : Window) (sequence bytes : Nat) : Except ViolationName Window :=
  if bytes = 0 ∨ bytes > chunkBytes then .error .writeWindowExceeded
  else if fits : bytes > windowBytes ∨ window.outstanding > windowBytes - bytes then
    .error .writeWindowExceeded
  else .ok {
    outstanding := window.outstanding + bytes
    ackThrough := window.ackThrough
    reserved := window.reserved ++ [⟨sequence, bytes⟩]
    sum := by simp [reservedBytes, window.sum]
    within := by omega }

/-- `Window.Complete`: only the oldest chunk can be completed, and only once. -/
def complete (window : Window) (sequence : Nat) : Except ViolationName Window :=
  match oldest : window.reserved with
  | [] => .error .ackRegression
  | head :: rest =>
    if head.sequence ≠ sequence then .error .ackRegression
    else if sequence ≤ window.ackThrough then .error .ackRegression
    else .ok {
      outstanding := window.outstanding - head.bytes
      ackThrough := sequence
      reserved := rest
      sum := by
        have all := window.sum
        rw [oldest] at all
        simp only [reservedBytes, List.map_cons, List.sum_cons] at all ⊢
        omega
      within := Nat.le_trans (Nat.sub_le _ _) window.within }

end Window

end Vex.Bridge
