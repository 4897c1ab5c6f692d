import Vex.Runtime.Missions

/-!
# The runner lease of a session

The table holds at most one lease for a session, so the repository's statements
are functions on the row that is there, or on none. Each statement is given the
moment its transaction began.
-/

namespace Vex.Runtime

open Vex.Library

inductive LeaseProcessKind where
  | electronMain
  | agentWorker
  | test
  deriving DecidableEq

/-- `RunnerLease`, of the one session. -/
structure RunnerLease where
  missionRunId : Option JsString
  ownerId : JsString
  processKind : LeaseProcessKind
  acquiredAt : Instant
  heartbeatAt : Instant
  expiresAt : Instant
  deriving DecidableEq

/-- `AcquireInput`, of the one session. -/
structure AcquireInput where
  missionRunId : Option JsString
  ownerId : JsString
  processKind : LeaseProcessKind
  ttlMs : Nat

/-- The row `acquireLease` writes, inserted or over the one that was there. -/
def AcquireInput.lease (input : AcquireInput) (now : Instant) : RunnerLease where
  missionRunId := input.missionRunId
  ownerId := input.ownerId
  processKind := input.processKind
  acquiredAt := now
  heartbeatAt := now
  expiresAt := now + input.ttlMs

/-- `acquireLease`: the row it returns, none where the conflict path matches nothing. -/
def acquireLease (now : Instant) (input : AcquireInput) : Option RunnerLease → Option RunnerLease
  | none => some (input.lease now)
  | some row =>
    if row.expiresAt < now ∨ row.ownerId = input.ownerId then some (input.lease now) else none

/-- `renewLease`: the row it returns. -/
def renewLease (now : Instant) (ownerId : JsString) (ttlMs : Nat) :
    Option RunnerLease → Option RunnerLease
  | none => none
  | some row =>
    if row.ownerId = ownerId then
      some { row with heartbeatAt := now, expiresAt := now + ttlMs }
    else none

/-- `releaseLease` deletes the row it is asked about. -/
def releaseLease (ownerId : JsString) (row : RunnerLease) : Bool := row.ownerId = ownerId

/-- The check a claim makes on the lease it has locked, with the reading of `new Date()`. -/
def leaseBusy (newDate : Instant) (ownerId : JsString) (row : RunnerLease) : Bool :=
  row.expiresAt ≥ newDate ∧ row.ownerId ≠ ownerId

variable {now : Instant} {ownerId : JsString} {ttlMs : Nat}

theorem renewLease_eq_some {row : Option RunnerLease} {lease : RunnerLease}
    (renewed : renewLease now ownerId ttlMs row = some lease) :
    ∃ old, row = some old ∧ old.ownerId = ownerId ∧ lease.ownerId = ownerId := by
  unfold renewLease at renewed
  split at renewed
  · cases renewed
  · rename_i old
    split_ifs at renewed with own
    cases renewed
    exact ⟨old, rfl, own, own⟩

theorem renewLease_eq_none {row : RunnerLease}
    (missed : renewLease now ownerId ttlMs (some row) = none) : row.ownerId ≠ ownerId := by
  intro own
  simp [renewLease, own] at missed

end Vex.Runtime
