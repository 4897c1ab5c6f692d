import Vex.Activity.Rows

/-!
# The writers that end an activity row

`confirmActivityEvent`, `confirmActivityEventStatusOnly` and `failActivityEvent`
are each one guarded update on the row. What a writer needs to match, besides a
pending row, depends on where it is called from: a handler that returns needs
nothing more, a sweeper needs the row's claim.
-/

namespace Vex.Activity

open Vex.Library
open Vex.Wallet (Instant)

inductive TerminalWriteContext where
  | handlerReturn
  | claim (claimToken : ClaimToken)
  deriving DecidableEq

/-- `claimFence`: the clause a claim adds to the statement. -/
def claimFence (context : TerminalWriteContext) (row : AgentActivityEvent) : Bool :=
  match context with
  | .handlerReturn => true
  | .claim claimToken => row.evmClaimToken = some claimToken

/-- One guarded update of a row that is there: it matches and writes, it misses, or what it
wrote is refused by the checks of the table. -/
def runTerminalCas (guard : Bool) (written row : AgentActivityEvent) (miss : CasResult) :
    Except ActivityError CasResult :=
  if guard ∧ row.status = .pending then
    if written.checks then .ok ⟨true, written, none⟩ else .error .checkViolated
  else .ok miss

def terminalMiss (context : TerminalWriteContext) (row : AgentActivityEvent) : CasResult :=
  match context with
  | .claim _ => if row.status = .pending then ⟨false, row, some .claimLost⟩ else ⟨false, row, none⟩
  | .handlerReturn => ⟨false, row, none⟩

abbrev ConfirmActivityEventInput := ExecutedAmounts

/-- An amount the source reads as missing: it is not given, or it is the empty string. -/
def missing (amount : Option JsString) : Bool := amount = none ∨ amount = some []

def populated (column : Option JsString) : Bool := !missing column

def assertYieldConfirmLegs (current : AgentActivityEvent) (input : ConfirmActivityEventInput) :
    Except ActivityError Unit :=
  match current.eventRole with
  | .yieldClaim =>
    if missing input.outRaw then .error .requiresCreditedIncome
    else if populated input.inRaw then .error .claimSpendsNothing
    else .ok ()
  | .yieldPt | .yieldYt | .yieldSy =>
    if missing input.inRaw ∨ missing input.outRaw then .error .requiresExecutedLegs
    else .ok ()
  | .yieldPy | .yieldLp =>
    if missing input.inRaw ∨ missing input.outRaw then .error .requiresExecutedLegs
    else if populated current.tokenIn2Address ∧ missing input.in2Raw then
      .error .requiresSecondInput
    else if populated current.tokenOut2Address ∧ missing input.out2Raw then
      .error .requiresSecondOutput
    else .ok ()
  | _ => .ok ()

/-- The roles of which the confirmation needs both executed amounts, besides those of a yield. -/
def requiresBothLegs (role : AgentActivityEventRole) : Bool :=
  role = .swap ∨ role = .wrap ∨ role = .unwrap ∨ role = .tokenLaunch

section Writers

variable (now : Instant) (row : AgentActivityEvent)

/-- What the update of `runConfirmActivityEvent` writes. -/
def confirmedWith (input : ConfirmActivityEventInput) : AgentActivityEvent :=
  { row with
    status := .confirmed
    confirmedAt := some now
    updatedAt := now
    executed := input
    confirmationSource := some .toolResponse
    settlementSource :=
      if input.inRaw ≠ none ∨ input.outRaw ≠ none then some .toolResponse else row.settlementSource
    pendingReason := none
    evmClaimLeaseUntil := none
    evmClaimToken := none }

def runConfirmActivityEvent (input : ConfirmActivityEventInput) (context : TerminalWriteContext) :
    Except ActivityError CasResult :=
  if requiresBothLegs row.eventRole ∧ (missing input.inRaw ∨ missing input.outRaw) then
    .error .requiresExecutedLegs
  else
    match assertYieldConfirmLegs row input with
    | .error refused => .error refused
    | .ok () =>
      runTerminalCas (claimFence context row) (confirmedWith now row input) row
        (terminalMiss context row)

/-- What the update of `runConfirmActivityEventStatusOnly` writes. -/
def confirmedBy (source : ConfirmationSource) : AgentActivityEvent :=
  { row with
    status := .confirmed
    confirmedAt := some now
    updatedAt := now
    confirmationSource := some source
    pendingReason := none
    evmClaimLeaseUntil := none
    evmClaimToken := none }

def runConfirmActivityEventStatusOnly (source : ConfirmationSource)
    (context : TerminalWriteContext) : Except ActivityError CasResult :=
  runTerminalCas (claimFence context row) (confirmedBy now row source) row
    (terminalMiss context row)

/-- `FailActivityEventInput`; the reason is the redacted one. -/
structure FailActivityEventInput where
  failureCode : AgentActivityFailureCode
  failureReason : JsString
  deriving DecidableEq

/-- What the update of `runFailActivityEvent` writes. -/
def failedWith (input : FailActivityEventInput) : AgentActivityEvent :=
  { row with
    status := .definitivelyFailed
    failureCode := some input.failureCode
    failureReason := some input.failureReason
    updatedAt := now
    pendingReason := none
    evmClaimLeaseUntil := none
    evmClaimToken := none }

/-- The reservation of the nonce has run out, or there is none. -/
def nonceLeaseInactive : Bool :=
  match row.nonceReservationUntil with
  | none => true
  | some reservedUntil => reservedUntil ≤ now

def runFailActivityEvent (input : FailActivityEventInput) (context : TerminalWriteContext)
    (requireHashless requireInactiveNonceLease : Bool) : Except ActivityError CasResult :=
  runTerminalCas (claimFence context row && (!requireHashless || row.txHash = none)
      && (!requireInactiveNonceLease || nonceLeaseInactive now row))
    (failedWith now row input) row (terminalMiss context row)

end Writers

/-! ## What a writer leaves -/

theorem runTerminalCas_cases {guard : Bool} {written row : AgentActivityEvent} {miss : CasResult}
    {result : CasResult} (ran : runTerminalCas guard written row miss = .ok result) :
    result = miss ∨ (guard = true ∧ row.status = .pending ∧ written.checks = true
        ∧ result = ⟨true, written, none⟩) := by
  unfold runTerminalCas at ran
  split_ifs at ran with matched admitted
  · exact .inr ⟨matched.1, matched.2, admitted, by simpa using ran.symm⟩
  · exact .inl (by simpa using ran.symm)

@[simp] theorem terminalMiss_row (context : TerminalWriteContext) (row : AgentActivityEvent) :
    (terminalMiss context row).row = row := by
  unfold terminalMiss
  split
  · split_ifs <;> rfl
  · rfl

@[simp] theorem terminalMiss_applied (context : TerminalWriteContext) (row : AgentActivityEvent) :
    (terminalMiss context row).applied = false := by
  unfold terminalMiss
  split
  · split_ifs <;> rfl
  · rfl

end Vex.Activity
