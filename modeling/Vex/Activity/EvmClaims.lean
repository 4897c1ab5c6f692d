import Vex.Activity.TerminalCas
import Vex.Library.Table

/-!
# Claims on pending EVM rows

A sweeper claims the rows that are due: one statement selects them, takes a
finite lease on each and mints a token for each. What the sweeper writes about a
row after its RPC carries the token, so a sweeper whose row was claimed again in
the meantime matches nothing.

A row whose transaction no node knows ends superseded without proof, once the
recorded run of observations without inclusion is long enough. A row whose nonce
another transaction has taken ends so without that run.

`Write` is every statement of the lane and of the handler that finalises a row,
and `step` runs one of them.
-/

namespace Vex.Activity

open Vex.Library
open Vex.Wallet (Instant)

def evmFastPhaseMs : Int := 10 * 60000

def evmFastIntervalMs : Int := 5000

def evmSlowIntervalMs : Int := 30000

def evmClaimLimit : Nat := 25

def evmClaimLeaseMs : Int := 30000

def noninclusionTerminalizeAfterMs : Int := 10 * 60000

/-- The table of activities and the number of tokens that have been minted. -/
structure Activities where
  table : Table AgentActivityEvent.id
  minted : Nat

/-! ## Claiming what is due -/

/-- The interval a row is checked on, by the time since its submit. -/
def evmIntervalMs (now submitAttemptedAt : Instant) : Int :=
  if now - submitAttemptedAt < evmFastPhaseMs then evmFastIntervalMs else evmSlowIntervalMs

/-- `duePredicateSql`. -/
def duePredicate (now : Instant) (row : AgentActivityEvent) : Bool :=
  match row.submitAttemptedAt with
  | none => false
  | some submitAttemptedAt =>
    row.status = .pending ∧ row.chainFamily = .eip155 ∧ row.txHash ≠ none
      ∧ (∀ leaseUntil ∈ row.evmClaimLeaseUntil, leaseUntil < now)
      ∧ row.lastCheckedAt.getD submitAttemptedAt ≤ now - evmIntervalMs now submitAttemptedAt

/-- The moment the queue orders a row by. -/
def waitingSince (row : AgentActivityEvent) : Instant :=
  row.lastCheckedAt.getD (row.submitAttemptedAt.getD 0)

/-- The order of the queue: the longest unchecked first, the lower id first among equals. -/
def servedBefore (row other : AgentActivityEvent) : Bool :=
  waitingSince row < waitingSince other
    ∨ (waitingSince row = waitingSince other ∧ row.id ≤ other.id)

/-- The candidates of a claim: the first `limit` due rows that no other transaction has locked. -/
def candidates (now : Instant) (limit : Nat) (locked : List Nat) (table : Table AgentActivityEvent.id) :
    List AgentActivityEvent :=
  ((table.rows.filter fun row => duePredicate now row ∧ row.id ∉ locked).mergeSort
    servedBefore).take limit

def claimedWith (now : Instant) (leaseMs : Int) (token : ClaimToken) (row : AgentActivityEvent) :
    AgentActivityEvent :=
  { row with
    evmClaimLeaseUntil := some (now + leaseMs)
    evmClaimToken := some token
    updatedAt := now }

/-- `claimDuePendingEvm` on one row of the table: the candidate of a position gets the token of
that position. -/
def claimRow (now : Instant) (leaseMs : Int) (minted : Nat) (chosen : List AgentActivityEvent)
    (row : AgentActivityEvent) : AgentActivityEvent :=
  match chosen.findIdx? fun candidate => candidate.id = row.id with
  | some position => claimedWith now leaseMs (minted + position) row
  | none => row

@[simp] theorem claimRow_id (now : Instant) (leaseMs : Int) (minted : Nat)
    (chosen : List AgentActivityEvent) (row : AgentActivityEvent) :
    (claimRow now leaseMs minted chosen row).id = row.id := by
  unfold claimRow
  split <;> rfl

def claimDuePendingEvm (now : Instant) (limit : Nat) (leaseMs : Int) (locked : List Nat)
    (store : Activities) : Activities :=
  let chosen := candidates now limit locked store.table
  { table := store.table.rewrite (claimRow now leaseMs store.minted chosen)
      (claimRow_id now leaseMs store.minted chosen)
    minted := store.minted + chosen.length }

/-! ## What a sweeper writes about a row it claimed -/

section Fenced

variable (now : Instant) (claimToken : ClaimToken) (row : AgentActivityEvent)

def releaseEvmClaim : AgentActivityEvent :=
  if row.evmClaimToken = some claimToken then
    { row with evmClaimLeaseUntil := none, evmClaimToken := none, updatedAt := now }
  else row

def noteNonInclusionObserved : AgentActivityEvent :=
  if row.status = .pending ∧ row.evmClaimToken = some claimToken then
    { row with
      firstNoninclusionObservedAt := some (row.firstNoninclusionObservedAt.getD now)
      updatedAt := now }
  else row

def clearNonInclusionClock : AgentActivityEvent :=
  if row.status = .pending ∧ row.evmClaimToken = some claimToken then
    { row with firstNoninclusionObservedAt := none, updatedAt := now }
  else row

/-- The reasons of `SupersededEvidence`. -/
inductive SupersededReason where
  | nonceSuperseded
  | txUnknownToNode
  deriving DecidableEq

def SupersededReason.text : SupersededReason → JsString
  | .nonceSuperseded => JsString.ofString "nonce_superseded"
  | .txUnknownToNode => JsString.ofString "tx_unknown_to_node"

/-- The windows of `runMarkSupersededUnproven`: only the inconclusive reason waits for the run. -/
def windowsElapsed (reason : SupersededReason) (handlerWindowMs nonInclusionWindowMs : Int) : Bool :=
  match row.submitAttemptedAt with
  | none => false
  | some submitAttemptedAt =>
    match reason with
    | .nonceSuperseded => submitAttemptedAt + handlerWindowMs ≤ now
    | .txUnknownToNode =>
      match row.firstNoninclusionObservedAt with
      | none => false
      | some firstObservedAt =>
        max (submitAttemptedAt + handlerWindowMs) (firstObservedAt + nonInclusionWindowMs) ≤ now

/-- What the update of `runMarkSupersededUnproven` writes. -/
def supersededBy (reason : SupersededReason) : AgentActivityEvent :=
  { row with
    status := .supersededUnproven
    pendingReason := some reason.text
    updatedAt := now
    evmClaimLeaseUntil := none
    evmClaimToken := none }

/-- Why `runMarkSupersededUnproven` matched nothing. -/
def supersededMiss : CasResult :=
  if row.status ≠ .pending then ⟨false, row, some .notPending⟩
  else if row.evmClaimToken ≠ some claimToken then ⟨false, row, some .claimLost⟩
  else ⟨false, row, some .windowNotElapsed⟩

def runMarkSupersededUnproven (reason : SupersededReason)
    (handlerWindowMs nonInclusionWindowMs : Int) : Except ActivityError CasResult :=
  runTerminalCas (row.evmClaimToken = some claimToken ∧ row.txHash ≠ none
      ∧ windowsElapsed now row reason handlerWindowMs nonInclusionWindowMs)
    (supersededBy now row reason) row (supersededMiss claimToken row)

end Fenced

/-! ## The statements as steps of the store -/

/-- The writers that may end a row. -/
inductive TerminalWrite where
  | confirmActivityEvent (input : ConfirmActivityEventInput) (context : TerminalWriteContext)
  | confirmActivityEventStatusOnly (source : ConfirmationSource) (context : TerminalWriteContext)
  | failActivityEvent (input : FailActivityEventInput) (context : TerminalWriteContext)
  | failHashlessActivityEvent (input : FailActivityEventInput) (requireInactiveNonceLease : Bool)
  | markSupersededUnproven (claimToken : ClaimToken) (reason : SupersededReason)
      (handlerWindowMs nonInclusionWindowMs : Int)

def TerminalWrite.run (now : Instant) (row : AgentActivityEvent) :
    TerminalWrite → Except ActivityError CasResult
  | .confirmActivityEvent input context => runConfirmActivityEvent now row input context
  | .confirmActivityEventStatusOnly source context =>
    runConfirmActivityEventStatusOnly now row source context
  | .failActivityEvent input context => runFailActivityEvent now row input context false false
  | .failHashlessActivityEvent input requireInactiveNonceLease =>
    runFailActivityEvent now row input .handlerReturn true requireInactiveNonceLease
  | .markSupersededUnproven claimToken reason handlerWindowMs nonInclusionWindowMs =>
    runMarkSupersededUnproven now claimToken row reason handlerWindowMs nonInclusionWindowMs

/-- A statement. `locked` are the rows another transaction has locked, and `committed` says
whether the transaction of a terminal write commits: the settlement of the rows linked to the
activity may throw after it. -/
inductive Write where
  | claimDuePendingEvm (now : Instant) (limit : Nat) (leaseMs : Int) (locked : List Nat)
  | releaseEvmClaim (now : Instant) (id : Nat) (claimToken : ClaimToken)
  | noteNonInclusionObserved (now : Instant) (id : Nat) (claimToken : ClaimToken)
  | clearNonInclusionClock (now : Instant) (id : Nat) (claimToken : ClaimToken)
  | terminal (now : Instant) (id : Nat) (write : TerminalWrite) (committed : Bool)

/-- The row after a terminal write: what it is now if the transaction committed. -/
def terminalRow (now : Instant) (write : TerminalWrite) (committed : Bool)
    (row : AgentActivityEvent) : AgentActivityEvent :=
  match write.run now row with
  | .ok result => if committed then result.row else row
  | .error _ => row

def Write.onRow : Write → AgentActivityEvent → AgentActivityEvent
  | .claimDuePendingEvm _ _ _ _, row => row
  | .releaseEvmClaim now _ claimToken, row => Activity.releaseEvmClaim now claimToken row
  | .noteNonInclusionObserved now _ claimToken, row =>
    Activity.noteNonInclusionObserved now claimToken row
  | .clearNonInclusionClock now _ claimToken, row =>
    Activity.clearNonInclusionClock now claimToken row
  | .terminal now _ write committed, row => terminalRow now write committed row

def Write.target : Write → Option Nat
  | .claimDuePendingEvm _ _ _ _ => none
  | .releaseEvmClaim _ id _ | .noteNonInclusionObserved _ id _ | .clearNonInclusionClock _ id _
  | .terminal _ id _ _ => some id

def TerminalWrite.presents : TerminalWrite → Option ClaimToken
  | .confirmActivityEvent _ (.claim claimToken)
  | .confirmActivityEventStatusOnly _ (.claim claimToken)
  | .failActivityEvent _ (.claim claimToken)
  | .markSupersededUnproven claimToken _ _ _ => some claimToken
  | .confirmActivityEvent _ .handlerReturn | .confirmActivityEventStatusOnly _ .handlerReturn
  | .failActivityEvent _ .handlerReturn | .failHashlessActivityEvent _ _ => none

def Write.presents : Write → Option ClaimToken
  | .claimDuePendingEvm _ _ _ _ => none
  | .releaseEvmClaim _ _ claimToken | .noteNonInclusionObserved _ _ claimToken
  | .clearNonInclusionClock _ _ claimToken => some claimToken
  | .terminal _ _ write _ => write.presents

def Write.rowStep (store : Activities) (write : Write) (row : AgentActivityEvent) :
    AgentActivityEvent :=
  match write with
  | .claimDuePendingEvm now limit leaseMs locked =>
    claimRow now leaseMs store.minted (candidates now limit locked store.table) row
  | write => if write.target = some row.id then write.onRow row else row

def Write.mints (store : Activities) : Write → Nat
  | .claimDuePendingEvm now limit _ locked => (candidates now limit locked store.table).length
  | _ => 0

/-! ## What the statements do to a row -/

def TerminalWrite.written (now : Instant) (row : AgentActivityEvent) :
    TerminalWrite → AgentActivityEvent
  | .confirmActivityEvent input _ => confirmedWith now row input
  | .confirmActivityEventStatusOnly source _ => confirmedBy now row source
  | .failActivityEvent input _ | .failHashlessActivityEvent input _ => failedWith now row input
  | .markSupersededUnproven _ reason _ _ => supersededBy now row reason

@[simp] theorem supersededMiss_row (claimToken : ClaimToken) (row : AgentActivityEvent) :
    (supersededMiss claimToken row).row = row := by
  unfold supersededMiss
  split_ifs <;> rfl

@[simp] theorem supersededMiss_applied (claimToken : ClaimToken) (row : AgentActivityEvent) :
    (supersededMiss claimToken row).applied = false := by
  unfold supersededMiss
  split_ifs <;> rfl

variable {row : AgentActivityEvent} {claimToken : ClaimToken}

theorem claimFence_presents {context : TerminalWriteContext} (fence : claimFence context row = true)
    (presented : context = .claim claimToken) : row.evmClaimToken = some claimToken := by
  subst presented
  simpa [claimFence] using fence

/-- A terminal writer missed, and the row is as it was, or it wrote on a pending row whose token
is the one it presents. -/
theorem TerminalWrite.run_cases {now : Instant} {write : TerminalWrite} {result : CasResult}
    (ran : write.run now row = .ok result) :
    (result.row = row ∧ result.applied = false) ∨ (row.status = .pending
        ∧ (∀ claimToken, write.presents = some claimToken → row.evmClaimToken = some claimToken)
        ∧ result.row = write.written now row ∧ result.applied = true) := by
  cases write with
  | confirmActivityEvent input context =>
    simp only [TerminalWrite.run, runConfirmActivityEvent] at ran
    split at ran
    · cases ran
    · split at ran
      · cases ran
      · rcases runTerminalCas_cases ran with rfl | ⟨fence, pending, -, rfl⟩
        · exact .inl ⟨terminalMiss_row context row, terminalMiss_applied context row⟩
        · refine .inr ⟨pending, ?_, rfl, rfl⟩
          intro claimToken presented
          cases context with
          | handlerReturn => cases presented
          | claim token => exact claimFence_presents fence (congrArg _ (Option.some.inj presented))
  | confirmActivityEventStatusOnly source context =>
    rcases runTerminalCas_cases ran with rfl | ⟨fence, pending, -, rfl⟩
    · exact .inl ⟨terminalMiss_row context row, terminalMiss_applied context row⟩
    · refine .inr ⟨pending, ?_, rfl, rfl⟩
      intro claimToken presented
      cases context with
      | handlerReturn => cases presented
      | claim token => exact claimFence_presents fence (congrArg _ (Option.some.inj presented))
  | failActivityEvent input context =>
    rcases runTerminalCas_cases ran with rfl | ⟨fence, pending, -, rfl⟩
    · exact .inl ⟨terminalMiss_row context row, terminalMiss_applied context row⟩
    · refine .inr ⟨pending, ?_, rfl, rfl⟩
      intro claimToken presented
      cases context with
      | handlerReturn => cases presented
      | claim token =>
        exact claimFence_presents (by simpa using fence) (congrArg _ (Option.some.inj presented))
  | failHashlessActivityEvent input requireInactiveNonceLease =>
    rcases runTerminalCas_cases ran with rfl | ⟨-, pending, -, rfl⟩
    · exact .inl ⟨terminalMiss_row .handlerReturn row, terminalMiss_applied .handlerReturn row⟩
    · refine .inr ⟨pending, ?_, rfl, rfl⟩
      intro claimToken presented
      cases presented
  | markSupersededUnproven claimToken reason handlerWindowMs nonInclusionWindowMs =>
    rcases runTerminalCas_cases ran with rfl | ⟨fence, pending, -, rfl⟩
    · exact .inl ⟨supersededMiss_row claimToken row, supersededMiss_applied claimToken row⟩
    · refine .inr ⟨pending, ?_, rfl, rfl⟩
      intro presented same
      obtain rfl := Option.some.inj same
      exact (of_decide_eq_true fence).1

theorem TerminalWrite.written_terminal (now : Instant) (row : AgentActivityEvent)
    (write : TerminalWrite) :
    (write.written now row).status ≠ .pending ∧ (write.written now row).Unclaimed := by
  cases write <;> exact ⟨by simp [written, confirmedWith, confirmedBy, failedWith, supersededBy],
    rfl, rfl⟩

theorem terminalRow_cases (now : Instant) (write : TerminalWrite) (committed : Bool)
    (row : AgentActivityEvent) :
    terminalRow now write committed row = row ∨ (row.status = .pending
        ∧ (∀ claimToken, write.presents = some claimToken → row.evmClaimToken = some claimToken)
        ∧ committed = true ∧ terminalRow now write committed row = write.written now row) := by
  unfold terminalRow
  cases ran : write.run now row with
  | error refused => exact .inl rfl
  | ok result =>
    cases committed with
    | false => exact .inl rfl
    | true =>
      rcases TerminalWrite.run_cases ran with ⟨same, -⟩ | ⟨pending, fence, written, -⟩
      · exact .inl same
      · exact .inr ⟨pending, fence, rfl, written⟩

theorem Write.onRow_of_stale {write : Write} (presented : write.presents = some claimToken)
    (stale : row.evmClaimToken ≠ some claimToken) : write.onRow row = row := by
  cases write with
  | claimDuePendingEvm now limit leaseMs locked => rfl
  | releaseEvmClaim now id token =>
    obtain rfl := Option.some.inj presented
    simp [Write.onRow, Activity.releaseEvmClaim, stale]
  | noteNonInclusionObserved now id token =>
    obtain rfl := Option.some.inj presented
    simp [Write.onRow, Activity.noteNonInclusionObserved, stale]
  | clearNonInclusionClock now id token =>
    obtain rfl := Option.some.inj presented
    simp [Write.onRow, Activity.clearNonInclusionClock, stale]
  | terminal now id write committed =>
    rcases terminalRow_cases now write committed row with same | ⟨-, fence, -⟩
    · exact same
    · exact absurd (fence claimToken presented) stale

theorem Write.onRow_of_terminal {write : Write} (terminal : row.status ≠ .pending)
    (unclaimed : row.Unclaimed) : write.onRow row = row := by
  cases write with
  | claimDuePendingEvm now limit leaseMs locked => rfl
  | releaseEvmClaim now id token => simp [Write.onRow, Activity.releaseEvmClaim, unclaimed.1]
  | noteNonInclusionObserved now id token =>
    simp [Write.onRow, Activity.noteNonInclusionObserved, terminal]
  | clearNonInclusionClock now id token =>
    simp [Write.onRow, Activity.clearNonInclusionClock, terminal]
  | terminal now id write committed =>
    rcases terminalRow_cases now write committed row with same | ⟨pending, -⟩
    · exact same
    · exact absurd pending terminal

@[simp] theorem Write.onRow_id (write : Write) (row : AgentActivityEvent) :
    (write.onRow row).id = row.id := by
  cases write with
  | claimDuePendingEvm now limit leaseMs locked => rfl
  | releaseEvmClaim now id token =>
    simp only [Write.onRow, Activity.releaseEvmClaim]
    split_ifs <;> rfl
  | noteNonInclusionObserved now id token =>
    simp only [Write.onRow, Activity.noteNonInclusionObserved]
    split_ifs <;> rfl
  | clearNonInclusionClock now id token =>
    simp only [Write.onRow, Activity.clearNonInclusionClock]
    split_ifs <;> rfl
  | terminal now id write committed =>
    rcases terminalRow_cases now write committed row with same | ⟨-, -, -, written⟩
    · exact congrArg _ same
    · simp only [Write.onRow, written]
      cases write <;> rfl

@[simp] theorem Write.rowStep_id (store : Activities) (write : Write) (row : AgentActivityEvent) :
    (write.rowStep store row).id = row.id := by
  unfold Write.rowStep
  split
  · exact claimRow_id _ _ _ _ row
  · split_ifs
    · exact Write.onRow_id _ row
    · rfl

def step (store : Activities) (write : Write) : Activities where
  table := store.table.rewrite (write.rowStep store) (write.rowStep_id store)
  minted := store.minted + write.mints store

@[simp] theorem find?_step (store : Activities) (write : Write) (id : Nat) :
    (step store write).table.find? id = (store.table.find? id).map (write.rowStep store) :=
  Table.find?_rewrite store.table (write.rowStep store) (write.rowStep_id store) id

theorem claimRow_cases {store : Activities} (member : row ∈ store.table.rows) (now : Instant)
    (limit : Nat) (leaseMs : Int) (locked : List Nat) :
    claimRow now leaseMs store.minted (candidates now limit locked store.table) row = row ∨
      (duePredicate now row = true ∧ ∃ position < (candidates now limit locked store.table).length,
          claimRow now leaseMs store.minted (candidates now limit locked store.table) row
            = claimedWith now leaseMs (store.minted + position) row) := by
  unfold claimRow
  split
  case h_2 => exact .inl rfl
  case h_1 position found =>
    obtain ⟨bound, same, -⟩ := List.findIdx?_eq_some_iff_getElem.1 found
    refine .inr ⟨?_, position, bound, rfl⟩
    -- the candidate at the position is a row of the table with this id, so it is this row
    have chosen := List.mem_of_mem_take (List.getElem_mem bound)
    rw [List.mem_mergeSort, List.mem_filter] at chosen
    have this := Table.eq_of_key chosen.1 member (of_decide_eq_true same)
    rw [this] at chosen
    exact (of_decide_eq_true chosen.2).1

end Vex.Activity
