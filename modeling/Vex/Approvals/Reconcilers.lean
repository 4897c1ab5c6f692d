import Mathlib.Data.List.Sort
import Mathlib.Data.Prod.Lex
import Vex.Approvals.StudioGate

/-!
# The reconcilers of a process start

A process that starts finds Studio rows that no one will settle: those that a dead process was
dispatching, and those that were approved and never started. Each reconciler reads its rows by
pages, oldest first, and settles them one by one. The cursor of a page is made of the instant the
driver delivers, which has milliseconds, and compared with a column that has microseconds.

A write that fails is logged and leaves its row. The order of ids is that of the database's
collation, given by the instance of `LinearOrder`.
-/

namespace Vex.Approvals

open Vex.Library

/-- A row of `approval_intents`, with the instant of its creation in microseconds. -/
structure IntentRow (ι : Type) where
  approvalId : ι
  createdAt : Int
  intent : ApprovalIntent
  deriving DecidableEq

abbrev IntentTable (ι : Type) := Table (fun row : IntentRow ι => row.approvalId)

/-- `DispatchingStudioCursor`, with the instant in milliseconds. -/
structure DispatchingStudioCursor (ι : Type) where
  createdAt : Int
  approvalId : ι
  deriving DecidableEq

structure DispatchingStudioApproval (ι : Type) where
  approvalId : ι
  projectId : Option JsString
  cursor : DispatchingStudioCursor ι
  deriving DecidableEq

structure ReconciledStudioDispatch (ι : Type) where
  approvalId : ι
  projectId : Option JsString
  deriving DecidableEq

variable {ι : Type} [LinearOrder ι]

def IntentRow.created (row : IntentRow ι) : Int ×ₗ ι := toLex (row.createdAt, row.approvalId)

/-- The parameters `$2::timestamptz` and `$3::text`. -/
def DispatchingStudioCursor.created (cursor : DispatchingStudioCursor ι) : Int ×ₗ ι :=
  toLex (cursor.createdAt * 1000, cursor.approvalId)

/-- A row as the statements return it: the driver makes a `Date` of the instant. -/
def IntentRow.candidate (row : IntentRow ι) : DispatchingStudioApproval ι :=
  { approvalId := row.approvalId
    projectId := row.intent.projectId
    cursor := { createdAt := row.createdAt / 1000, approvalId := row.approvalId } }

/-- The rows that a condition selects, oldest first. -/
def inOrder (selects : ApprovalIntent → Bool) (rows : List (IntentRow ι)) : List (IntentRow ι) :=
  (rows.filter fun row => selects row.intent).insertionSort
    (Order.Preimage IntentRow.created (· ≤ ·))

/-- One page of the rows that a condition selects. -/
def listStudioApprovals (selects : ApprovalIntent → Bool) (table : IntentTable ι) (limit : ℕ)
    (after : Option (DispatchingStudioCursor ι)) : List (DispatchingStudioApproval ι) :=
  (((inOrder selects table.rows).filter fun row =>
    ∀ cursor ∈ after, cursor.created < row.created).take limit).map IntentRow.candidate

/-- The condition of `listDispatchingStudioApprovals`. -/
def dispatchingStudio (intent : ApprovalIntent) : Bool :=
  intent.origin = .studioMcp ∧ intent.executionStatus = .dispatching

/-- The condition of `listUnstartedStudioApprovals`. -/
def unstartedStudio (intent : ApprovalIntent) : Bool :=
  intent.origin = .studioMcp ∧ intent.decision = some .approved
    ∧ intent.executionStatus = .notStarted

def reconcilePageSize : ℕ := 200
def maxReconcilePages : ℕ := 50

def unstartedCause : String := "Vex restarted before this approved action could start"

def abandonedCause : String :=
  "Vex stopped while this approved action was running, so Vex cannot prove "
    ++ "whether it took effect. It was NOT retried and it will not be. Check the "
    ++ "outcome yourself before asking for it again"

/-- What one reconciler selects, and the statement it settles a row by. -/
structure Reconciler where
  selects : ApprovalIntent → Bool
  settles : ApprovalIntent → IntentCas

/-- The reconciler of `reconcileAbandonedStudioDispatches`. -/
def abandonedDispatches (codec : SettlementCodec) : Reconciler :=
  let settlement := buildStudioRefusalSettlement codec abandonedCause
  { selects := dispatchingStudio
    settles := fun intent => casMarkIndeterminateWithSettlementWith intent
      (some settlement.settlementJson) (some settlement.resultHash) }

/-- The reconciler of `reconcileUnstartedStudioApprovals`. -/
def unstartedApprovals (codec : SettlementCodec) : Reconciler :=
  let settlement := buildStudioRefusalSettlement codec unstartedCause
  { selects := unstartedStudio
    settles := fun intent => casRefuseStudioBeforeDispatchWith intent .stopped
      (some settlement.settlementJson) (some settlement.resultHash) }

structure Progress (ι : Type) where
  table : IntentTable ι
  attempts : List ι
  reconciled : List (ReconciledStudioDispatch ι)
  after : Option (DispatchingStudioCursor ι)

def setIntent (table : IntentTable ι) (approvalId : ι) (intent : ApprovalIntent) : IntentTable ι :=
  table.rewrite (fun row => if row.approvalId = approvalId then { row with intent } else row)
    fun row => by split <;> rfl

section Run

variable (reconciler : Reconciler) (fails : ι → Bool)

def attempt (progress : Progress ι) (candidate : DispatchingStudioApproval ι) : Progress ι :=
  let progress := { progress with
    after := some candidate.cursor, attempts := progress.attempts ++ [candidate.approvalId] }
  if fails candidate.approvalId then progress
  else
    match (progress.table.find? candidate.approvalId).bind fun row =>
      reconciler.settles row.intent with
    | none => progress
    | some settled =>
      { progress with
        table := setIntent progress.table candidate.approvalId settled
        reconciled := progress.reconciled ++ [⟨candidate.approvalId, candidate.projectId⟩] }

def reconcilePages : ℕ → Progress ι → Progress ι
  | 0, progress => progress
  | pages + 1, progress =>
    let candidates :=
      listStudioApprovals reconciler.selects progress.table reconcilePageSize progress.after
    if candidates.length = 0 then progress
    else
      let progress := candidates.foldl (attempt reconciler fails) progress
      if candidates.length < reconcilePageSize then progress else reconcilePages pages progress

def reconcile (table : IntentTable ι) : Progress ι :=
  reconcilePages reconciler fails maxReconcilePages ⟨table, [], [], none⟩

end Run

def reconcileAbandonedStudioDispatches (codec : SettlementCodec) (fails : ι → Bool)
    (table : IntentTable ι) : Progress ι :=
  reconcile (abandonedDispatches codec) fails table

def reconcileUnstartedStudioApprovals (codec : SettlementCodec) (fails : ι → Bool)
    (table : IntentTable ι) : Progress ι :=
  reconcile (unstartedApprovals codec) fails table

end Vex.Approvals
