import Vex.Library.Runs
import Vex.Library.Table
import Vex.Lighter.LifecycleIntents
import Vex.Lighter.OrderIntents

/-!
# The ledger of capital commitments

Every promise of capital on an account is one row of
`lighter_capital_commitments`. An admission takes the lock of its account, heals
the account's rows, sums those that are live, compares, and writes its own row,
all in one transaction. A row leaves `live` when its intent never reached the
provider, or once the observation lag has passed since its settlement was
stamped.

The shapes the table checks are built into the rows: a retired row has its time
and reason, and no settlement is stamped before the admission. An update that
would break the second throws, as the constraint does. The intent tables are
read by the two statements of a healing pass, each at its own snapshot.
-/

namespace Vex.Lighter.Capital

open Vex.Library

/-! ## Rows -/

/-- `LighterCapitalCommitmentKind`. -/
inductive Kind where
  | create
  | modify
  | leverage
  deriving DecidableEq

/-- What the ledger throws: its own refusal, or a constraint of the table. -/
inductive Failure where
  | invalidRequest (message : JsString)
  | constraint (name : String)
  deriving DecidableEq

/-- An intent identifier as `assertIntentId` leaves it. -/
def IntentId := { id : JsString // id.trim = id ∧ id.length ≠ 0 ∧ id.length ≤ 200 }

instance : DecidableEq IntentId := inferInstanceAs (DecidableEq { _id : JsString // _ })

/-- A row is live, or retired at a time and for a reason. -/
inductive RowState where
  | live
  | retired (retiredAt : Instant) (retireReason : JsString)
  deriving DecidableEq

/-- A row of `lighter_capital_commitments`. -/
structure Commitment where
  commitmentId : JsString
  environment : Environment
  accountIndex : Nat
  intentId : IntentId
  kind : Kind
  requiredUnits : Nat
  state : RowState
  admittedAt : Instant
  settledAt : Option Instant
  settledAfterAdmitted : ∀ settled ∈ settledAt, admittedAt ≤ settled

/-- The table, in which an intent has at most one row. -/
abbrev Ledger := Table Commitment.intentId

/-! ## What healing reads of the intents -/

/-- `LighterLeverageExecutionState`. -/
inductive LeverageState where
  | proposed
  | expired
  | cancelled
  | refusedUnsubmitted
  | signing
  | signed
  | submissionStaged
  | submitted
  | completed
  | ambiguous
  | rejected
  | expiredUnsubmitted
  deriving DecidableEq

def LeverageState.text : LeverageState → String
  | .proposed => "proposed"
  | .expired => "expired"
  | .cancelled => "cancelled"
  | .refusedUnsubmitted => "refused_unsubmitted"
  | .signing => "signing"
  | .signed => "signed"
  | .submissionStaged => "submission_staged"
  | .submitted => "submitted"
  | .completed => "completed"
  | .ambiguous => "ambiguous"
  | .rejected => "rejected"
  | .expiredUnsubmitted => "expired_unsubmitted"

structure LeverageIntent where
  executionState : LeverageState
  expiresAt : Instant
  deriving DecidableEq

structure IntentTables where
  orders : JsString → Option OrderIntents.Row
  lifecycle : JsString → Option LifecycleIntents.Row
  leverage : JsString → Option LeverageIntent

/-- The snapshots that the two statements of a pass read. -/
structure HealReads where
  stamping : IntentTables
  retiring : IntentTables

/-- `LIGHTER_CAPITAL_COMMITMENT_OBSERVATION_LAG_MS`. -/
def observationLagMs : Int := 10 * 60 * 1000

/-- `LIGHTER_CREATE_COMMITMENT_UNSUBMITTED_STATES`. -/
def createUnsubmittedStates : List OrderIntents.ExecutionState := [.expiredUnsubmitted]

/-- `LIGHTER_CREATE_COMMITMENT_SETTLED_STATES`. -/
def createSettledStates : List OrderIntents.ExecutionState := [.filled, .canceled, .rejected]

/-- `LIGHTER_LIFECYCLE_COMMITMENT_UNSUBMITTED_STATES`. -/
def lifecycleUnsubmittedStates : List LifecycleIntents.ExecutionState :=
  [.expired, .expiredUnsubmitted]

/-- `LIGHTER_LIFECYCLE_COMMITMENT_SETTLED_STATES`. -/
def lifecycleSettledStates : List LifecycleIntents.ExecutionState := [.completed, .rejected]

/-- `LIGHTER_LEVERAGE_COMMITMENT_UNSUBMITTED_STATES`. -/
def leverageUnsubmittedStates : List LeverageState :=
  [.expired, .refusedUnsubmitted, .expiredUnsubmitted]

/-- `LIGHTER_LEVERAGE_COMMITMENT_SETTLED_STATES`. -/
def leverageSettledStates : List LeverageState := [.completed, .rejected]

/-! ## Healing -/

/-- One healing pass: the kind of rows it heals, the intents it joins them with,
and how it reads an intent. -/
structure HealPass (Intent : Type) where
  kind : Kind
  table : IntentTables → JsString → Option Intent
  neverSent : Intent → Option String
  observed : Intent → Option String
  unanswered : Intent → Bool
  expiresAt : Intent → Instant
  windowClosed : String

def reasonIn {State : Type} [DecidableEq State] (states : List State) (label : String)
    (text : State → String) (state : State) : Option String :=
  if state ∈ states then some (label ++ text state) else none

def approvalReason (status : ApprovalStatus) : Option String :=
  if status ∈ [.rejected, .expired] then some ("approval_" ++ status.text) else none

/-- `healApprovalBackedCommitments` for create intents. -/
def createPass : HealPass OrderIntents.Row where
  kind := .create
  table := IntentTables.orders
  neverSent intent := approvalReason intent.approvalStatus <|>
    reasonIn createUnsubmittedStates "unsubmitted_" OrderIntents.ExecutionState.text
      intent.executionState
  observed intent := reasonIn createSettledStates "observed_" OrderIntents.ExecutionState.text
    intent.executionState
  unanswered intent := intent.approvalStatus = .approvalPending
  expiresAt intent := intent.expiresAt
  windowClosed := "approval_window_closed"

/-- `healApprovalBackedCommitments` for modify intents. -/
def modifyPass : HealPass LifecycleIntents.Row where
  kind := .modify
  table := IntentTables.lifecycle
  neverSent intent := approvalReason intent.approvalStatus <|>
    reasonIn lifecycleUnsubmittedStates "unsubmitted_" LifecycleIntents.ExecutionState.text
      intent.executionState
  observed intent := reasonIn lifecycleSettledStates "observed_"
    LifecycleIntents.ExecutionState.text intent.executionState
  unanswered intent := intent.approvalStatus = .approvalPending
  expiresAt intent := intent.expiresAt
  windowClosed := "approval_window_closed"

/-- `healLeverageCommitments`. -/
def leveragePass : HealPass LeverageIntent where
  kind := .leverage
  table := IntentTables.leverage
  neverSent intent :=
    reasonIn leverageUnsubmittedStates "unsubmitted_" LeverageState.text intent.executionState
  observed intent :=
    reasonIn leverageSettledStates "observed_" LeverageState.text intent.executionState
  unanswered intent := intent.executionState = .proposed
  expiresAt intent := intent.expiresAt
  windowClosed := "consent_window_closed"

/-- A row a pass of an account looks at. -/
def Commitment.liveOn (row : Commitment) (environment : Environment) (accountIndex : Nat) :
    Bool :=
  row.environment = environment && row.accountIndex = accountIndex && row.state = .live

/-- The name of the check that no settlement predates the admission. -/
def settledAfterAdmittedConstraint : String := "lighter_capital_commitments_settled_after_admitted"

/-- Stamp the settlement of a row; where the check of the table refuses, the row stays. -/
def Commitment.stamp (row : Commitment) (now : Instant) : Commitment :=
  if after : row.admittedAt ≤ now then
    { row with
      settledAt := some now
      settledAfterAdmitted := by
        rintro settled ⟨rfl⟩
        exact after }
  else row

def Commitment.retire (row : Commitment) (now : Instant) (reason : JsString) : Commitment :=
  { row with state := .retired now reason }

/-- Stamp the rows that meet a condition, or throw where the check of the table refuses. -/
def stampWhere (ledger : Ledger) (now : Instant) (stamps : Commitment → Bool) :
    Except Failure Ledger :=
  if ledger.rows.all fun row => !stamps row || row.admittedAt ≤ now then
    .ok (ledger.rewrite (fun row => if stamps row then row.stamp now else row) (by
      intro row
      dsimp only [Commitment.stamp]
      split_ifs <;> rfl))
  else .error (.constraint settledAfterAdmittedConstraint)

def retireWhere (ledger : Ledger) (now : Instant) (reason : Commitment → Option JsString) :
    Ledger :=
  ledger.rewrite (fun row => (reason row).elim row (row.retire now)) (by
    intro row
    cases reason row <;> rfl)

namespace HealPass

variable {Intent : Type}

/-- Phase one stamps a live row whose intent has settled and that carries no stamp. -/
def stamps (pass : HealPass Intent) (tables : IntentTables) (environment : Environment)
    (accountIndex : Nat) (row : Commitment) : Bool :=
  row.liveOn environment accountIndex && row.kind = pass.kind && row.settledAt = none &&
    ((pass.table tables row.intentId.val).bind pass.observed).isSome

/-- The `WHERE` of phase two, on the intent that is joined. -/
def retires (pass : HealPass Intent) (now : Instant) (row : Commitment) : Option Intent → Bool
  | none => row.admittedAt ≤ now - observationLagMs
  | some intent =>
    (pass.neverSent intent).isSome || ((pass.observed intent).isSome &&
        row.settledAt.any fun settled => settled ≤ now - observationLagMs) ||
      (row.admittedAt ≤ now - observationLagMs && pass.unanswered intent &&
        pass.expiresAt intent ≤ now - observationLagMs)

/-- The `CASE` that names the reason. -/
def reason (pass : HealPass Intent) : Option Intent → JsString
  | none => "intent_missing"
  | some intent =>
    (pass.neverSent intent <|> pass.observed intent).getD pass.windowClosed

/-- The reason phase two retires a row for, if it does. -/
def retireReason (pass : HealPass Intent) (tables : IntentTables) (environment : Environment)
    (accountIndex : Nat) (now : Instant) (row : Commitment) : Option JsString :=
  let intent := pass.table tables row.intentId.val
  if row.liveOn environment accountIndex && row.kind = pass.kind && pass.retires now row intent
  then some (pass.reason intent)
  else none

/-- Both phases of a pass: the rows it retired, and the ledger it leaves. -/
def heal (pass : HealPass Intent) (reads : HealReads) (environment : Environment)
    (accountIndex : Nat) (now : Instant) (ledger : Ledger) :
    Except Failure (List (IntentId × JsString) × Ledger) := do
  let stamped ← stampWhere ledger now (pass.stamps reads.stamping environment accountIndex)
  let retireReason := pass.retireReason reads.retiring environment accountIndex now
  return (stamped.rows.filterMap fun row => (retireReason row).map (Prod.mk row.intentId),
    retireWhere stamped now retireReason)

end HealPass

/-- `healLighterCapitalCommitments`: the three passes, one per kind. -/
def healCommitments (reads : HealReads) (environment : Environment) (accountIndex : Nat)
    (now : Instant) (ledger : Ledger) :
    Except Failure (List (IntentId × JsString) × Ledger) := do
  let (created, ledger) ← createPass.heal reads environment accountIndex now ledger
  let (modified, ledger) ← modifyPass.heal reads environment accountIndex now ledger
  let (leveraged, ledger) ← leveragePass.heal reads environment accountIndex now ledger
  return (created ++ modified ++ leveraged, ledger)

/-! ## Admission -/

/-- `AdmitLighterCapitalCommitmentInput`. -/
structure AdmitInput where
  environment : Environment
  accountIndex : Int
  intentId : JsString
  kind : Kind
  requiredUnits : JsString
  budgetUnits : JsString
  providerCommittedUnits : JsString
  excludeIntentId : Option JsString

/-- `AdmitLighterCapitalCommitmentResult`. -/
inductive AdmitResult where
  | admitted (commitmentId : JsString) (liveCommittedUnits : Nat)
  | refused (remainingUnits : Nat) (liveCommittedUnits : Nat)
  deriving DecidableEq

/-- What an admission transaction takes from outside: its clock, the identifier
drawn for a new row, and what its healing reads. -/
structure AdmitContext where
  now : Instant
  randomUUID : JsString
  reads : HealReads

def assertAccountIndex (value : Int) : Except Failure Nat :=
  if 0 ≤ value ∧ value ≤ Params.maxSafeInteger then .ok value.toNat
  else .error (.invalidRequest "Lighter capital accounting requires a valid account index.")

def assertUnits (value : JsString) (field : String) : Except Failure Nat :=
  if value.trim.isDecimal then .ok value.trim.decimalValue
  else .error (.invalidRequest (("Lighter capital accounting requires " ++ field ++
    " as a whole number of USDC-6 units." : String)))

def assertIntentId (value : JsString) : Except Failure IntentId :=
  if sound : value.trim.length ≠ 0 ∧ value.trim.length ≤ 200 then
    .ok ⟨value.trim, JsString.trim_trim value, sound.1, sound.2⟩
  else .error (.invalidRequest "Lighter capital accounting requires an intent identifier.")

/-- The rows an admission sums: live ones of the account, without its own row and
without the one its input leaves out. -/
def counted (environment : Environment) (accountIndex : Nat) (intentId : IntentId)
    (excludeIntentId : Option JsString) (row : Commitment) : Bool :=
  row.liveOn environment accountIndex && row.intentId ≠ intentId &&
    excludeIntentId.all fun excluded => row.intentId.val ≠ excluded

/-- The row a first admission inserts. -/
def newCommitment (context : AdmitContext) (environment : Environment) (accountIndex : Nat)
    (intentId : IntentId) (kind : Kind) (required : Nat) : Commitment where
  commitmentId := context.randomUUID
  environment := environment
  accountIndex := accountIndex
  intentId := intentId
  kind := kind
  requiredUnits := required
  state := .live
  admittedAt := context.now
  settledAt := none
  settledAfterAdmitted := by simp

/-- The row a re-admission writes over the one the intent has. -/
def Commitment.readmit (row : Commitment) (required : Nat) : Commitment :=
  { row with
    requiredUnits := required
    state := .live
    settledAt := none
    settledAfterAdmitted := by simp }

/-- `INSERT … ON CONFLICT (intent_id) DO UPDATE … WHERE …`: the row it returns. -/
def upserted (context : AdmitContext) (ledger : Ledger) (environment : Environment)
    (accountIndex : Nat) (intentId : IntentId) (kind : Kind) (required : Nat) :
    Option Commitment :=
  match ledger.find? intentId with
  | none => some (newCommitment context environment accountIndex intentId kind required)
  | some row =>
    if row.environment = environment ∧ row.accountIndex = accountIndex ∧ row.kind = kind then
      some (row.readmit required)
    else none

/-- The refusal of an intent whose row is another commitment. -/
def otherCommitment (intentId : IntentId) : Failure :=
  .invalidRequest (("Lighter capital accounting refused: intent " : JsString) ++ intentId.val ++
    (" already holds a commitment on a different account, " ++
      "environment or operation kind. Nothing was admitted." : String))

/-- `admitLighterCapitalCommitment`. A result commits the ledger beside it; a
failure rolls the transaction back. -/
def admitCommitment (context : AdmitContext) (input : AdmitInput) (ledger : Ledger) :
    Except Failure (AdmitResult × Ledger) := do
  let accountIndex ← assertAccountIndex input.accountIndex
  let required ← assertUnits input.requiredUnits "requiredUnits"
  let budget ← assertUnits input.budgetUnits "budgetUnits"
  let providerCommitted ← assertUnits input.providerCommittedUnits "providerCommittedUnits"
  let intentId ← assertIntentId input.intentId
  let (_, ledger) ← healCommitments context.reads input.environment accountIndex context.now ledger
  let live := ledger.total (counted input.environment accountIndex intentId input.excludeIntentId)
    Commitment.requiredUnits
  let remaining : Int := budget - providerCommitted - live
  if required > 0 ∧ remaining < required then
    return (.refused remaining.toNat live, ledger)
  else
    match upserted context ledger input.environment accountIndex intentId input.kind required with
    | none => .error (otherCommitment intentId)
    | some row => return (.admitted row.commitmentId live, ledger.put row)

/-! ## Settlement and retirement -/

/-- `markLighterCapitalCommitmentSettled`. -/
def markSettled (now : Instant) (intentId : JsString) (ledger : Ledger) :
    Except Failure Ledger := do
  let intentId ← assertIntentId intentId
  stampWhere ledger now fun row =>
    row.intentId = intentId && row.state = .live && row.settledAt = none

/-- The input of `retireLighterCapitalCommitment`. -/
structure RetireInput where
  intentId : JsString
  reason : JsString
  deriving DecidableEq

/-- `/^[a-z0-9_.-]{1,120}$/`. -/
def isRetireReason (reason : JsString) : Bool :=
  1 ≤ reason.length && reason.length ≤ 120 && reason.all fun unit =>
    JsString.isLowerAscii unit || JsString.isDigit unit || unit == 95 || unit == 46 || unit == 45

/-- `retireLighterCapitalCommitment`. -/
def retire (now : Instant) (input : RetireInput) (ledger : Ledger) : Except Failure Ledger :=
  let reason := input.reason.trim
  if !isRetireReason reason then
    .error (.invalidRequest "A capital commitment retirement needs a machine-readable reason.")
  else do
    let intentId ← assertIntentId input.intentId
    return retireWhere ledger now fun row =>
      if row.intentId = intentId ∧ row.state = .live ∧
          row.settledAt.all (fun settled => settled ≤ now - observationLagMs) then some reason
      else none

/-! ## The ledger under its transactions -/

inductive Operation where
  | admission (context : AdmitContext) (input : AdmitInput)
  | markSettled (now : Instant) (intentId : JsString)
  | retire (now : Instant) (input : RetireInput)
  | heal (now : Instant) (reads : HealReads) (environment : Environment) (accountIndex : Nat)

/-- The ledger a transaction commits; one that throws commits none. -/
def Operation.apply (ledger : Ledger) : Operation → Option Ledger
  | .admission context input => (admitCommitment context input ledger).toOption.map Prod.snd
  | .markSettled now intentId => (Capital.markSettled now intentId ledger).toOption
  | .retire now input => (Capital.retire now input ledger).toOption
  | .heal now reads environment accountIndex =>
    (healCommitments reads environment accountIndex now ledger).toOption.map Prod.snd

def step : Ledger → Operation → Ledger := orStay Operation.apply

end Vex.Lighter.Capital
