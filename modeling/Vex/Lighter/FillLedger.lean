import Vex.Library.Runs
import Vex.Library.Table
import Vex.Lighter.FillRecords

/-!
# The ledger of fills

A fill is inserted once, under its identity, and an insert that meets the identity does
nothing. What a later observation may add to the row are the columns that were null: the
account's own half, all of it in one statement, the initial margin fraction, the charged fees
and the intent the fill belongs to. A statement that would break a check of the table throws,
and what throws leaves the ledger as it was.

The columns of the account's half are null together, which the row's type says; the checks of
the other columns are its field.
-/

namespace Vex.Lighter.Fills

open Vex.Library

/-! ## Rows -/

/-- The account's half of a row: `position_size_before`, `position_sign_changed`,
`entry_quote_before`, `account_pnl` and `position_effect`. -/
structure AccountHalf where
  positionSizeBefore : JsString
  positionSignChanged : Bool
  entryQuoteBefore : Option JsString
  accountPnl : JsString
  positionEffect : PositionEffect
  deriving DecidableEq

/-- The columns of `lighter_fills`. -/
structure FillColumns where
  id : Nat
  canonicalIdentity : JsString
  environment : Environment
  accountIndex : Int
  marketIndex : Int
  providerTradeId : JsString
  providerOrderId : Option JsString
  clientOrderId : Option JsString
  executionIntentId : Option JsString
  marketSymbol : JsString
  side : Side
  price : JsString
  baseSize : JsString
  quoteNotional : JsString
  baseAsset : VenueAssetRef
  quoteAsset : VenueAssetRef
  blockHeight : JsString
  tradeType : TradeType
  tradedAt : Instant
  transactionTimeUs : Option JsString
  usdAmount : JsString
  account : Option AccountHalf
  feeSide : FeeSide
  integratorFeeTickAuthorized : Option Int
  integratorFeeTickObserved : Option Int
  integratorFeeAsset : Option VenueAssetRef
  integratorFeeEstimate : Option FeeEstimate
  integratorFeeChargedRaw : Option JsString
  exchangeFeeTickObserved : Option Int
  exchangeFeeChargedRaw : Option JsString
  integratorFeeEstimatedUsd : Option JsString
  exchangeFeeEstimatedUsd : Option JsString
  collectorAccountIndex : Option Int
  feeAuthorizationIntentId : Option JsString
  initialMarginFractionBefore : Option Int
  revision : Nat
  updatedAt : Instant

/-- `~ '^-?[0-9]+(\.[0-9]+)?$'`. -/
def isSignedNumber (value : JsString) : Bool := (wholeAndFraction (unsigned value).2).isSome

/-- `~ '^[0-9]+(\.[0-9]+)?$'`. -/
def isNumber (value : JsString) : Bool := (wholeAndFraction value).isSome

/-- The range of `initial_margin_fraction_before`. -/
def isMarginFraction (fraction : Int) : Bool := 1 ≤ fraction && fraction ≤ 10000

def FillColumns.insertedChecks (columns : FillColumns) : Bool :=
  0 ≤ columns.accountIndex && 0 ≤ columns.marketIndex && columns.providerTradeId.isDecimal &&
    columns.providerOrderId.all JsString.isDecimal && isNumber columns.price &&
    isNumber columns.baseSize && isNumber columns.quoteNotional &&
    0 ≤ columns.baseAsset.decimals && 0 ≤ columns.quoteAsset.decimals &&
    columns.blockHeight.isDecimal && columns.transactionTimeUs.all JsString.isDecimal &&
    isNumber columns.usdAmount && columns.integratorFeeTickAuthorized.all (0 ≤ ·) &&
    columns.integratorFeeTickObserved.all (0 ≤ ·) &&
    columns.integratorFeeAsset.all (0 ≤ ·.decimals) &&
    columns.integratorFeeEstimate.all (·.raw.isDecimal) &&
    columns.integratorFeeEstimatedUsd.all isNumber && columns.exchangeFeeEstimatedUsd.all isNumber &&
    columns.collectorAccountIndex.all (0 ≤ ·) &&
    (columns.integratorFeeEstimate.isNone || columns.integratorFeeAsset.isSome)

def AccountHalf.checks (half : AccountHalf) : Bool :=
  isSignedNumber half.positionSizeBefore && half.entryQuoteBefore.all isSignedNumber &&
    isSignedNumber half.accountPnl

/-- The checks of a charged fee: its form, and that an integrator fee has its asset. -/
def integratorChargeChecks (asset : Option VenueAssetRef) (charged : JsString) : Bool :=
  charged.isDecimal && asset.isSome

def exchangeChargeChecks (charged : JsString) : Bool := (unsigned charged).2.isDecimal

def FillColumns.checks (columns : FillColumns) : Bool :=
  columns.insertedChecks && columns.clientOrderId.all JsString.isDecimal &&
    columns.account.all AccountHalf.checks &&
    columns.initialMarginFractionBefore.all isMarginFraction &&
    columns.integratorFeeChargedRaw.all (integratorChargeChecks columns.integratorFeeAsset) &&
    columns.exchangeFeeChargedRaw.all exchangeChargeChecks

/-- The columns both unique indexes read. -/
def FillColumns.tradeIdentity (columns : FillColumns) :
    JsString × Environment × Int × Int × JsString :=
  (columns.canonicalIdentity, columns.environment, columns.accountIndex, columns.marketIndex,
    columns.providerTradeId)

/-- A row passes the checks, and its canonical identity spells its tuple. -/
structure FillRow where
  columns : FillColumns
  checks : columns.checks
  identity : columns.canonicalIdentity = fillIdentity columns.environment columns.accountIndex
    columns.marketIndex columns.providerTradeId

def FillRow.canonicalIdentity (row : FillRow) : JsString := row.columns.canonicalIdentity

abbrev Ledger := Table FillRow.canonicalIdentity

inductive Failure where
  | checkViolation
  | conflictingRowGone
  deriving DecidableEq

/-! ## Statements -/

def storableInitialMarginFraction (value : Option Int) : Option Int :=
  value.filter isMarginFraction

def FillRecord.fraction (record : FillRecord) : Option Int :=
  storableInitialMarginFraction
    (record.accountFacts.bind AccountFillFacts.initialMarginFractionBefore)

def FillRecord.half (record : FillRecord) : Option AccountHalf :=
  record.accountFacts.map fun facts => {
    positionSizeBefore := facts.positionSizeBefore
    positionSignChanged := facts.positionSignChanged
    entryQuoteBefore := facts.entryQuoteBefore
    accountPnl := facts.accountPnl
    positionEffect := classifyPositionEffect facts.positionSizeBefore facts.positionSignChanged
      record.baseSize record.side }

def FillRecord.columns (record : FillRecord) (id : Nat) (now : Instant) : FillColumns where
  id := id
  canonicalIdentity := record.canonicalIdentity
  environment := record.environment
  accountIndex := record.accountIndex
  marketIndex := record.marketIndex
  providerTradeId := record.providerTradeId
  providerOrderId := record.providerOrderId
  clientOrderId := record.clientOrderId
  executionIntentId := record.executionIntentId
  marketSymbol := record.marketSymbol
  side := record.side
  price := record.price
  baseSize := record.baseSize
  quoteNotional := record.quoteNotional
  baseAsset := record.baseAsset
  quoteAsset := record.quoteAsset
  blockHeight := record.blockHeight
  tradeType := record.tradeType
  tradedAt := record.tradedAt
  transactionTimeUs := record.transactionTimeUs
  usdAmount := record.usdAmount
  account := record.half
  feeSide := record.feeSide
  integratorFeeTickAuthorized := record.integratorFeeTickAuthorized
  integratorFeeTickObserved := record.integratorFeeTickObserved
  integratorFeeAsset := record.integratorFeeAsset
  integratorFeeEstimate := record.integratorFeeEstimate
  integratorFeeChargedRaw := record.integratorFeeChargedRaw
  exchangeFeeTickObserved := record.exchangeFeeTickObserved
  exchangeFeeChargedRaw := record.exchangeFeeChargedRaw
  integratorFeeEstimatedUsd := record.integratorFeeEstimatedUsd
  exchangeFeeEstimatedUsd := record.exchangeFeeEstimatedUsd
  collectorAccountIndex := record.collectorAccountIndex
  feeAuthorizationIntentId := record.feeAuthorizationIntentId
  initialMarginFractionBefore := record.fraction
  revision := 0
  updatedAt := now

/-- `INSERT_FILL_SQL`, which checks its row before it looks for a conflict. The identifier is
the next of its sequence. -/
def insertFill (now : Instant) (id : Nat) (record : FillRecord) (ledger : Ledger) :
    Except Failure (Option Nat × Ledger) :=
  if checks : (record.columns id now).checks then
    match ledger.find? record.canonicalIdentity with
    | some _ => .ok (none, ledger)
    | none => .ok (some id, ledger.put ⟨record.columns id now, checks, record.identity⟩)
  else .error .checkViolation

/-- `UPDATE … WHERE canonical_identity = $1 AND … RETURNING …`: the row it leaves. -/
def updateFill (ledger : Ledger) (identity : JsString) (guard : FillColumns → Bool)
    (change : FillColumns → FillColumns)
    (keeps : ∀ columns, (change columns).tradeIdentity = columns.tradeIdentity) :
    Except Failure (Option FillRow × Ledger) :=
  match ledger.find? identity with
  | none => .ok (none, ledger)
  | some row =>
    if guard row.columns then
      if checks : (change row.columns).checks then
        let updated : FillRow := {
          columns := change row.columns
          checks := checks
          identity := by
            have kept := keeps row.columns
            simp only [FillColumns.tradeIdentity, Prod.mk.injEq] at kept
            obtain ⟨canonical, environment, account, market, trade⟩ := kept
            rw [canonical, environment, account, market, trade]
            exact row.identity }
        .ok (some updated, ledger.put updated)
      else .error .checkViolation
    else .ok (none, ledger)

/-- `MERGE_FILL_ACCOUNT_FACTS_SQL`. -/
def mergeAccountFacts (now : Instant) (identity : JsString) (half : AccountHalf)
    (fraction : Option Int) (ledger : Ledger) : Except Failure (Option FillRow × Ledger) :=
  updateFill ledger identity (fun columns => columns.account.isNone) (fun columns =>
    { columns with
      account := some half
      initialMarginFractionBefore := columns.initialMarginFractionBefore.or fraction
      revision := columns.revision + 1
      updatedAt := now })
  (fun _ => rfl)

/-- `FILL_INITIAL_MARGIN_FRACTION_SQL`. -/
def fillInitialMarginFraction (now : Instant) (identity : JsString) (fraction : Option Int)
    (ledger : Ledger) : Except Failure (Option FillRow × Ledger) :=
  updateFill ledger identity (fun columns => columns.initialMarginFractionBefore.isNone)
    (fun columns =>
      { columns with
        initialMarginFractionBefore := fraction
        updatedAt := now })
    (fun _ => rfl)

/-- `ATTACH_FILL_SQL`. -/
def attachFill (now : Instant) (identity intentId : JsString) (clientOrderIndex : Option JsString)
    (ledger : Ledger) : Except Failure (Option FillRow × Ledger) :=
  updateFill ledger identity (fun columns => columns.executionIntentId.isNone) (fun columns =>
    { columns with
      executionIntentId := some intentId
      clientOrderId := columns.clientOrderId.or clientOrderIndex
      updatedAt := now })
  (fun _ => rfl)

def isNews (known charged : Option JsString) : Bool := known.isNone && charged.isSome

/-- `ENRICH_FILL_FEES_SQL`. -/
def enrichFees (now : Instant) (identity : JsString) (integrator exchange : Option JsString)
    (ledger : Ledger) : Except Failure (Option FillRow × Ledger) :=
  updateFill ledger identity (fun columns => isNews columns.integratorFeeChargedRaw integrator ||
      isNews columns.exchangeFeeChargedRaw exchange)
    (fun columns =>
      { columns with
        integratorFeeChargedRaw := columns.integratorFeeChargedRaw.or integrator
        exchangeFeeChargedRaw := columns.exchangeFeeChargedRaw.or exchange
        revision := columns.revision + 1
        updatedAt := now })
    (fun _ => rfl)

/-! ## Recording -/

/-- The columns of `IMMUTABLE_FILL_FIELDS`. -/
structure Economics where
  side : Side
  price : JsString
  baseSize : JsString
  quoteNotional : JsString
  blockHeight : JsString
  tradeType : TradeType
  usdAmount : JsString
  tradedAt : Instant
  deriving DecidableEq

def FillColumns.economics (columns : FillColumns) : Economics where
  side := columns.side
  price := columns.price
  baseSize := columns.baseSize
  quoteNotional := columns.quoteNotional
  blockHeight := columns.blockHeight
  tradeType := columns.tradeType
  usdAmount := columns.usdAmount
  tradedAt := columns.tradedAt

def FillRecord.economics (record : FillRecord) : Economics where
  side := record.side
  price := record.price
  baseSize := record.baseSize
  quoteNotional := record.quoteNotional
  blockHeight := record.blockHeight
  tradeType := record.tradeType
  usdAmount := record.usdAmount
  tradedAt := record.tradedAt

/-- The names of the economics in which a proposal differs from what is held. -/
def Economics.differences (existing proposed : Economics) : List String :=
  [("side", existing.side != proposed.side), ("price", existing.price != proposed.price),
    ("base_size", existing.baseSize != proposed.baseSize),
    ("quote_notional", existing.quoteNotional != proposed.quoteNotional),
    ("block_height", existing.blockHeight != proposed.blockHeight),
    ("trade_type", existing.tradeType != proposed.tradeType),
    ("usd_amount", existing.usdAmount != proposed.usdAmount),
    ("traded_at", existing.tradedAt != proposed.tradedAt)].filterMap fun (field, differs) =>
      if differs then some field else none

/-- `LighterFillWriteOutcome`. -/
inductive WriteOutcome where
  | recorded (fillId : Nat)
  | duplicate (fillId : Nat)
  | enriched (fillId revision : Nat)
  | conflict (fillId : Nat) (fields : List String)

/-- The fraction of an observation that brings it to a row without one. -/
def offerFraction (now : Instant) (record : FillRecord) (existing : FillRow) (ledger : Ledger) :
    Except Failure Ledger :=
  if record.fraction.isSome ∧ existing.columns.initialMarginFractionBefore = none then do
    let (_, ledger) ← fillInitialMarginFraction now record.canonicalIdentity record.fraction ledger
    return ledger
  else .ok ledger

/-- An observation of a fill whose economics agree with the row that is held. -/
def reobserve (now : Instant) (record : FillRecord) (existing : FillRow) (ledger : Ledger) :
    Except Failure (WriteOutcome × Ledger) :=
  match record.half with
  | some half =>
    if existing.columns.account = none then do
      let (merged, ledger) ←
        mergeAccountFacts now record.canonicalIdentity half record.fraction ledger
      match merged with
      | some row => return (.enriched row.columns.id row.columns.revision, ledger)
      -- A concurrent observation established the same half first.
      | none =>
        let ledger ← offerFraction now record existing ledger
        return (.duplicate existing.columns.id, ledger)
    else do
      let ledger ← offerFraction now record existing ledger
      return (.duplicate existing.columns.id, ledger)
  | none => do
    let ledger ← offerFraction now record existing ledger
    return (.duplicate existing.columns.id, ledger)

/-- `recordLighterFillActivity`. -/
def recordFillActivity (now : Instant) (id : Nat) (record : FillRecord) (ledger : Ledger) :
    Except Failure (WriteOutcome × Ledger) := do
  let (inserted, ledger) ← insertFill now id record ledger
  match inserted with
  | some id => return (.recorded id, ledger)
  | none =>
    match ledger.find? record.canonicalIdentity with
    | none => .error .conflictingRowGone
    | some existing =>
      let fields := existing.columns.economics.differences record.economics
      if fields ≠ [] then return (.conflict existing.columns.id fields, ledger)
      else reobserve now record existing ledger

/-! ## Attaching and enriching -/

/-- `LighterFillAttachIntent`. -/
structure AttachIntent where
  intentId : JsString
  environment : Environment
  accountIndex : Int
  marketIndex : Int
  providerOrderId : JsString
  clientOrderIndex : Option JsString

/-- `LighterFillAttachOutcome`. -/
inductive AttachOutcome where
  | attached (fillId : Nat)
  | alreadyAttached (fillId : Nat)
  | refused (reason : String)

/-- `attachLighterFillToIntent`. -/
def attachFillToIntent (now : Instant) (identity : JsString) (intent : AttachIntent)
    (ledger : Ledger) : Except Failure (AttachOutcome × Ledger) :=
  match ledger.find? identity with
  | none => .ok (.refused "unknown_fill", ledger)
  | some existing =>
  match existing.columns.executionIntentId.filter fun attached => attached ≠ [] with
  | some attached =>
    if attached = intent.intentId then .ok (.alreadyAttached existing.columns.id, ledger)
    else .ok (.refused "attached_to_other_intent", ledger)
  | none =>
    if existing.columns.environment ≠ intent.environment ∨
        existing.columns.accountIndex ≠ intent.accountIndex ∨
        existing.columns.marketIndex ≠ intent.marketIndex then
      .ok (.refused "scope_mismatch", ledger)
    else if existing.columns.providerOrderId.getD "null" ≠ intent.providerOrderId then
      .ok (.refused "provider_order_id_mismatch", ledger)
    else do
      let (updated, ledger) ← attachFill now identity intent.intentId intent.clientOrderIndex ledger
      match updated with
      | none => return (.refused "attached_to_other_intent", ledger)
      | some row => return (.attached row.columns.id, ledger)

/-- `enrichLighterFillChargedFees`. -/
def enrichFillChargedFees (now : Instant) (identity : JsString)
    (integrator exchange : Option JsString) (ledger : Ledger) : Except Failure (Bool × Ledger) :=
  if integrator = none ∧ exchange = none then .ok (false, ledger)
  else do
    let (updated, ledger) ← enrichFees now identity integrator exchange ledger
    return (updated.isSome, ledger)

/-! ## The ledger under its writers -/

inductive Event where
  | observe (now : Instant) (id : Nat) (record : FillRecord)
  | attach (now : Instant) (identity : JsString) (intent : AttachIntent)
  | enrich (now : Instant) (identity : JsString) (integrator exchange : Option JsString)

/-- The ledger a write leaves, unless it throws. -/
def Event.apply (ledger : Ledger) : Event → Option Ledger
  | .observe now id record => (recordFillActivity now id record ledger).toOption.map Prod.snd
  | .attach now identity intent =>
    (attachFillToIntent now identity intent ledger).toOption.map Prod.snd
  | .enrich now identity integrator exchange =>
    (enrichFillChargedFees now identity integrator exchange ledger).toOption.map Prod.snd

def step : Ledger → Event → Ledger := orStay Event.apply

end Vex.Lighter.Fills
