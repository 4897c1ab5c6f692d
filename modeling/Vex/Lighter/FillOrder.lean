import Vex.Lighter.FillMerge

/-!
# The order of observations

The facts of a fill are what its observations teach together. The economics, the account's
half and the margin fraction are learned from observations alone; the charged fees are
learned by a row that is held, from its enrichments. In both, what agrees pairwise teaches
the same in every order.

The fee ticks and estimates, the assets and the attribution of a row are those of the first
observation: no later observation writes them, so they do depend on the order.
-/

namespace Vex.Lighter.Fills

open Vex.Library

/-! ## What observations teach -/

/-- The facts of a fill that its observations establish. -/
structure Seen where
  economics : Economics
  account : Option AccountHalf
  fraction : Option Int
  deriving DecidableEq

def FillColumns.seen (columns : FillColumns) : Seen :=
  ⟨columns.economics, columns.account, columns.initialMarginFractionBefore⟩

def FillRecord.seen (record : FillRecord) : Seen := ⟨record.economics, record.half, record.fraction⟩

/-- What an observation adds, unless it contradicts the economics. -/
def Seen.learn (seen : Seen) (record : FillRecord) : Seen :=
  if seen.economics = record.economics then
    { seen with
      account := seen.account.or record.half
      fraction := seen.fraction.or record.fraction }
  else seen

/-- The observation of an identity that a write makes, if the table accepts it. -/
def Event.recordOf (identity : JsString) : Event → Option FillRecord
  | .observe _ _ record =>
    if record.canonicalIdentity = identity ∧ record.accepted then some record else none
  | .attach _ _ _ => none
  | .enrich _ _ _ _ => none

def observationsOf (identity : JsString) (events : List Event) : List FillRecord :=
  events.filterMap (Event.recordOf identity)

/-- An observation begins what is seen of an identity, or adds to it. -/
def absorb (seen : Option Seen) (record : FillRecord) : Option Seen :=
  some (seen.elim record.seen fun seen => seen.learn record)

theorem or_of_not_news {α : Type} {known other : Option α}
    (stale : ¬ (known = none ∧ other.isSome)) : known.or other = known := by
  cases known with
  | some value => rfl
  | none =>
    cases other with
    | none => rfl
    | some value => exact absurd ⟨rfl, rfl⟩ stale

theorem seen_observed (columns : FillColumns) (now : Instant) (record : FillRecord) :
    (columns.observed now record).seen = columns.seen.learn record := by
  unfold FillColumns.observed Seen.learn
  change _ = if columns.economics = record.economics then
    (⟨columns.economics, columns.account.or record.half,
      columns.initialMarginFractionBefore.or record.fraction⟩ : Seen) else columns.seen
  by_cases agree : columns.economics = record.economics
  swap
  · rw [if_pos agree, if_neg agree]
  rw [if_neg (not_not.mpr agree), if_pos agree]
  by_cases merges : columns.account = none ∧ record.half.isSome
  · rw [if_pos merges, merges.1, Option.none_or]
    rfl
  rw [if_neg merges, or_of_not_news merges]
  by_cases fills : columns.initialMarginFractionBefore = none ∧ record.fraction.isSome
  · rw [if_pos fills, fills.1, Option.none_or]
    rfl
  · rw [if_neg fills, or_of_not_news fills]
    rfl

theorem seen_attached (columns : FillColumns) (now : Instant) (intent : AttachIntent) :
    (columns.attached now intent).seen = columns.seen := by
  unfold FillColumns.attached
  dsimp only
  split
  · rfl
  · rfl

theorem seen_enriched (columns : FillColumns) (now : Instant)
    (integrator exchange : Option JsString) :
    (columns.enriched now integrator exchange).seen = columns.seen := by
  unfold FillColumns.enriched
  dsimp only
  split
  · rfl
  · rfl

theorem seen_rowStep (identity : JsString) (row : Option FillColumns) (event : Event) :
    (rowStep identity row event).map FillColumns.seen =
      (event.recordOf identity).elim (row.map FillColumns.seen)
        (absorb (row.map FillColumns.seen)) := by
  cases event with
  | observe now id record =>
    rw [rowStep, Event.recordOf]
    split
    · cases row with
      | none => rfl
      | some columns => exact congrArg some (seen_observed columns now record)
    · rfl
  | attach now attached intent =>
    rw [rowStep, Event.recordOf, Option.elim_none]
    split
    · cases row with
      | none => rfl
      | some columns => exact congrArg some (seen_attached columns now intent)
    · rfl
  | enrich now enriched integrator exchange =>
    rw [rowStep, Event.recordOf, Option.elim_none]
    split
    · cases row with
      | none => rfl
      | some columns => exact congrArg some (seen_enriched columns now integrator exchange)
    · rfl

theorem seen_run (identity : JsString) (ledger : Ledger) (events : List Event) :
    (columnsOf (run step ledger events) identity).map FillColumns.seen =
      (observationsOf identity events).foldl absorb
        ((columnsOf ledger identity).map FillColumns.seen) := by
  induction events generalizing ledger with
  | nil => rfl
  | cons event rest ih =>
    rw [run_cons, ih, columnsOf_step, seen_rowStep, observationsOf, observationsOf,
      List.filterMap_cons]
    cases event.recordOf identity with
    | none => rfl
    | some record => rfl

/-! ## Observations that agree -/

def FillRecord.ownFacts (record : FillRecord) :
    Option (JsString × Bool × Option JsString × JsString) :=
  record.accountFacts.map fun facts =>
    (facts.positionSizeBefore, facts.positionSignChanged, facts.entryQuoteBefore, facts.accountPnl)

/-- Two observations with the same economics that know nothing different of the account. -/
structure SameFill (record other : FillRecord) : Prop where
  economics : record.economics = other.economics
  ownFacts : Agree record.ownFacts other.ownFacts
  fraction : Agree record.fraction other.fraction

def Consistent (identity : JsString) (events : List Event) : Prop :=
  ∀ record ∈ observationsOf identity events,
    ∀ other ∈ observationsOf identity events, SameFill record other

theorem SameFill.half {record other : FillRecord} (same : SameFill record other) :
    Agree record.half other.half := by
  have side : record.side = other.side := congrArg Economics.side same.economics
  have size : record.baseSize = other.baseSize := congrArg Economics.baseSize same.economics
  intro half carries half' carries'
  obtain ⟨facts, known, rfl⟩ := Option.map_eq_some_iff.mp carries
  obtain ⟨facts', known', rfl⟩ := Option.map_eq_some_iff.mp carries'
  have equal := same.ownFacts _ (by rw [FillRecord.ownFacts, known]; rfl) _
    (by rw [FillRecord.ownFacts, known']; rfl)
  simp only [Prod.mk.injEq] at equal
  obtain ⟨sizeBefore, signChanged, entryQuote, pnl⟩ := equal
  rw [side, size, sizeBefore, signChanged, entryQuote, pnl]

theorem absorb_right_comm {record other : FillRecord} (same : SameFill record other)
    (seen : Option Seen) :
    absorb (absorb seen record) other = absorb (absorb seen other) record := by
  cases seen with
  | none =>
    have half := same.half.or_right_comm none
    have fraction := same.fraction.or_right_comm none
    simp only [Option.none_or] at half fraction
    simp only [absorb, Option.elim_none, Option.elim_some, Seen.learn, FillRecord.seen,
      same.economics, if_true, half, fraction]
  | some seen =>
    simp only [absorb, Option.elim_some, Seen.learn, same.economics]
    by_cases agree : seen.economics = other.economics
    · simp only [agree, if_true, same.half.or_right_comm, same.fraction.or_right_comm]
    · simp only [agree, if_false]

variable {identity : JsString}

theorem seen_perm {events others : List Event} (ledger : Ledger) (perm : events.Perm others)
    (consistent : Consistent identity events) :
    (columnsOf (run step ledger events) identity).map FillColumns.seen =
      (columnsOf (run step ledger others) identity).map FillColumns.seen := by
  rw [seen_run, seen_run]
  exact (perm.filterMap _).foldl_eq' (fun record member other member' seen =>
    absorb_right_comm (consistent record member other member') seen) _

/-! ## Charged fees -/

structure Fees where
  asset : Option VenueAssetRef
  integrator : Option JsString
  exchange : Option JsString
  deriving DecidableEq

def FillColumns.fees (columns : FillColumns) : Fees :=
  ⟨columns.integratorFeeAsset, columns.integratorFeeChargedRaw, columns.exchangeFeeChargedRaw⟩

def Fees.checks (fees : Fees) : Bool :=
  fees.integrator.all (integratorChargeChecks fees.asset) && fees.exchange.all exchangeChargeChecks

/-- What an enrichment adds, unless the table's checks refuse it. -/
def Fees.charge (fees : Fees) (charged : Option JsString × Option JsString) : Fees :=
  let merged : Fees := ⟨fees.asset, fees.integrator.or charged.1, fees.exchange.or charged.2⟩
  if merged.checks then merged else fees

/-- The amounts a write brings to an identity. -/
def Event.chargesOf (identity : JsString) : Event → Option (Option JsString × Option JsString)
  | .observe _ _ _ => none
  | .attach _ _ _ => none
  | .enrich _ enriched integrator exchange =>
    if enriched = identity then some (integrator, exchange) else none

theorem fees_observed (columns : FillColumns) (now : Instant) (record : FillRecord) :
    (columns.observed now record).fees = columns.fees := by
  unfold FillColumns.observed
  split
  · rfl
  split
  · rfl
  split
  · rfl
  · rfl

theorem fees_attached (columns : FillColumns) (now : Instant) (intent : AttachIntent) :
    (columns.attached now intent).fees = columns.fees := by
  unfold FillColumns.attached
  dsimp only
  split
  · rfl
  · rfl

variable {columns : FillColumns}

theorem FillColumns.fees_checks (checks : columns.checks = true) : columns.fees.checks = true := by
  obtain ⟨-, -, -, -, integrator, exchange⟩ := FillColumns.checks_iff.mp checks
  exact Bool.and_eq_true_iff.mpr ⟨integrator, exchange⟩

theorem or_of_no_news {known charged : Option JsString} (stale : ¬ isNews known charged = true) :
    known.or charged = known :=
  or_of_not_news fun news => stale (by simp [isNews, news.1, news.2])

theorem fees_enriched (checks : columns.checks = true) (now : Instant)
    (integrator exchange : Option JsString) :
    (columns.enriched now integrator exchange).fees = columns.fees.charge (integrator, exchange) := by
  obtain ⟨inserted, client, account, fraction, -, -⟩ := FillColumns.checks_iff.mp checks
  unfold FillColumns.enriched Fees.charge
  dsimp only
  by_cases news : (isNews columns.integratorFeeChargedRaw integrator ||
    isNews columns.exchangeFeeChargedRaw exchange) = true
  · -- Of the checks of the table, only those of the charged fees can fail.
    have onlyFees : FillColumns.checks { columns with
          integratorFeeChargedRaw := columns.integratorFeeChargedRaw.or integrator
          exchangeFeeChargedRaw := columns.exchangeFeeChargedRaw.or exchange
          revision := columns.revision + 1
          updatedAt := now } = true ↔
        Fees.checks ⟨columns.fees.asset, columns.fees.integrator.or integrator,
          columns.fees.exchange.or exchange⟩ = true := by
      constructor
      · exact FillColumns.fees_checks
      · intro fees
        obtain ⟨integratorPasses, exchangePasses⟩ := Bool.and_eq_true_iff.mp fees
        exact FillColumns.checks_iff.mpr
          ⟨inserted, client, account, fraction, integratorPasses, exchangePasses⟩
    rw [news, Bool.true_and]
    by_cases passes : Fees.checks ⟨columns.fees.asset, columns.fees.integrator.or integrator,
      columns.fees.exchange.or exchange⟩ = true
    · rw [if_pos passes, if_pos (onlyFees.mpr passes)]
      rfl
    · rw [if_neg passes, if_neg (fun enriched => passes (onlyFees.mp enriched))]
  · rw [Bool.not_eq_true, Bool.or_eq_false_iff] at news
    have integratorSame : columns.fees.integrator.or integrator = columns.fees.integrator :=
      or_of_no_news (by simp [FillColumns.fees, news.1])
    have exchangeSame : columns.fees.exchange.or exchange = columns.fees.exchange :=
      or_of_no_news (by simp [FillColumns.fees, news.2])
    rw [news.1, news.2, integratorSame, exchangeSame]
    simp

theorem fees_rowStep (checks : columns.checks = true) (event : Event) :
    (rowStep identity (some columns) event).map FillColumns.fees =
      some ((event.chargesOf identity).elim columns.fees columns.fees.charge) := by
  cases event with
  | observe now id record =>
    rw [rowStep, Event.chargesOf, Option.elim_none]
    split
    · exact congrArg some (fees_observed columns now record)
    · rfl
  | attach now attached intent =>
    rw [rowStep, Event.chargesOf, Option.elim_none]
    split
    · exact congrArg some (fees_attached columns now intent)
    · rfl
  | enrich now enriched integrator exchange =>
    rw [rowStep, Event.chargesOf]
    split
    · exact congrArg some (fees_enriched checks now integrator exchange)
    · rfl

variable {ledger : Ledger}

theorem checks_of_columnsOf (held : columnsOf ledger identity = some columns) :
    columns.checks = true := by
  obtain ⟨row, -, rfl⟩ := Option.map_eq_some_iff.mp held
  exact row.checks

theorem fees_run (held : columnsOf ledger identity = some columns) (events : List Event) :
    (columnsOf (run step ledger events) identity).map FillColumns.fees =
      some ((events.filterMap (Event.chargesOf identity)).foldl Fees.charge columns.fees) := by
  induction events generalizing ledger columns with
  | nil => exact congrArg (Option.map FillColumns.fees) held
  | cons event rest ih =>
    have stepped := columnsOf_step ledger event identity
    rw [held] at stepped
    obtain ⟨columns', left, -⟩ := rowStep_learns identity columns event
    have fees : (rowStep identity (some columns) event).map FillColumns.fees = _ :=
      fees_rowStep (checks_of_columnsOf held) event
    rw [left, Option.map_some, Option.some.injEq] at fees
    rw [run_cons, ih (stepped.trans left), List.filterMap_cons, fees]
    cases event.chargesOf identity with
    | none => rfl
    | some charged => rfl

/-! ## Enrichments that agree -/

/-- Two enrichments do not know different amounts. -/
structure SameCharges (charged other : Option JsString × Option JsString) : Prop where
  integrator : Agree charged.1 other.1
  exchange : Agree charged.2 other.2

theorem SameCharges.symm {charged other : Option JsString × Option JsString}
    (same : SameCharges charged other) : SameCharges other charged :=
  ⟨fun value known value' known' => (same.integrator value' known' value known).symm,
    fun value known value' known' => (same.exchange value' known' value known).symm⟩

def ConsistentFees (identity : JsString) (events : List Event) : Prop :=
  ∀ charged ∈ events.filterMap (Event.chargesOf identity),
    ∀ other ∈ events.filterMap (Event.chargesOf identity), SameCharges charged other

/-- What a row holds once an enrichment has been merged. -/
def Fees.merged (fees : Fees) (charged : Option JsString × Option JsString) : Fees :=
  ⟨fees.asset, fees.integrator.or charged.1, fees.exchange.or charged.2⟩

theorem Fees.charge_eq (fees : Fees) (charged : Option JsString × Option JsString) :
    fees.charge charged = if (fees.merged charged).checks then fees.merged charged else fees := rfl

theorem Fees.checks_iff {fees : Fees} : fees.checks = true ↔
    fees.integrator.all (integratorChargeChecks fees.asset) = true ∧
      fees.exchange.all exchangeChargeChecks = true := Bool.and_eq_true_iff

section Charges

variable {fees : Fees} {charged other : Option JsString × Option JsString}

theorem SameCharges.merged_comm (same : SameCharges charged other) (fees : Fees) :
    (fees.merged charged).merged other = (fees.merged other).merged charged := by
  simp only [Fees.merged, same.integrator.or_right_comm, same.exchange.or_right_comm]

theorem Fees.checks_merged_merged (passes : (fees.merged charged).checks = true)
    (passes' : (fees.merged other).checks = true) :
    ((fees.merged charged).merged other).checks = true := by
  rw [Fees.checks_iff] at passes passes' ⊢
  exact ⟨all_or_or passes.1 passes'.1, all_or_or passes.2 passes'.2⟩

theorem SameCharges.refused_after (same : SameCharges charged other)
    (passes : (fees.merged charged).checks = true)
    (refused : ¬ (fees.merged other).checks = true) :
    ¬ ((fees.merged charged).merged other).checks = true := by
  rw [Fees.checks_iff] at passes refused ⊢
  rintro ⟨integrator, exchange⟩
  refine refused ⟨?_, ?_⟩
  · by_contra fails
    exact same.integrator.refused_after passes.1 fails integrator
  · by_contra fails
    exact same.exchange.refused_after passes.2 fails exchange

theorem charge_right_comm (same : SameCharges charged other) (fees : Fees) :
    (fees.charge charged).charge other = (fees.charge other).charge charged := by
  by_cases passes : (fees.merged charged).checks = true
  · by_cases passes' : (fees.merged other).checks = true
    · rw [fees.charge_eq charged, if_pos passes, fees.charge_eq other, if_pos passes',
        Fees.charge_eq, if_pos (Fees.checks_merged_merged passes passes'), Fees.charge_eq,
        if_pos (Fees.checks_merged_merged passes' passes), same.merged_comm]
    · rw [fees.charge_eq charged, if_pos passes, fees.charge_eq other, if_neg passes',
        Fees.charge_eq, if_neg (same.refused_after passes passes'), fees.charge_eq, if_pos passes]
  · by_cases passes' : (fees.merged other).checks = true
    · rw [fees.charge_eq charged, if_neg passes, fees.charge_eq other, if_pos passes',
        Fees.charge_eq, if_neg (same.symm.refused_after passes' passes)]
    · rw [fees.charge_eq charged, if_neg passes, fees.charge_eq other, if_neg passes',
        fees.charge_eq, if_neg passes]

end Charges

theorem fees_perm (held : columnsOf ledger identity = some columns) {events others : List Event}
    (perm : events.Perm others) (consistent : ConsistentFees identity events) :
    (columnsOf (run step ledger events) identity).map FillColumns.fees =
      (columnsOf (run step ledger others) identity).map FillColumns.fees := by
  rw [fees_run held, fees_run held]
  exact congrArg some ((perm.filterMap _).foldl_eq' (fun charged member other member' fees =>
    charge_right_comm (consistent charged member other member') fees) _)

/-! ## What only the insert writes -/

def FillRecord.inserted (record : FillRecord) : FillColumns := (record.columns 0 0).inserted

theorem inserted_rowStep (identity : JsString) (row : Option FillColumns) (event : Event) :
    (rowStep identity row event).map FillColumns.inserted =
      (event.recordOf identity).elim (row.map FillColumns.inserted) fun record =>
        (row.map FillColumns.inserted).or (some record.inserted) := by
  cases row with
  | some columns =>
    obtain ⟨columns', left, learns⟩ := rowStep_learns identity columns event
    rw [left, Option.map_some, learns.inserted]
    cases event.recordOf identity with
    | none => rfl
    | some record => rfl
  | none =>
    cases event with
    | observe now id record =>
      rw [rowStep, Event.recordOf]
      split
      · rfl
      · rfl
    | attach now attached intent => simp [rowStep, Event.recordOf]
    | enrich now enriched integrator exchange => simp [rowStep, Event.recordOf]

theorem inserted_run (identity : JsString) (ledger : Ledger) (events : List Event) :
    (columnsOf (run step ledger events) identity).map FillColumns.inserted =
      learned ((columnsOf ledger identity).map FillColumns.inserted)
        ((observationsOf identity events).map fun record => some record.inserted) := by
  induction events generalizing ledger with
  | nil => rfl
  | cons event rest ih =>
    rw [run_cons, ih, columnsOf_step, inserted_rowStep, observationsOf, observationsOf,
      List.filterMap_cons]
    cases event.recordOf identity with
    | none => rfl
    | some record => rfl

theorem inserted_first (identity : JsString) (events : List Event) :
    (columnsOf (run step Table.empty events) identity).map FillColumns.inserted =
      (observationsOf identity events).head?.map FillRecord.inserted := by
  rw [inserted_run]
  cases observationsOf identity events with
  | nil => rfl
  | cons first rest =>
    rw [List.map_cons, List.head?_cons, Option.map_some]
    exact learned_some first.inserted _

/-! ## The ledger -/

/-- **The ledger of fills is a merge.** After every sequence of writes there is one row for a
trade; a further write leaves the row of an identity in place and only teaches it; an
observation that contradicts the economics of a row changes nothing; and consistent
observations, and consistent enrichments of a held row, leave the same facts in every order.
What only the insert writes is that of the first observation. -/
theorem fill_ledger_is_a_merge (events : List Event) :
    let ledger := run step Table.empty events
    (∀ row ∈ ledger.rows, ∀ other ∈ ledger.rows,
      row.columns.environment = other.columns.environment →
      row.columns.accountIndex = other.columns.accountIndex →
      row.columns.marketIndex = other.columns.marketIndex →
      row.columns.providerTradeId = other.columns.providerTradeId → row = other) ∧
    (∀ identity columns, columnsOf ledger identity = some columns → ∀ event, ∃ columns',
      columnsOf (step ledger event) identity = some columns' ∧ Learns columns columns') ∧
    (∀ row ∈ ledger.rows, ∀ now id record,
      record.canonicalIdentity = row.columns.canonicalIdentity →
      row.columns.economics ≠ record.economics →
      step ledger (.observe now id record) = ledger) ∧
    (∀ identity others, events.Perm others → Consistent identity events →
      (columnsOf ledger identity).map FillColumns.seen =
        (columnsOf (run step Table.empty others) identity).map FillColumns.seen) ∧
    (∀ identity columns, columnsOf ledger identity = some columns → ∀ later later',
      later.Perm later' → ConsistentFees identity later →
      (columnsOf (run step ledger later) identity).map FillColumns.fees =
        (columnsOf (run step ledger later') identity).map FillColumns.fees) ∧
    ∀ identity, (columnsOf ledger identity).map FillColumns.inserted =
      (observationsOf identity events).head?.map FillRecord.inserted := by
  refine ⟨?_, ?_, ?_, ?_, ?_, fun identity => inserted_first identity events⟩
  · intro row member other member' environment account market trade
    refine Table.eq_of_key member member' ?_
    have identity := row.identity
    rw [environment, account, market, trade, ← other.identity] at identity
    exact identity
  · intro identity columns held event
    rw [columnsOf_step, held]
    exact rowStep_learns identity columns event
  · intro row member now id record same contradicts
    have found : (run step Table.empty events).find? record.canonicalIdentity = some row :=
      Table.find?_eq_some.mpr ⟨member, same.symm⟩
    change (((recordFillActivity now id record _).toOption.map Prod.snd).getD _) = _
    by_cases accepted : record.accepted = true
    · rw [record_conflict now id accepted found contradicts]
      rfl
    · rw [record_rejected now id (by simpa using accepted)]
      rfl
  · intro identity others perm consistent
    exact seen_perm Table.empty perm consistent
  · intro identity columns held later later' perm consistent
    exact fees_perm held perm consistent

/-! ## A fee tick that came second -/

def observedTrade (integratorTakerFee : Option Int) : Trade where
  tradeIdStr := "41"
  type := .trade
  size := "2"
  price := "5"
  usdAmount := "10"
  askIdStr := "7"
  bidIdStr := "8"
  askAccountId := 1
  bidAccountId := 2
  isMakerAsk := true
  blockHeight := 1
  timestamp := 1
  transactionTime := none
  integratorMakerFee := none
  integratorTakerFee := integratorTakerFee
  takerFee := none
  makerFee := none
  takerPositionSizeBefore := none
  takerEntryQuoteBefore := none
  takerInitialMarginFractionBefore := none
  takerPositionSignChanged := none
  makerPositionSizeBefore := none
  makerEntryQuoteBefore := none
  makerInitialMarginFractionBefore := none
  makerPositionSignChanged := none
  askAccountPnl := none
  bidAccountPnl := none

def observedRecord (integratorTakerFee : Option Int) : Except FillBuildFailure FillRecord :=
  buildFillRecord (observedTrade integratorTakerFee) none (some ⟨.core, 2, 0⟩)
    ⟨"ETH", ⟨"1", "ETH", 18⟩, ⟨"3", "USDC", 6⟩⟩ ⟨none, none, none, none, none⟩

def bareRecord : FillRecord := (observedRecord none).toOption.get (by decide)

def tickedRecord : FillRecord := (observedRecord (some 350)).toOption.get (by decide)

/-- The fee tick of the row that two observations leave. -/
def tickAfter (first second : FillRecord) : Option (Option Int) :=
  (columnsOf (run step Table.empty [.observe 1 1 first, .observe 2 2 second])
    first.canonicalIdentity).map FillColumns.integratorFeeTickObserved

/-- Two observations that agree in everything both know leave a fee tick or none, as the one
that knows it comes first or second. -/
theorem late_fee_tick_is_dropped :
    observedRecord none = .ok bareRecord ∧ observedRecord (some 350) = .ok tickedRecord ∧
      SameFill bareRecord tickedRecord ∧
      bareRecord.canonicalIdentity = tickedRecord.canonicalIdentity ∧
      bareRecord.integratorFeeTickObserved = none ∧
      tickedRecord.integratorFeeTickObserved = some 350 ∧
      tickAfter bareRecord tickedRecord = some none ∧
      tickAfter tickedRecord bareRecord = some (some 350) := by
  have ownFacts : bareRecord.ownFacts = tickedRecord.ownFacts := by decide
  have fraction : bareRecord.fraction = tickedRecord.fraction := by decide
  refine ⟨?_, ?_, ⟨?_, .of_eq ownFacts, .of_eq fraction⟩, ?_, ?_, ?_, ?_, ?_⟩
  · exact toOption_eq_some.mp (Option.some_get _).symm
  · exact toOption_eq_some.mp (Option.some_get _).symm
  · decide
  · decide
  · decide
  · decide
  · decide
  · decide

end Vex.Lighter.Fills
