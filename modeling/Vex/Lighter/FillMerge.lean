import Vex.Library.PartialKnowledge
import Vex.Lighter.FillLedger

/-!
# The ledger of fills is a merge

What a write does to the row of an identity is a function of that row alone, and the writes
of the other identities do not touch it. From this function follow the laws of one write:
economics stay, the account's half and the other facts are learned once, and the revision
counts the merges and enrichments that taught something. The facts of a row are then what
its observations teach together, and observations that agree teach the same in every order.
-/

namespace Vex.Lighter.Fills

open Vex.Library

/-! ## What a write makes of a row -/

def columnsOf (ledger : Ledger) (identity : JsString) : Option FillColumns :=
  (ledger.find? identity).map FillRow.columns

theorem columnsOf_put (ledger : Ledger) (row : FillRow) (identity : JsString) :
    columnsOf (ledger.put row) identity =
      if row.canonicalIdentity = identity then some row.columns else columnsOf ledger identity := by
  unfold columnsOf
  split
  · rename_i same
    rw [← same, Table.find?_put_self, Option.map_some]
  · rename_i other
    rw [Table.find?_put_of_ne (Ne.symm other)]

/-- The insert of a record passes the checks of the table. -/
def FillRecord.accepted (record : FillRecord) : Bool := (record.columns 0 0).checks

theorem FillRecord.checks_columns (record : FillRecord) (id : Nat) (now : Instant) :
    (record.columns id now).checks = record.accepted := rfl

/-- What an observation makes of a row of its identity. -/
def FillColumns.observed (columns : FillColumns) (now : Instant) (record : FillRecord) :
    FillColumns :=
  if columns.economics ≠ record.economics then columns
  else if columns.account = none ∧ record.half.isSome then
    { columns with
      account := record.half
      initialMarginFractionBefore := columns.initialMarginFractionBefore.or record.fraction
      revision := columns.revision + 1
      updatedAt := now }
  else if columns.initialMarginFractionBefore = none ∧ record.fraction.isSome then
    { columns with
      initialMarginFractionBefore := record.fraction
      updatedAt := now }
  else columns

def FillColumns.attached (columns : FillColumns) (now : Instant) (intent : AttachIntent) :
    FillColumns :=
  let attached := { columns with
    executionIntentId := some intent.intentId
    clientOrderId := columns.clientOrderId.or intent.clientOrderIndex
    updatedAt := now }
  if columns.executionIntentId = none ∧ columns.environment = intent.environment ∧
      columns.accountIndex = intent.accountIndex ∧ columns.marketIndex = intent.marketIndex ∧
      columns.providerOrderId.getD "null" = intent.providerOrderId ∧ attached.checks then attached
  else columns

def FillColumns.enriched (columns : FillColumns) (now : Instant)
    (integrator exchange : Option JsString) : FillColumns :=
  let enriched := { columns with
    integratorFeeChargedRaw := columns.integratorFeeChargedRaw.or integrator
    exchangeFeeChargedRaw := columns.exchangeFeeChargedRaw.or exchange
    revision := columns.revision + 1
    updatedAt := now }
  if (isNews columns.integratorFeeChargedRaw integrator ||
      isNews columns.exchangeFeeChargedRaw exchange) && enriched.checks then enriched
  else columns

def rowStep (identity : JsString) (row : Option FillColumns) : Event → Option FillColumns
  | .observe now id record =>
    if record.canonicalIdentity = identity ∧ record.accepted then
      some (row.elim (record.columns id now) fun columns => columns.observed now record)
    else row
  | .attach now attached intent =>
    if attached = identity then row.map fun columns => columns.attached now intent else row
  | .enrich now enriched integrator exchange =>
    if enriched = identity then row.map fun columns => columns.enriched now integrator exchange
    else row

/-! ## The statements -/

section Statements

variable {ledger : Ledger} {identity : JsString} {guard : FillColumns → Bool}
  {change : FillColumns → FillColumns}
  {keeps : ∀ columns, (change columns).tradeIdentity = columns.tradeIdentity} {row : FillRow}

theorem updateFill_unmatched (found : ledger.find? identity = some row)
    (unmatched : guard row.columns = false) :
    updateFill ledger identity guard change keeps = .ok (none, ledger) := by
  rw [updateFill, found]
  simp [unmatched]

theorem updateFill_matched (found : ledger.find? identity = some row)
    (matched : guard row.columns = true) (checks : (change row.columns).checks = true) :
    ∃ updated, updateFill ledger identity guard change keeps =
        .ok (some updated, ledger.put updated) ∧
      updated.columns = change row.columns ∧ updated.canonicalIdentity = identity := by
  have same : (change row.columns).canonicalIdentity = identity := by
    have kept := congrArg Prod.fst (keeps row.columns)
    exact kept.trans (Table.find?_eq_some.mp found).2
  rw [updateFill, found]
  simp only [matched, if_true, dif_pos checks]
  exact ⟨_, rfl, rfl, same⟩

theorem updateFill_refused (found : ledger.find? identity = some row)
    (matched : guard row.columns = true) (fails : (change row.columns).checks = false) :
    updateFill ledger identity guard change keeps = .error .checkViolation := by
  rw [updateFill, found]
  simp [matched, fails]

end Statements

/-! ## The checks of a merged row -/

variable {columns : FillColumns}

theorem FillColumns.checks_iff : columns.checks = true ↔
    columns.insertedChecks = true ∧ columns.clientOrderId.all JsString.isDecimal = true ∧
      columns.account.all AccountHalf.checks = true ∧
      columns.initialMarginFractionBefore.all isMarginFraction = true ∧
      columns.integratorFeeChargedRaw.all
        (integratorChargeChecks columns.integratorFeeAsset) = true ∧
      columns.exchangeFeeChargedRaw.all exchangeChargeChecks = true := by
  simp [FillColumns.checks, and_assoc]

theorem checks_merged {record : FillRecord} (now : Instant) (checks : columns.checks = true)
    (accepted : record.accepted = true) :
    FillColumns.checks { columns with
      account := record.half
      initialMarginFractionBefore := columns.initialMarginFractionBefore.or record.fraction
      revision := columns.revision + 1
      updatedAt := now } = true := by
  obtain ⟨inserted, client, -, fraction, integrator, exchange⟩ := FillColumns.checks_iff.mp checks
  obtain ⟨-, -, half, recordFraction, -, -⟩ := FillColumns.checks_iff.mp accepted
  exact FillColumns.checks_iff.mpr
    ⟨inserted, client, half, all_or fraction recordFraction, integrator, exchange⟩

theorem checks_filled {record : FillRecord} (now : Instant) (checks : columns.checks = true)
    (accepted : record.accepted = true) :
    FillColumns.checks { columns with
      initialMarginFractionBefore := record.fraction
      updatedAt := now } = true := by
  obtain ⟨inserted, client, half, -, integrator, exchange⟩ := FillColumns.checks_iff.mp checks
  obtain ⟨-, -, -, fraction, -, -⟩ := FillColumns.checks_iff.mp accepted
  exact FillColumns.checks_iff.mpr ⟨inserted, client, half, fraction, integrator, exchange⟩

theorem differences_eq_nil {existing proposed : Economics} :
    existing.differences proposed = [] ↔ existing = proposed := by
  constructor
  · intro none_
    simp only [Economics.differences, List.filterMap_eq_nil_iff, List.mem_cons,
      List.not_mem_nil, or_false, forall_eq_or_imp, forall_eq] at none_
    simp only [ite_eq_right_iff, reduceCtorEq, imp_false, bne_iff_ne, ne_eq, not_not] at none_
    obtain ⟨side, price, base, quote, block, type, usd, traded⟩ := none_
    cases existing
    cases proposed
    simp_all
  · rintro rfl
    simp [Economics.differences]

/-! ## The writes -/

section Writes

variable {ledger : Ledger}

variable {record : FillRecord}

variable (now : Instant)

theorem record_rejected (id : Nat) (rejected : record.accepted = false) :
    recordFillActivity now id record ledger = .error .checkViolation := by
  have checks : (record.columns id now).checks ≠ true := by
    rw [record.checks_columns, rejected]
    decide
  rw [recordFillActivity, insertFill, dif_neg checks]
  rfl

theorem record_new (id : Nat) (accepted : record.accepted = true)
    (unknown : ledger.find? record.canonicalIdentity = none) :
    ∃ row : FillRow, recordFillActivity now id record ledger = .ok (.recorded id, ledger.put row) ∧
      row.columns = record.columns id now := by
  have checks : (record.columns id now).checks = true := accepted
  rw [recordFillActivity, insertFill, dif_pos checks, unknown]
  exact ⟨⟨record.columns id now, checks, record.identity⟩, rfl, rfl⟩

/-- A ledger in which the row of an identity has these columns, and every other row is that of
another ledger. -/
def Leaves (ledger : Ledger) (identity : JsString) (columns : FillColumns) (ledger' : Ledger) :
    Prop :=
  ∀ other, columnsOf ledger' other =
    if identity = other then some columns else columnsOf ledger other

variable {identity : JsString}

theorem Leaves.same {row : FillRow} (found : ledger.find? identity = some row) :
    Leaves ledger identity row.columns ledger := by
  intro other
  split
  · rename_i same
    rw [← same, columnsOf, found, Option.map_some]
  · rfl

theorem Leaves.put {row : FillRow} (same : row.canonicalIdentity = identity) :
    Leaves ledger identity row.columns (ledger.put row) := by
  intro other
  rw [columnsOf_put, same]

variable {existing : FillRow}

section
variable (accepted : record.accepted = true)
include accepted

theorem fillInitialMarginFraction_unknown
    (found : ledger.find? record.canonicalIdentity = some existing)
    (unknown : existing.columns.initialMarginFractionBefore = none) :
    ∃ updated, fillInitialMarginFraction now record.canonicalIdentity record.fraction ledger =
        .ok (some updated, ledger.put updated) ∧
      updated.columns = { existing.columns with
        initialMarginFractionBefore := record.fraction
        updatedAt := now } ∧
      updated.canonicalIdentity = record.canonicalIdentity := by
  unfold fillInitialMarginFraction
  exact updateFill_matched found (by rw [unknown]; rfl) (checks_filled now existing.checks accepted)

theorem mergeAccountFacts_unknown {half : AccountHalf} (carries : record.half = some half)
    (found : ledger.find? record.canonicalIdentity = some existing)
    (unknown : existing.columns.account = none) :
    ∃ updated, mergeAccountFacts now record.canonicalIdentity half record.fraction ledger =
        .ok (some updated, ledger.put updated) ∧
      updated.columns = { existing.columns with
        account := record.half
        initialMarginFractionBefore :=
          existing.columns.initialMarginFractionBefore.or record.fraction
        revision := existing.columns.revision + 1
        updatedAt := now } ∧
      updated.canonicalIdentity = record.canonicalIdentity := by
  have merged := checks_merged now existing.checks accepted
  rw [carries] at merged ⊢
  unfold mergeAccountFacts
  exact updateFill_matched found (by rw [unknown]; rfl) merged

theorem offerFraction_leaves (found : ledger.find? record.canonicalIdentity = some existing) :
    ∃ ledger', offerFraction now record existing ledger = .ok ledger' ∧
      Leaves ledger record.canonicalIdentity
        (if existing.columns.initialMarginFractionBefore = none ∧ record.fraction.isSome then
          { existing.columns with
            initialMarginFractionBefore := record.fraction
            updatedAt := now }
        else existing.columns) ledger' := by
  unfold offerFraction
  by_cases isNew : record.fraction.isSome ∧ existing.columns.initialMarginFractionBefore = none
  · rw [if_pos isNew, if_pos isNew.symm]
    obtain ⟨updated, ran, columns, same⟩ :=
      fillInitialMarginFraction_unknown now accepted found isNew.2
    rw [ran, ← columns]
    exact ⟨ledger.put updated, rfl, Leaves.put same⟩
  · rw [if_neg isNew, if_neg (fun both => isNew both.symm)]
    exact ⟨ledger, rfl, Leaves.same found⟩

theorem reobserve_leaves (found : ledger.find? record.canonicalIdentity = some existing)
    (agree : existing.columns.economics = record.economics) :
    ∃ outcome ledger', reobserve now record existing ledger = .ok (outcome, ledger') ∧
      Leaves ledger record.canonicalIdentity (existing.columns.observed now record) ledger' := by
  obtain ⟨ledger', offered, leaves⟩ := offerFraction_leaves now accepted found
  unfold reobserve FillColumns.observed
  rw [if_neg (not_not.mpr agree)]
  by_cases merges : existing.columns.account = none ∧ record.half.isSome
  · obtain ⟨half, carries⟩ := Option.isSome_iff_exists.mp merges.2
    obtain ⟨updated, ran, columns, same⟩ :=
      mergeAccountFacts_unknown now accepted carries found merges.1
    rw [if_pos merges, ← columns, carries]
    dsimp only
    rw [if_pos merges.1, ran]
    exact ⟨_, _, rfl, Leaves.put same⟩
  · rw [if_neg merges]
    cases carries : record.half with
    | none =>
      dsimp only
      rw [offered]
      exact ⟨_, ledger', rfl, leaves⟩
    | some half =>
      rw [carries] at merges
      dsimp only
      rw [if_neg (fun unknown => merges ⟨unknown, rfl⟩), offered]
      exact ⟨_, ledger', rfl, leaves⟩

end

theorem record_held (id : Nat) (accepted : record.accepted = true)
    (found : ledger.find? record.canonicalIdentity = some existing) :
    ∃ outcome ledger', recordFillActivity now id record ledger = .ok (outcome, ledger') ∧
      Leaves ledger record.canonicalIdentity (existing.columns.observed now record) ledger' := by
  have checks : (record.columns id now).checks = true := accepted
  have conflicts : insertFill now id record ledger = .ok (none, ledger) := by
    rw [insertFill, dif_pos checks, found]
  unfold recordFillActivity
  rw [conflicts, ok_bind]
  dsimp only
  rw [found]
  dsimp only
  by_cases agree : existing.columns.economics = record.economics
  · rw [if_neg (not_not.mpr (differences_eq_nil.mpr agree))]
    exact reobserve_leaves now accepted found agree
  · rw [if_pos (fun none_ => agree (differences_eq_nil.mp none_)), FillColumns.observed,
      if_pos agree]
    exact ⟨_, ledger, rfl, Leaves.same found⟩

theorem record_conflict (id : Nat) (accepted : record.accepted = true)
    (found : ledger.find? record.canonicalIdentity = some existing)
    (contradicts : existing.columns.economics ≠ record.economics) :
    recordFillActivity now id record ledger = .ok (.conflict existing.columns.id
        (existing.columns.economics.differences record.economics), ledger) := by
  have checks : (record.columns id now).checks = true := accepted
  have conflicts : insertFill now id record ledger = .ok (none, ledger) := by
    rw [insertFill, dif_pos checks, found]
  unfold recordFillActivity
  rw [conflicts, ok_bind]
  dsimp only
  rw [found]
  dsimp only
  rw [if_pos (fun none_ => contradicts (differences_eq_nil.mp none_))]
  rfl

theorem updateFill_leaves {α : Type} (guard : FillColumns → Bool)
    (change : FillColumns → FillColumns)
    (keeps : ∀ columns, (change columns).tradeIdentity = columns.tradeIdentity)
    (found : ledger.find? identity = some existing)
    (next : Option FillRow × Ledger → Except Failure (α × Ledger))
    (reports : ∀ result, ∃ outcome, next result = .ok (outcome, result.2)) :
    Leaves ledger identity
      (if guard existing.columns ∧ (change existing.columns).checks then change existing.columns
        else existing.columns)
      ((((updateFill ledger identity guard change keeps) >>= next).toOption.map
        Prod.snd).getD ledger) := by
  by_cases matched : guard existing.columns = true
  · by_cases checks : (change existing.columns).checks = true
    · obtain ⟨updated, ran, columns, same⟩ := updateFill_matched found matched checks
      obtain ⟨outcome, reported⟩ := reports (some updated, ledger.put updated)
      rw [ran, ok_bind, reported, if_pos ⟨matched, checks⟩, ← columns]
      exact Leaves.put same
    · rw [updateFill_refused found matched (by simpa using checks), if_neg (fun both => checks both.2)]
      exact Leaves.same found
  · obtain ⟨outcome, reported⟩ := reports (none, ledger)
    rw [updateFill_unmatched found (by simpa using matched), ok_bind, reported,
      if_neg (fun both => matched both.1)]
    exact Leaves.same found

theorem attach_held (intent : AttachIntent) (found : ledger.find? identity = some existing) :
    Leaves ledger identity (existing.columns.attached now intent)
      (step ledger (.attach now identity intent)) := by
  change Leaves ledger identity _ (((attachFillToIntent now identity intent
    ledger).toOption.map Prod.snd).getD ledger)
  unfold attachFillToIntent FillColumns.attached
  rw [found]
  dsimp only
  cases held : existing.columns.executionIntentId.filter fun attached => attached ≠ [] with
  | some attached =>
    have known : ¬ existing.columns.executionIntentId = none := by
      intro unknown
      rw [unknown] at held
      cases held
    dsimp only
    rw [if_neg (fun all => known all.1)]
    split
    · exact Leaves.same found
    · exact Leaves.same found
  | none =>
    dsimp only
    by_cases scope : existing.columns.environment ≠ intent.environment ∨
      existing.columns.accountIndex ≠ intent.accountIndex ∨
      existing.columns.marketIndex ≠ intent.marketIndex
    · rw [if_pos scope, if_neg (by
        rintro ⟨-, environment, account, market, -⟩
        simp [environment, account, market] at scope)]
      exact Leaves.same found
    rw [if_neg scope]
    by_cases order : existing.columns.providerOrderId.getD "null" = intent.providerOrderId
    swap
    · rw [if_pos order, if_neg (fun all => order all.2.2.2.2.1)]
      exact Leaves.same found
    rw [if_neg (not_not.mpr order)]
    simp only [not_or, not_not] at scope
    have leaves (next : _ → Except _ (AttachOutcome × _)) := updateFill_leaves
      (fun columns => columns.executionIntentId.isNone)
      (fun columns =>
        { columns with
          executionIntentId := some intent.intentId
          clientOrderId := columns.clientOrderId.or intent.clientOrderIndex
          updatedAt := now })
      (fun _ => rfl) found next
    simp only [scope, order, true_and, Option.isNone_iff_eq_none] at leaves ⊢
    refine leaves _ ?_
    rintro ⟨updated, ledger'⟩
    cases updated with
    | none => exact ⟨_, rfl⟩
    | some row => exact ⟨_, rfl⟩

theorem enrich_held (integrator exchange : Option JsString)
    (found : ledger.find? identity = some existing) :
    Leaves ledger identity (existing.columns.enriched now integrator exchange)
      (step ledger (.enrich now identity integrator exchange)) := by
  change Leaves ledger identity _ (((enrichFillChargedFees now identity integrator exchange
    ledger).toOption.map Prod.snd).getD ledger)
  unfold enrichFillChargedFees FillColumns.enriched
  by_cases nothing : integrator = none ∧ exchange = none
  · rw [if_pos nothing, nothing.1, nothing.2, if_neg (by simp [isNews])]
    exact Leaves.same found
  · rw [if_neg nothing]
    have leaves := updateFill_leaves
      (fun columns => isNews columns.integratorFeeChargedRaw integrator ||
        isNews columns.exchangeFeeChargedRaw exchange)
      (fun columns =>
        { columns with
          integratorFeeChargedRaw := columns.integratorFeeChargedRaw.or integrator
          exchangeFeeChargedRaw := columns.exchangeFeeChargedRaw.or exchange
          revision := columns.revision + 1
          updatedAt := now })
      (fun _ => rfl) found (fun result => .ok (result.1.isSome, result.2))
      (fun result => ⟨_, rfl⟩)
    simp only [Bool.and_eq_true]
    exact leaves

end Writes

theorem columnsOf_step (ledger : Ledger) (event : Event) (identity : JsString) :
    columnsOf (step ledger event) identity = rowStep identity (columnsOf ledger identity) event := by
  cases event with
  | observe now id record =>
    change columnsOf (((recordFillActivity now id record ledger).toOption.map
      Prod.snd).getD ledger) identity = _
    rw [rowStep]
    by_cases accepted : record.accepted = true
    swap
    · rw [record_rejected now id (by simpa using accepted), if_neg (fun both => accepted both.2)]
      rfl
    cases found : ledger.find? record.canonicalIdentity with
    | none =>
      obtain ⟨row, ran, columns⟩ := record_new now id accepted found
      have same : row.canonicalIdentity = record.canonicalIdentity :=
        congrArg FillColumns.canonicalIdentity columns
      rw [ran]
      refine (columnsOf_put ledger row identity).trans ?_
      rw [same]
      by_cases about : record.canonicalIdentity = identity
      · rw [if_pos about, if_pos ⟨about, accepted⟩, ← about, columnsOf, found, columns]
        rfl
      · rw [if_neg about, if_neg (fun both => about both.1)]
    | some existing =>
      obtain ⟨outcome, ledger', ran, leaves⟩ := record_held now id accepted found
      rw [ran]
      refine (leaves identity).trans ?_
      by_cases about : record.canonicalIdentity = identity
      · rw [if_pos about, if_pos ⟨about, accepted⟩, ← about, columnsOf, found]
        rfl
      · rw [if_neg about, if_neg (fun both => about both.1)]
  | attach now attached intent =>
    rw [rowStep]
    cases found : ledger.find? attached with
    | none =>
      have stays : step ledger (.attach now attached intent) = ledger := by
        change (((attachFillToIntent now attached intent ledger).toOption.map
          Prod.snd).getD ledger) = ledger
        rw [attachFillToIntent, found]
        rfl
      rw [stays]
      by_cases about : attached = identity
      · rw [if_pos about, ← about, columnsOf, found]
        rfl
      · rw [if_neg about]
    | some existing =>
      rw [attach_held now intent found identity]
      by_cases about : attached = identity
      · rw [if_pos about, if_pos about, ← about, columnsOf, found]
        rfl
      · rw [if_neg about, if_neg about]
  | enrich now enriched integrator exchange =>
    rw [rowStep]
    cases found : ledger.find? enriched with
    | none =>
      have stays : step ledger (.enrich now enriched integrator exchange) = ledger := by
        change (((enrichFillChargedFees now enriched integrator exchange ledger).toOption.map
          Prod.snd).getD ledger) = ledger
        unfold enrichFillChargedFees enrichFees updateFill
        rw [found]
        split
        · rfl
        · rfl
      rw [stays]
      by_cases about : enriched = identity
      · rw [if_pos about, ← about, columnsOf, found]
        rfl
      · rw [if_neg about]
    | some existing =>
      rw [enrich_held now integrator exchange found identity]
      by_cases about : enriched = identity
      · rw [if_pos about, if_pos about, ← about, columnsOf, found]
        rfl
      · rw [if_neg about, if_neg about]

/-! ## The laws of one write -/

/-- The facts of a row that a merge or an enrichment teaches. -/
def FillColumns.taught (columns : FillColumns) :
    Option AccountHalf × Option JsString × Option JsString :=
  (columns.account, columns.integratorFeeChargedRaw, columns.exchangeFeeChargedRaw)

/-- The columns that only the insert writes: the others are blank. -/
def FillColumns.inserted (columns : FillColumns) : FillColumns :=
  { columns with
    id := 0
    clientOrderId := none
    executionIntentId := none
    account := none
    integratorFeeChargedRaw := none
    exchangeFeeChargedRaw := none
    initialMarginFractionBefore := none
    revision := 0
    updatedAt := 0 }

/-- What one write may do to a row. -/
structure Learns (columns columns' : FillColumns) : Prop where
  inserted : columns'.inserted = columns.inserted
  tradeIdentity : columns'.tradeIdentity = columns.tradeIdentity
  economics : columns'.economics = columns.economics
  account : columns'.account = columns.account ∨ columns.account = none ∧ columns'.account.isSome
  fraction : columns'.initialMarginFractionBefore = columns.initialMarginFractionBefore ∨
    columns.initialMarginFractionBefore = none ∧ columns'.initialMarginFractionBefore.isSome
  integrator : columns'.integratorFeeChargedRaw = columns.integratorFeeChargedRaw ∨
    columns.integratorFeeChargedRaw = none ∧ columns'.integratorFeeChargedRaw.isSome
  exchange : columns'.exchangeFeeChargedRaw = columns.exchangeFeeChargedRaw ∨
    columns.exchangeFeeChargedRaw = none ∧ columns'.exchangeFeeChargedRaw.isSome
  revision : columns'.revision =
    if columns'.taught = columns.taught then columns.revision else columns.revision + 1

theorem Learns.refl (columns : FillColumns) : Learns columns columns where
  inserted := rfl
  tradeIdentity := rfl
  economics := rfl
  account := .inl rfl
  fraction := .inl rfl
  integrator := .inl rfl
  exchange := .inl rfl
  revision := (if_pos rfl).symm

theorem or_cases {α : Type} (known other : Option α) :
    known.or other = known ∨ known = none ∧ (known.or other).isSome := by
  cases known with
  | some value => exact .inl rfl
  | none =>
    cases other with
    | none => exact .inl rfl
    | some value => exact .inr ⟨rfl, rfl⟩

theorem learns_observed (columns : FillColumns) (now : Instant) (record : FillRecord) :
    Learns columns (columns.observed now record) := by
  unfold FillColumns.observed
  by_cases agree : columns.economics = record.economics
  swap
  · rw [if_pos agree]
    exact .refl columns
  rw [if_neg (not_not.mpr agree)]
  by_cases merges : columns.account = none ∧ record.half.isSome
  · rw [if_pos merges]
    refine ⟨rfl, rfl, rfl, .inr merges, or_cases _ _, .inl rfl, .inl rfl, ?_⟩
    rw [if_neg]
    intro same
    have unknown : record.half = none := (congrArg Prod.fst same).trans merges.1
    simp [unknown] at merges
  rw [if_neg merges]
  by_cases fills : columns.initialMarginFractionBefore = none ∧ record.fraction.isSome
  · rw [if_pos fills]
    exact ⟨rfl, rfl, rfl, .inl rfl, .inr fills, .inl rfl, .inl rfl, (if_pos rfl).symm⟩
  · rw [if_neg fills]
    exact .refl columns

theorem learns_attached (columns : FillColumns) (now : Instant) (intent : AttachIntent) :
    Learns columns (columns.attached now intent) := by
  unfold FillColumns.attached
  dsimp only
  split
  · exact ⟨rfl, rfl, rfl, .inl rfl, .inl rfl, .inl rfl, .inl rfl, (if_pos rfl).symm⟩
  · exact .refl columns

theorem learns_enriched (columns : FillColumns) (now : Instant)
    (integrator exchange : Option JsString) :
    Learns columns (columns.enriched now integrator exchange) := by
  unfold FillColumns.enriched
  dsimp only
  split
  · rename_i news
    refine ⟨rfl, rfl, rfl, .inl rfl, .inl rfl, or_cases _ _, or_cases _ _, ?_⟩
    rw [if_neg]
    intro same
    simp only [FillColumns.taught, Prod.mk.injEq, true_and] at same
    rw [Bool.and_eq_true, Bool.or_eq_true] at news
    rcases news.1 with isNew | isNew
    · simp only [isNews, Bool.and_eq_true, Option.isNone_iff_eq_none] at isNew
      rw [isNew.1, Option.none_or] at same
      simp [same.1] at isNew
    · simp only [isNews, Bool.and_eq_true, Option.isNone_iff_eq_none] at isNew
      rw [isNew.1, Option.none_or] at same
      simp [same.2] at isNew
  · exact .refl columns

theorem rowStep_learns (identity : JsString) (columns : FillColumns) (event : Event) :
    ∃ columns', rowStep identity (some columns) event = some columns' ∧
      Learns columns columns' := by
  cases event with
  | observe now id record =>
    rw [rowStep]
    split
    · exact ⟨_, rfl, learns_observed columns now record⟩
    · exact ⟨columns, rfl, .refl columns⟩
  | attach now attached intent =>
    rw [rowStep]
    split
    · exact ⟨_, rfl, learns_attached columns now intent⟩
    · exact ⟨columns, rfl, .refl columns⟩
  | enrich now enriched integrator exchange =>
    rw [rowStep]
    split
    · exact ⟨_, rfl, learns_enriched columns now integrator exchange⟩
    · exact ⟨columns, rfl, .refl columns⟩

end Vex.Lighter.Fills
