import Vex.Lighter.CapitalHealing

/-!
# Admission never over-commits

`admit_ok` is the inversion of an admission that commits: its input passed the
checks, the account was healed, and either nothing was written after that or the
row of the intent was, live and with its new requirement. From it:

* `admitted_fits` — what an admission that took capital leaves on its account is
  within the budget, its own row counted once;
* `step_keeps` — no transaction removes a row or moves it to another account,
  environment or kind;
* `admission_never_overcommits` — **the crown**: both, for every ledger that
  transactions can lead to.

A refused admission is not without effect. Its healing is committed, and healing
stamps settlements on rows that it does not retire: `refused_admit_can_stamp`.
-/

namespace Vex.Lighter.Capital

open Vex.Library

/-! ## Inversion -/

section Inversion

variable {context : AdmitContext} {input : AdmitInput} {ledger ledger' : Ledger}
  {result : AdmitResult}

theorem upserted_spec {environment : Environment} {accountIndex : Nat} {intentId : IntentId}
    {kind : Kind} {required : Nat} {row : Commitment}
    (written : upserted context ledger environment accountIndex intentId kind required = some row) :
    row.environment = environment ∧ row.accountIndex = accountIndex ∧ row.intentId = intentId ∧
      row.kind = kind ∧ row.requiredUnits = required ∧ row.state = .live ∧
      row.settledAt = none ∧ ∀ old, ledger.find? intentId = some old → SameCommitment old row := by
  unfold upserted at written
  cases found : ledger.find? intentId with
  | none =>
    rw [found] at written
    cases written
    exact ⟨rfl, rfl, rfl, rfl, rfl, rfl, rfl, by simp⟩
  | some old =>
    rw [found] at written
    simp only [Option.ite_none_right_eq_some, Option.some.injEq] at written
    obtain ⟨⟨environment, account, kind⟩, rfl⟩ := written
    refine ⟨environment, account, (Table.find?_eq_some.mp found).2, kind, rfl, rfl, rfl, ?_⟩
    rintro _ ⟨rfl⟩
    exact old.same_readmit required

/-- An admission that commits has passed its checks and healed its account; it
then refuses and writes nothing, or writes the row of its intent. -/
theorem admit_ok (committed : admitCommitment context input ledger = .ok (result, ledger')) :
    ∃ accountIndex required budget provider intentId healed healedLedger,
      assertAccountIndex input.accountIndex = .ok accountIndex ∧
      assertUnits input.requiredUnits "requiredUnits" = .ok required ∧
      assertUnits input.budgetUnits "budgetUnits" = .ok budget ∧
      assertUnits input.providerCommittedUnits "providerCommittedUnits" = .ok provider ∧
      assertIntentId input.intentId = .ok intentId ∧
      healCommitments context.reads input.environment accountIndex context.now ledger =
        .ok (healed, healedLedger) ∧
      let live := healedLedger.total
        (counted input.environment accountIndex intentId input.excludeIntentId)
        Commitment.requiredUnits
      let short := required > 0 ∧ (budget - provider - live : Int) < required
      (short ∧ (∃ remaining, result = .refused remaining live) ∧ ledger' = healedLedger) ∨
      (¬ short ∧ ∃ row,
        upserted context healedLedger input.environment accountIndex intentId input.kind required =
          some row ∧
        result = .admitted row.commitmentId live ∧ ledger' = healedLedger.put row) := by
  unfold admitCommitment at committed
  obtain ⟨accountIndex, account, committed⟩ := bind_eq_ok.mp committed
  obtain ⟨required, requires, committed⟩ := bind_eq_ok.mp committed
  obtain ⟨budget, budgets, committed⟩ := bind_eq_ok.mp committed
  obtain ⟨provider, provides, committed⟩ := bind_eq_ok.mp committed
  obtain ⟨intentId, intent, committed⟩ := bind_eq_ok.mp committed
  obtain ⟨⟨healed, healedLedger⟩, heals, committed⟩ := bind_eq_ok.mp committed
  refine ⟨accountIndex, required, budget, provider, intentId, healed, healedLedger,
    account, requires, budgets, provides, intent, heals, ?_⟩
  dsimp only at committed ⊢
  split at committed
  · rename_i short
    cases committed
    exact .inl ⟨short, ⟨_, rfl⟩, rfl⟩
  · rename_i fits
    cases written : upserted context healedLedger input.environment accountIndex intentId
      input.kind required with
    | none =>
      rw [written] at committed
      cases committed
    | some row =>
      rw [written] at committed
      cases committed
      exact .inr ⟨fits, row, rfl, rfl, rfl⟩

end Inversion

/-! ## The budget -/

variable {value : JsString} {intentId : IntentId}

theorem assertIntentId_val (checked : assertIntentId value = .ok intentId) :
    intentId.val = value.trim := by
  unfold assertIntentId at checked
  split at checked
  · cases checked
    rfl
  · cases checked

theorem counted_own (environment : Environment) (accountIndex : Nat) {exclude : Option JsString}
    (checked : assertIntentId value = .ok intentId) (own : exclude ∈ [none, some value])
    (row : Commitment) : counted environment accountIndex intentId exclude row =
      (row.liveOn environment accountIndex && decide (row.intentId ≠ intentId)) := by
  have same_of_raw : row.intentId.val = value → row.intentId = intentId := by
    intro equal
    refine Subtype.ext ?_
    rw [assertIntentId_val checked, ← equal, row.intentId.property.1]
  rcases List.mem_pair.mp own with rfl | rfl
  · simp [counted]
  · by_cases same : row.intentId = intentId
    · simp [counted, same]
    · have raw : row.intentId.val ≠ value := fun equal => same (same_of_raw equal)
      simp [counted, same, raw]

variable {context : AdmitContext} {input : AdmitInput} {ledger ledger' : Ledger}

/-- An admission that takes capital leaves its account within the budget, with
its own row counted once at its new requirement. -/
theorem admitted_fits {commitmentId : JsString} {live accountIndex required budget provider : Nat}
    (committed : admitCommitment context input ledger = .ok (.admitted commitmentId live, ledger'))
    (own : input.excludeIntentId ∈ [none, some input.intentId])
    (account : assertAccountIndex input.accountIndex = .ok accountIndex)
    (requires : assertUnits input.requiredUnits "requiredUnits" = .ok required)
    (budgets : assertUnits input.budgetUnits "budgetUnits" = .ok budget)
    (provides : assertUnits input.providerCommittedUnits "providerCommittedUnits" = .ok provider)
    (intent : assertIntentId input.intentId = .ok intentId) (takes : 0 < required) :
    provider + ledger'.total (·.liveOn input.environment accountIndex)
      Commitment.requiredUnits ≤ budget ∧
    ∃ row, ledger'.find? intentId = some row ∧ row.liveOn input.environment accountIndex ∧
      row.kind = input.kind ∧ row.requiredUnits = required := by
  obtain ⟨_, _, _, _, _, healed, healedLedger, account', requires', budgets', provides', intent',
    -, outcome⟩ := admit_ok committed
  cases account.symm.trans account'
  cases requires.symm.trans requires'
  cases budgets.symm.trans budgets'
  cases provides.symm.trans provides'
  cases intent.symm.trans intent'
  rcases outcome with ⟨-, ⟨_, refused⟩, -⟩ | ⟨fits, row, written, -, rfl⟩
  · cases refused
  obtain ⟨environment, account, same, kind, units, isLive, -, -⟩ := upserted_spec written
  have rowLive : row.liveOn input.environment accountIndex :=
    Commitment.liveOn_eq_true.mpr ⟨environment, account, isLive⟩
  constructor
  · have others := healedLedger.total_congr
      (fun other _ => counted_own input.environment accountIndex intent own other)
      Commitment.requiredUnits
    rw [Table.total_put, if_pos rowLive, units, same, ← others]
    omega
  · exact ⟨row, same ▸ Table.find?_put_self healedLedger row, rowLive, kind, units⟩

/-! ## Rows are kept -/

/-- Every row of a ledger has its commitment in the other. -/
def Keeps (ledger ledger' : Ledger) : Prop :=
  ∀ id row, ledger.find? id = some row → ∃ row', ledger'.find? id = some row' ∧
    SameCommitment row row'

theorem Keeps.refl (ledger : Ledger) : Keeps ledger ledger :=
  fun _ row found => ⟨row, found, .refl row⟩

theorem Keeps.trans {ledger'' : Ledger} (keeps : Keeps ledger ledger')
    (keeps' : Keeps ledger' ledger'') : Keeps ledger ledger'' := by
  intro id row found
  obtain ⟨row', found', same⟩ := keeps id row found
  obtain ⟨row'', found'', same'⟩ := keeps' id row' found'
  exact ⟨row'', found'', same.trans same'⟩

theorem Keeps.of_find? {change : Commitment → Commitment}
    (found : ∀ id, ledger'.find? id = (ledger.find? id).map change)
    (same : ∀ row ∈ ledger.rows, SameCommitment row (change row)) : Keeps ledger ledger' := by
  intro id row foundRow
  refine ⟨change row, by rw [found, foundRow, Option.map_some], same row ?_⟩
  exact (Table.find?_eq_some.mp foundRow).1

variable {now : Instant}

theorem keeps_stampWhere {stamps : Commitment → Bool}
    (stamped : stampWhere ledger now stamps = .ok ledger') : Keeps ledger ledger' := by
  refine Keeps.of_find? (stampWhere_ok stamped).2 fun row _ => ?_
  split
  · exact row.same_stamp now
  · exact .refl row

theorem keeps_retireWhere (ledger : Ledger) (now : Instant)
    (reason : Commitment → Option JsString) : Keeps ledger (retireWhere ledger now reason) := by
  refine Keeps.of_find? (find?_retireWhere ledger now reason) fun row _ => ?_
  cases reason row with
  | none => exact .refl row
  | some reason => exact row.same_retire now reason

theorem keeps_heal {reads : HealReads} {environment : Environment} {accountIndex : Nat}
    {healed : List (IntentId × JsString)}
    (ran : healCommitments reads environment accountIndex now ledger = .ok (healed, ledger')) :
    Keeps ledger ledger' :=
  Keeps.of_find? (healCommitments_ok ran).1 fun row member =>
    ((healCommitments_ok ran).2 row member).same

theorem keeps_admit {result : AdmitResult}
    (committed : admitCommitment context input ledger = .ok (result, ledger')) :
    Keeps ledger ledger' := by
  obtain ⟨_, _, _, _, _, _, _, -, -, -, -, -, heals, outcome⟩ := admit_ok committed
  refine (keeps_heal heals).trans ?_
  rcases outcome with ⟨-, -, rfl⟩ | ⟨-, row, written, -, rfl⟩
  · exact .refl _
  obtain ⟨-, -, same, -, -, -, -, old⟩ := upserted_spec written
  intro id other found
  by_cases own : id = row.intentId
  · rw [own] at found ⊢
    exact ⟨row, Table.find?_put_self _ row, old other (same ▸ found)⟩
  · exact ⟨other, (Table.find?_put_of_ne own).trans found, .refl other⟩

theorem apply_cases {operation : Operation} (applied : operation.apply ledger = some ledger') :
    match operation with
    | .admission context input => ∃ result, admitCommitment context input ledger = .ok (result, ledger')
    | .markSettled now intentId => markSettled now intentId ledger = .ok ledger'
    | .retire now input => retire now input ledger = .ok ledger'
    | .heal now reads environment accountIndex => ∃ healed,
        healCommitments reads environment accountIndex now ledger = .ok (healed, ledger') := by
  cases operation with
  | admission context input =>
    obtain ⟨⟨result, _⟩, committed, rfl⟩ := Option.map_eq_some_iff.mp applied
    exact ⟨result, toOption_eq_some.mp committed⟩
  | markSettled now intentId => exact toOption_eq_some.mp applied
  | retire now input => exact toOption_eq_some.mp applied
  | heal now reads environment accountIndex =>
    obtain ⟨⟨healed, _⟩, ran, rfl⟩ := Option.map_eq_some_iff.mp applied
    exact ⟨healed, toOption_eq_some.mp ran⟩

theorem markSettled_ok (marked : markSettled now value ledger = .ok ledger') :
    ∃ intentId, assertIntentId value = .ok intentId ∧ stampWhere ledger now (fun row =>
      row.intentId = intentId && row.state = .live && row.settledAt = none) = .ok ledger' :=
  bind_eq_ok.mp marked

theorem retire_ok {input : RetireInput} (retired : retire now input ledger = .ok ledger') :
    ∃ intentId, assertIntentId input.intentId = .ok intentId ∧
      ledger' = retireWhere ledger now fun row =>
        if row.intentId = intentId ∧ row.state = .live ∧
            row.settledAt.all (fun settled => settled ≤ now - observationLagMs) then
          some input.reason.trim
        else none := by
  unfold retire at retired
  dsimp only at retired
  split at retired
  · cases retired
  · obtain ⟨intentId, checked, equal⟩ := bind_eq_ok.mp retired
    cases equal
    exact ⟨intentId, checked, rfl⟩

theorem step_keeps (ledger : Ledger) (operation : Operation) :
    Keeps ledger (step ledger operation) := by
  refine orStay_preserves (motive := Keeps ledger) ?_ ledger operation (.refl ledger)
  intro before operation after applied kept
  refine kept.trans ?_
  have ran := apply_cases applied
  cases operation with
  | admission context input =>
    obtain ⟨_, committed⟩ := ran
    exact keeps_admit committed
  | markSettled now intentId =>
    obtain ⟨_, -, stamped⟩ := markSettled_ok ran
    exact keeps_stampWhere stamped
  | retire now input =>
    obtain ⟨_, -, rfl⟩ := retire_ok ran
    exact keeps_retireWhere _ now _
  | heal now reads environment accountIndex =>
    obtain ⟨_, healed⟩ := ran
    exact keeps_heal healed

/-! ## Refusal -/

theorem refused_heals_only {remaining live : Nat}
    (committed : admitCommitment context input ledger = .ok (.refused remaining live, ledger')) :
    ∃ accountIndex healed, assertAccountIndex input.accountIndex = .ok accountIndex ∧
      healCommitments context.reads input.environment accountIndex context.now ledger =
        .ok (healed, ledger') := by
  obtain ⟨accountIndex, _, _, _, _, healed, _, account, -, -, -, -, heals, outcome⟩ :=
    admit_ok committed
  rcases outcome with ⟨-, -, rfl⟩ | ⟨-, _, -, admitted, -⟩
  · exact ⟨accountIndex, healed, account, heals⟩
  · cases admitted

theorem refused_leaves {remaining live : Nat}
    (committed : admitCommitment context input ledger = .ok (.refused remaining live, ledger'))
    {id : IntentId} {row row' : Commitment} (found : ledger.find? id = some row)
    (found' : ledger'.find? id = some row') (unretired : row'.state = row.state) :
    row' = row ∨ row.settledAt = none ∧ row.settledIn context.reads.stamping ∧
      row' = row.stamp context.now := by
  obtain ⟨_, _, -, heals⟩ := refused_heals_only committed
  obtain ⟨healedRows, healed⟩ := healCommitments_ok heals
  rw [healedRows, found, Option.map_some, Option.some.injEq] at found'
  have evidence := healed row (Table.find?_eq_some.mp found).1
  rw [found'] at evidence
  cases evidence with
  | kept => exact .inl rfl
  | stamped _ unstamped settled _ => exact .inr ⟨unstamped, settled, rfl⟩
  | retired reason isLive _ => simp [isLive] at unretired
  | stampedAndRetired reason isLive _ _ _ _ => simp [isLive] at unretired

/-! ## Every reachable ledger -/

/-- **Admission never over-commits.** In every ledger that transactions can lead
to, in any order and with any arguments: an admission that takes capital, with
its own intent or none left out of its sum, ends with the provider's commitments
and the live rows of its account within the budget, its own row among them once
at the new requirement; a refused admission changes nothing but what its healing
did, and a row that healing did not retire is as it was except that a settlement
may have been stamped on it; an intent has one row; and no transaction removes a
row or changes its environment, account or kind. -/
theorem admission_never_overcommits (operations : List Operation) :
    let ledger := run step Table.empty operations
    (∀ context input ledger' commitmentId live accountIndex required budget provider intentId,
      admitCommitment context input ledger = .ok (.admitted commitmentId live, ledger') →
      input.excludeIntentId ∈ [none, some input.intentId] →
      assertAccountIndex input.accountIndex = .ok accountIndex →
      assertUnits input.requiredUnits "requiredUnits" = .ok required →
      assertUnits input.budgetUnits "budgetUnits" = .ok budget →
      assertUnits input.providerCommittedUnits "providerCommittedUnits" = .ok provider →
      assertIntentId input.intentId = .ok intentId → 0 < required →
      provider + ledger'.total (·.liveOn input.environment accountIndex)
        Commitment.requiredUnits ≤ budget ∧
      ∃ row, ledger'.find? intentId = some row ∧ row.liveOn input.environment accountIndex ∧
        row.kind = input.kind ∧ row.requiredUnits = required) ∧
    (∀ context input ledger' remaining live,
      admitCommitment context input ledger = .ok (.refused remaining live, ledger') →
      ∃ accountIndex healed, assertAccountIndex input.accountIndex = .ok accountIndex ∧
        healCommitments context.reads input.environment accountIndex context.now ledger =
          .ok (healed, ledger') ∧
        ∀ id row row', ledger.find? id = some row → ledger'.find? id = some row' →
          row'.state = row.state →
          row' = row ∨ row.settledAt = none ∧ row.settledIn context.reads.stamping ∧
            row' = row.stamp context.now) ∧
    (∀ row ∈ ledger.rows, ∀ other ∈ ledger.rows, row.intentId = other.intentId → row = other) ∧
    (∀ operation id row, ledger.find? id = some row →
      ∃ row', (step ledger operation).find? id = some row' ∧
        row'.environment = row.environment ∧ row'.accountIndex = row.accountIndex ∧
        row'.kind = row.kind) := by
  intro ledger
  refine ⟨?_, ?_, ?_, ?_⟩
  · intro context input ledger' commitmentId live accountIndex required budget provider intentId
      committed own account requires budgets provides intent takes
    exact admitted_fits committed own account requires budgets provides intent takes
  · intro context input ledger' remaining live committed
    obtain ⟨accountIndex, healed, account, heals⟩ := refused_heals_only committed
    exact ⟨accountIndex, healed, account, heals,
      fun id row row' found found' => refused_leaves committed found found'⟩
  · intro row member other memberOther same
    exact Table.eq_of_key member memberOther same
  · intro operation id row found
    obtain ⟨row', found', same⟩ := step_keeps ledger operation id row found
    exact ⟨row', found', same.environment, same.accountIndex, same.kind⟩

/-! ## A refusal that stamps

An order of 5 units has filled and its row carries no stamp. The admission of
another one is refused, and the row of the first comes out stamped. -/

def noIntents : IntentTables := ⟨fun _ => none, fun _ => none, fun _ => none⟩

/-- The order `i` has filled. -/
def filledIntents : IntentTables :=
  { noIntents with
    orders := fun id =>
      if id = "i" then some { OrderIntents.intentRow with executionState := .filled } else none }

/-- The admission of a create order of account 7 under a budget of 10. -/
def admissionOf (intentId requiredUnits : JsString) : AdmitInput :=
  ⟨.core, 7, intentId, .create, requiredUnits, "10", "0", none⟩

/-- The order `i` is admitted at 5 units. -/
def firstAdmitted : List Operation :=
  [.admission ⟨0, "u", noIntents, noIntents⟩ (admissionOf "i" "5")]

/-- An admission that reads the order `i` as filled. -/
def laterContext : AdmitContext := ⟨1, "v", filledIntents, filledIntents⟩

/-- The identifier of the order `i`. -/
def orderId : IntentId := ⟨"i", by decide⟩

/-- A second order of 5 units fits beside the first, and the two fill the budget. -/
theorem second_order_fits :
    ∃ ledger', admitCommitment laterContext (admissionOf "j" "5") (run step Table.empty firstAdmitted) =
        .ok (.admitted "v" 5, ledger') ∧
      0 + ledger'.total (·.liveOn .core 7) Commitment.requiredUnits ≤ 10 := by
  have admitted : (admitCommitment laterContext (admissionOf "j" "5")
      (run step Table.empty firstAdmitted)).toOption.map Prod.fst = some (.admitted "v" 5) := by
    decide
  obtain ⟨⟨result, ledger'⟩, committed, rfl⟩ := Option.map_eq_some_iff.mp admitted
  have committed := toOption_eq_some.mp committed
  obtain ⟨fits, -⟩ := (admission_never_overcommits firstAdmitted).1 laterContext
    (admissionOf "j" "5") ledger' "v" 5 7 5 10 0 ⟨"j", by decide⟩ committed (by decide) rfl rfl rfl
    rfl rfl (by decide)
  exact ⟨ledger', committed, fits⟩

/-- A refused admission need not leave the rows that stay live exactly as they were. -/
theorem refused_admit_can_stamp :
    ¬ ∀ (operations : List Operation) (context : AdmitContext) (input : AdmitInput)
      (ledger' : Ledger) (remaining live : Nat),
      admitCommitment context input (run step Table.empty operations) =
        .ok (.refused remaining live, ledger') →
      ∀ id row row', (run step Table.empty operations).find? id = some row →
        ledger'.find? id = some row' → row'.state = row.state → row' = row := by
  intro unchanged
  have refused : (admitCommitment laterContext (admissionOf "j" "10")
      (run step Table.empty firstAdmitted)).toOption.map Prod.fst = some (.refused 5 5) := by
    decide
  obtain ⟨⟨result, ledger'⟩, committed, rfl⟩ := Option.map_eq_some_iff.mp refused
  have committed := toOption_eq_some.mp committed
  have stamped : (admitCommitment laterContext (admissionOf "j" "10")
      (run step Table.empty firstAdmitted)).toOption.map
        (fun outcome => (outcome.2.find? orderId).map fun row => (row.state, row.settledAt)) =
      some (some (.live, some 1)) := by
    decide
  have unstamped : ((run step Table.empty firstAdmitted).find? orderId).map
      (fun row => (row.state, row.settledAt)) = some (.live, none) := by
    decide
  rw [committed] at stamped
  obtain ⟨row', found', states'⟩ := Option.map_eq_some_iff.mp (Option.some.inj stamped)
  obtain ⟨row, found, states⟩ := Option.map_eq_some_iff.mp unstamped
  rw [Prod.mk.injEq] at states states'
  have same := unchanged firstAdmitted laterContext _ ledger' 5 5 committed orderId row row' found
    found' (states'.1.trans states.1.symm)
  rw [same, states.2] at states'
  cases states'.2

end Vex.Lighter.Capital
