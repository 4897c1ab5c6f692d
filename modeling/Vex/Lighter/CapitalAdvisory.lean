import Vex.Lighter.CapitalAdmission
import Vex.Lighter.CapitalSharePolicy

/-!
# The advisory and the admission

The advisory of a preview and the admission of an order evaluate the same facts, one with
the live rows of the ledger in its budget and one without them. The first part relates the
two evaluations, the second the live rows to the sum the ledger takes after healing, and the
last compares the two decisions.
-/

namespace Vex.Lighter.CapitalSharePolicy

open Vex.Library CapitalShare

/-! ## Budgets with and without live intents -/

@[simp] theorem integerUnits_ofNat (units : Nat) (name : JsString) :
    integerUnits (JsString.ofNat units) name = .ok units := by
  simp [integerUnits, parseNonNegativeInteger, JsString.isCanonicalDecimal_ofNat]

theorem mapM_integerUnits (units : List Nat) (name : Nat → JsString) (start : Nat) :
    ((units.map JsString.ofNat).zipIdx start).mapM
      (fun (value, index) => integerUnits value (name index)) = .ok units := by
  induction units generalizing start with
  | nil => rfl
  | cons unit rest ih =>
    rw [List.map_cons, List.zipIdx_cons, List.mapM_cons, ih]
    simp only [integerUnits_ofNat]
    rfl

/-- A budget with live intents on top of what the provider reports. -/
def withLive (budget : Budget) (live : Nat) : Budget :=
  { budget with
    committedUnits := budget.committedUnits + live
    remainingUnits :=
      if budget.committedUnits + live ≥ budget.budgetUnits then 0
      else budget.budgetUnits - (budget.committedUnits + live)
    vexLiveIntentUnits := live }

variable {budget : Budget}

theorem computeCapitalBudget_live (input : BudgetInput) (live : List Nat)
    (provider : computeCapitalBudget { input with vexLiveIntentUnits := [] } = .ok budget) :
    computeCapitalBudget { input with vexLiveIntentUnits := live.map JsString.ofNat } =
      .ok (withLive budget live.sum) := by
  unfold computeCapitalBudget at provider ⊢
  dsimp only at provider ⊢
  split at provider
  · cases provider
  rename_i percent
  obtain ⟨collateral, hasCollateral, provider⟩ := bind_eq_ok.mp provider
  obtain ⟨cross, hasCross, provider⟩ := bind_eq_ok.mp provider
  obtain ⟨isolated, hasIsolated, provider⟩ := bind_eq_ok.mp provider
  obtain ⟨resting, hasResting, provider⟩ := bind_eq_ok.mp provider
  cases provider
  rw [if_neg percent]
  refine bind_eq_ok.mpr ⟨collateral, hasCollateral, bind_eq_ok.mpr ⟨cross, hasCross,
    bind_eq_ok.mpr ⟨isolated, hasIsolated, bind_eq_ok.mpr ⟨resting, hasResting,
    bind_eq_ok.mpr ⟨live, mapM_integerUnits live (itemName "vexLiveIntentUnits[" · "]") 0, ?_⟩⟩⟩⟩⟩
  simp [withLive]
  rfl

variable {policy : Policy} {percent : Int} {resting : List Nat}

theorem accountBudget_live (live : List Nat)
    (provider : accountBudget policy percent resting [] = .ok budget) :
    accountBudget policy percent resting live = .ok (withLive budget live.sum) := by
  unfold accountBudget at provider ⊢
  obtain ⟨collateral, hasCollateral, provider⟩ := bind_eq_ok.mp provider
  obtain ⟨cross, hasCross, provider⟩ := bind_eq_ok.mp provider
  obtain ⟨isolated, hasIsolated, provider⟩ := bind_eq_ok.mp provider
  refine bind_eq_ok.mpr ⟨collateral, hasCollateral, bind_eq_ok.mpr ⟨cross, hasCross,
    bind_eq_ok.mpr ⟨isolated, hasIsolated, ?_⟩⟩⟩
  rw [mapError_eq_ok] at provider ⊢
  exact computeCapitalBudget_live ⟨percent, collateral, cross, isolated,
    resting.map JsString.ofNat, []⟩ live provider

theorem withLive_zero (provider : accountBudget policy percent resting [] = .ok budget) :
    withLive budget 0 = budget := by
  have again := accountBudget_live [] provider
  rw [provider] at again
  exact (Except.ok.inj again).symm

/-! ## Two evaluations of the same facts -/

section Evaluations

variable {evidence : Evidence} {ledger : Capital.Ledger} {policy : Policy} {order : OrderFacts}

/-- The two evaluations end before their numbers are known, or have the same numbers but for
the live intents. -/
inductive SameNumbers (ledger : Capital.Ledger) (policy : Policy) (order : OrderFacts) :
    Evaluation → Evaluation → Prop where
  | unbudgeted (source : FractionSource) (unbounded : Option JsString) :
      SameNumbers ledger policy order (unbudgeted policy order source unbounded)
        (unbudgeted policy order source unbounded)
  | budgeted (percent : Int) (budget : Budget) (required : RequiredCapital)
      (source : FractionSource) (live : List Nat)
      (share : policy.agentCapitalSharePercent = some percent)
      (counts : ¬ (order.reduceOnly ∨ order.market.marketType = .spot))
      (listed : listLiveCommitments ledger policy.environment policy.accountIndex = .ok live) :
      SameNumbers ledger policy order
        ⟨some (withLive budget live.sum), some required, budget.committedUnits,
          assessOrderCapitalShare
            (shareInput policy order (some (withLive budget live.sum)) (some required) source none)⟩
        ⟨some budget, some required, budget.committedUnits, assessOrderCapitalShare
          (shareInput policy order (some budget) (some required) source none)⟩

theorem evaluate_sameNumbers {evaluation : Evaluation}
    (advised : evaluateOrderCapitalShare evidence ledger policy order true = .ok evaluation) :
    ∃ evaluation', evaluateOrderCapitalShare evidence ledger policy order false = .ok evaluation' ∧
      SameNumbers ledger policy order evaluation evaluation' := by
  unfold evaluateOrderCapitalShare at advised ⊢
  cases share : policy.agentCapitalSharePercent with
  | none =>
    rw [share] at advised
    cases advised
    exact ⟨_, rfl, .unbudgeted _ _⟩
  | some percent =>
    rw [share] at advised
    dsimp only at advised ⊢
    split at advised
    · rename_i early
      cases advised
      rw [if_pos early]
      exact ⟨_, rfl, .unbudgeted _ _⟩
    rename_i counts
    rw [if_neg counts]
    obtain ⟨⟨fraction, source⟩, hasFraction, advised⟩ := bind_eq_ok.mp advised
    rw [hasFraction, ok_bind]
    dsimp only at advised ⊢
    split at advised
    · rename_i reason risk
      cases advised
      exact ⟨_, rfl, .unbudgeted _ _⟩
    rename_i price basis risk
    split at advised
    · rename_i reason unreadable
      cases advised
      exact ⟨_, rfl, .unbudgeted _ _⟩
    rename_i resting hasResting
    split at advised
    · rename_i reason unreadable
      cases advised
      exact ⟨_, rfl, .unbudgeted _ _⟩
    rename_i ticks hasTicks
    obtain ⟨required, hasRequired, advised⟩ := bind_eq_ok.mp advised
    obtain ⟨live, hasLive, advised⟩ := bind_eq_ok.mp advised
    obtain ⟨budget, hasBudget, advised⟩ := bind_eq_ok.mp advised
    obtain ⟨budget', hasBudget', advised⟩ := bind_eq_ok.mp advised
    rw [if_pos rfl] at hasLive
    have total : budget' = withLive budget live.sum := by
      split at hasBudget'
      · rename_i empty
        cases hasBudget'
        rw [empty, List.sum_nil, withLive_zero hasBudget]
      · rw [accountBudget_live live hasBudget] at hasBudget'
        exact (Except.ok.inj hasBudget').symm
    cases advised
    subst total
    refine ⟨_, bind_eq_ok.mpr ⟨required, hasRequired, bind_eq_ok.mpr ⟨[], rfl,
      bind_eq_ok.mpr ⟨budget, hasBudget, rfl⟩⟩⟩, ?_⟩
    exact .budgeted percent budget required source live share counts hasLive

variable {source : FractionSource}

theorem unbudgeted_outcome {unbounded : Option JsString} {assessment : Assessment} :
    (unbudgeted policy order source unbounded).outcome ≠ .assessed assessment := by
  rw [unbudgeted, assessOrderCapitalShare, shareInput]
  cases policy.agentCapitalSharePercent with
  | none => simp
  | some percent =>
    by_cases reduceOnly : order.reduceOnly
    · simp [reduceOnly]
    by_cases spot : order.market.marketType = .spot
    · by_cases sell : order.side = .sell
      · simp [reduceOnly, spot, sell]
      · simp [reduceOnly, spot, sell]
    cases unbounded with
    | none => simp [reduceOnly, spot]
    | some reason => simp [reduceOnly, spot]

theorem assess_budgeted {percent : Int} {budget : Budget} {required : RequiredCapital}
    (share : policy.agentCapitalSharePercent = some percent)
    (counts : ¬ (order.reduceOnly ∨ order.market.marketType = .spot)) :
    ∃ assessment, assessOrderCapitalShare
        (shareInput policy order (some budget) (some required) source none) = .assessed assessment ∧
      (assessment.passes ↔ required.requiredUnits ≤ budget.remainingUnits) := by
  rw [not_or] at counts
  simp only [assessOrderCapitalShare, shareInput, share, if_neg counts.1, if_neg counts.2]
  exact ⟨_, rfl, decide_eq_true_iff⟩

theorem fits_withLive (budget : Budget) (live required : Nat) :
    required ≤ (withLive budget live).remainingUnits ↔
      required = 0 ∨ budget.committedUnits + live + required ≤ budget.budgetUnits := by
  dsimp only [withLive]
  split
  · omega
  · omega

end Evaluations

/-! ## The live rows and the ledger's sum -/

theorem listLiveCommitments_ok {ledger : Capital.Ledger} {environment : Environment}
    {accountIndex : Int} {live : List Nat}
    (listed : listLiveCommitments ledger environment accountIndex = .ok live) :
    Capital.assertAccountIndex accountIndex = .ok accountIndex.toNat ∧
      live.sum = ledger.total (·.liveOn environment accountIndex.toNat)
        Capital.Commitment.requiredUnits := by
  obtain ⟨account, checked, listed⟩ := bind_eq_ok.mp listed
  rw [mapError_eq_ok] at checked
  have index : account = accountIndex.toNat := by
    unfold Capital.assertAccountIndex at checked
    split at checked
    · exact (Except.ok.inj checked).symm
    · cases checked
  subst index
  cases listed
  exact ⟨checked, ((List.mergeSort_perm _ _).map _).sum_eq⟩

/-! ## The decision of the ledger -/

section Ledger

variable {context : Capital.AdmitContext} {ledger healedLedger : Capital.Ledger}
  {policy : Policy} {input : AdmissionInput} {budget : Budget} {required : RequiredCapital}
  {intentId : Capital.IntentId} {healed : List (Capital.IntentId × JsString)}

@[simp] theorem assertUnits_ofNat (units : Nat) (field : String) :
    Capital.assertUnits (JsString.ofNat units) field = .ok units := by
  simp [Capital.assertUnits, JsString.isDecimal_ofNat]

/-- What the ledger sums against an order of this policy. -/
def othersOf (ledger : Capital.Ledger) (policy : Policy) (intentId : Capital.IntentId)
    (input : AdmissionInput) : Nat :=
  ledger.total (Capital.counted policy.environment policy.accountIndex.toNat intentId
    input.excludeIntentId) Capital.Commitment.requiredUnits

theorem othersOf_le : othersOf ledger policy intentId input ≤
    ledger.total (·.liveOn policy.environment policy.accountIndex.toNat)
      Capital.Commitment.requiredUnits := by
  refine Table.total_le ledger (fun row _ counts => ?_) _
  rw [Capital.counted, Bool.and_eq_true, Bool.and_eq_true] at counts
  exact counts.1.1

theorem othersOf_eq (fresh : ∀ row ∈ ledger.rows,
      row.liveOn policy.environment policy.accountIndex.toNat →
      row.intentId ≠ intentId ∧ row.intentId.val ∉ input.excludeIntentId) :
    othersOf ledger policy intentId input =
      ledger.total (·.liveOn policy.environment policy.accountIndex.toNat)
        Capital.Commitment.requiredUnits := by
  refine Table.total_congr ledger (fun row member => ?_) _
  rw [Capital.counted]
  cases live : row.liveOn policy.environment policy.accountIndex.toNat with
  | false => rfl
  | true =>
    obtain ⟨other, unexcluded⟩ := fresh row member live
    rw [Bool.true_and, Bool.and_eq_true, decide_eq_true_eq, Option.all_eq_true]
    refine ⟨other, fun excluded isExcluded => ?_⟩
    rw [decide_eq_true_eq]
    rintro rfl
    exact unexcluded isExcluded

theorem admitCommitment_checked (budget : Budget) (required : RequiredCapital)
    (account : Capital.assertAccountIndex policy.accountIndex = .ok policy.accountIndex.toNat)
    (intent : Capital.assertIntentId input.intentId = .ok intentId)
    (heals : Capital.healCommitments context.reads policy.environment policy.accountIndex.toNat
      context.now ledger = .ok (healed, healedLedger)) :
    let asked := ledgerInput policy input budget required budget.committedUnits
    let others := othersOf healedLedger policy intentId input
    let short := 0 < input.requiredUnits required ∧
      budget.budgetUnits < budget.committedUnits + others + input.requiredUnits required
    (short → ∃ remaining, Capital.admitCommitment context asked ledger =
      .ok (.refused remaining others, healedLedger)) ∧
    (¬ short → ∀ row, Capital.upserted context healedLedger policy.environment
        policy.accountIndex.toNat intentId input.kind.commitment (input.requiredUnits required) =
          some row →
      Capital.admitCommitment context asked ledger =
        .ok (.admitted row.commitmentId others, healedLedger.put row)) := by
  intro asked others short
  obtain ⟨rest, decided, kept⟩ : ∃ rest, Capital.admitCommitment context asked ledger =
      (if input.requiredUnits required > 0 ∧
          ((budget.budgetUnits : Int) - budget.committedUnits - others) <
            input.requiredUnits required then
        .ok (.refused ((budget.budgetUnits : Int) - budget.committedUnits - others).toNat others,
          healedLedger)
      else rest) ∧
      ∀ row, Capital.upserted context healedLedger policy.environment policy.accountIndex.toNat
          intentId input.kind.commitment (input.requiredUnits required) = some row →
        rest = .ok (.admitted row.commitmentId others, healedLedger.put row) := by
    unfold Capital.admitCommitment
    dsimp only [asked, ledgerInput]
    rw [account, ok_bind, assertUnits_ofNat, ok_bind, assertUnits_ofNat, ok_bind,
      assertUnits_ofNat, ok_bind, intent, ok_bind, heals, ok_bind]
    exact ⟨_, rfl, fun row written => by rw [written]; rfl⟩
  constructor
  · rintro ⟨takes, exceeds⟩
    rw [decided, if_pos ⟨takes, by omega⟩]
    exact ⟨_, rfl⟩
  · intro fits row written
    rw [decided, if_neg (by omega), kept row written]

theorem upserted_of_same {required : Nat} (kind : Capital.Kind)
    (heals : Capital.healCommitments context.reads policy.environment policy.accountIndex.toNat
      context.now ledger = .ok (healed, healedLedger))
    (own : ∀ row, ledger.find? intentId = some row → row.environment = policy.environment ∧
      row.accountIndex = policy.accountIndex.toNat ∧ row.kind = kind) :
    ∃ row, Capital.upserted context healedLedger policy.environment policy.accountIndex.toNat
      intentId kind required = some row := by
  obtain ⟨rows, evidence⟩ := Capital.healCommitments_ok heals
  unfold Capital.upserted
  cases found : ledger.find? intentId with
  | none =>
    rw [rows, found]
    exact ⟨_, rfl⟩
  | some row =>
    obtain ⟨environment, account, sameKind⟩ := own row found
    have same := (evidence row (Table.find?_eq_some.mp found).1).same
    rw [rows, found]
    dsimp only [Option.map_some]
    rw [if_pos ⟨same.environment.trans environment, same.accountIndex.trans account,
      same.kind.trans sameKind⟩]
    exact ⟨_, rfl⟩

end Ledger

/-! ## The two decisions -/

section Decisions

variable {evidence : Evidence} {context : Capital.AdmitContext} {facts : ShareFacts}
  {input : AdmissionInput} {ledger : Capital.Ledger}

variable {policy : Policy}

theorem resolveCapitalSharePolicy_ok {environment : Environment} {accountIndex : Int}
    {account : Account}
    (resolved : resolveCapitalSharePolicy evidence environment accountIndex account = .ok policy) :
    policy.environment = environment ∧ policy.accountIndex = accountIndex := by
  unfold resolveCapitalSharePolicy at resolved
  split at resolved
  · cases resolved
  dsimp only at resolved
  split at resolved
  · cases resolved
  · cases resolved
    exact ⟨rfl, rfl⟩

theorem requiredUnits_le (input : AdmissionInput) (required : RequiredCapital) :
    input.requiredUnits required ≤ required.requiredUnits := by
  unfold AdmissionInput.requiredUnits
  cases input.alreadyCommittedUnits with
  | none => exact Nat.le_refl _
  | some alreadyCommitted =>
    dsimp only [positiveDelta]
    split
    · omega
    · omega

theorem buildCapitalShareAdvisory_decides {advisory : Advisory}
    (advised : buildCapitalShareAdvisory evidence ledger facts = advisory)
    (decides : (∃ assessment, advisory = .withinShare assessment) ∨
      ∃ reason change, advisory = .wouldRefuse reason change) :
    ∃ policy evaluation evaluation',
      resolveCapitalSharePolicy evidence facts.environment facts.accountIndex facts.account =
        .ok policy ∧
      evaluateOrderCapitalShare evidence ledger policy facts.order false = .ok evaluation' ∧
      SameNumbers ledger policy facts.order evaluation evaluation' ∧
      ((∃ refusal, evaluation.outcome = .refused refusal ∧
          advisory = .wouldRefuse refusal howToChange) ∨
        ∃ assessment, evaluation.outcome = .assessed assessment ∧
          advisory = if assessment.passes then .withinShare assessment
            else .wouldRefuse (describeCapitalShareBreach assessment) howToChange) := by
  unfold buildCapitalShareAdvisory at advised
  dsimp only at advised
  split at advised
  · subst advised
    rcases decides with ⟨_, other⟩ | ⟨_, _, other⟩
    · cases other
    · cases other
  rename_i evaluation evaluated
  obtain ⟨policy, resolved, evaluated⟩ := bind_eq_ok.mp evaluated
  obtain ⟨evaluation', evaluated', same⟩ := evaluate_sameNumbers evaluated
  refine ⟨policy, evaluation, evaluation', resolved, evaluated', same, ?_⟩
  cases outcome : evaluation.outcome with
  | exempt exemption =>
    rw [outcome] at advised
    subst advised
    rcases decides with ⟨_, other⟩ | ⟨_, _, other⟩
    · cases other
    · cases other
  | refused refusal =>
    rw [outcome] at advised
    exact .inl ⟨refusal, rfl, advised.symm⟩
  | assessed assessment =>
    rw [outcome] at advised
    exact .inr ⟨assessment, rfl, advised.symm⟩

theorem admitOrderCapitalCommitment_refused {evaluation : Evaluation} {refusal : JsString}
    (resolved : resolveCapitalSharePolicy evidence facts.environment facts.accountIndex
      facts.account = .ok policy)
    (evaluated : evaluateOrderCapitalShare evidence ledger policy facts.order false =
      .ok evaluation) (refused : evaluation.outcome = .refused refusal) :
    admitOrderCapitalCommitment evidence context facts input ledger =
      (.error (.shareExceeded refusal), ledger) := by
  unfold admitOrderCapitalCommitment
  by_cases share : policy.agentCapitalSharePercent = none
  · unfold evaluateOrderCapitalShare at evaluated
    rw [share] at evaluated
    cases evaluated
    rw [unbudgeted, assessOrderCapitalShare, shareInput, share] at refused
    cases refused
  · simp only [resolved, if_neg share, evaluated, refused]

theorem admitOrderCapitalCommitment_budgeted {percent : Int} {budget : Budget}
    {required : RequiredCapital} {source : FractionSource}
    (resolved : resolveCapitalSharePolicy evidence facts.environment facts.accountIndex
      facts.account = .ok policy) (share : policy.agentCapitalSharePercent = some percent)
    (counts : ¬ (facts.order.reduceOnly ∨ facts.order.market.marketType = .spot))
    (evaluated : evaluateOrderCapitalShare evidence ledger policy facts.order false =
      .ok ⟨some budget, some required, budget.committedUnits, assessOrderCapitalShare
        (shareInput policy facts.order (some budget) (some required) source none)⟩) :
    (∀ commitmentId live ledger', Capital.admitCommitment context
        (ledgerInput policy input budget required budget.committedUnits) ledger =
          .ok (.admitted commitmentId live, ledger') →
      ∃ assessment, admitOrderCapitalCommitment evidence context facts input ledger =
        (.ok (.assessed assessment), ledger')) ∧
    (∀ remaining live ledger', Capital.admitCommitment context
        (ledgerInput policy input budget required budget.committedUnits) ledger =
          .ok (.refused remaining live, ledger') →
      ∃ message, admitOrderCapitalCommitment evidence context facts input ledger =
        (.error (.shareExceeded message), ledger')) := by
  obtain ⟨assessment, assessed, -⟩ := assess_budgeted share counts
  rw [assessed] at evaluated
  unfold admitOrderCapitalCommitment
  simp only [resolved, share, evaluated, reduceCtorEq, if_false]
  constructor
  · intro commitmentId live ledger' admitted
    rw [admitted]
    exact ⟨assessment, rfl⟩
  · intro remaining live ledger' refused
    rw [refused]
    exact ⟨_, rfl⟩

variable {intentId : Capital.IntentId}

theorem admits_of_withinShare {assessment : Assessment}
    (intent : Capital.assertIntentId input.intentId = .ok intentId)
    (past : ∀ row ∈ ledger.rows, row.admittedAt ≤ context.now)
    (own : ∀ row, ledger.find? intentId = some row → row.environment = facts.environment ∧
      row.accountIndex = facts.accountIndex.toNat ∧ row.kind = input.kind.commitment)
    (advised : buildCapitalShareAdvisory evidence ledger facts = .withinShare assessment) :
    ∃ assessment' ledger' row, admitOrderCapitalCommitment evidence context facts input ledger =
        (.ok (.assessed assessment'), ledger') ∧
      ledger'.find? intentId = some row ∧ row.state = .live := by
  obtain ⟨policy, evaluation, evaluation', resolved, evaluated, same, outcome⟩ :=
    buildCapitalShareAdvisory_decides advised (.inl ⟨assessment, rfl⟩)
  obtain ⟨environment, account⟩ := resolveCapitalSharePolicy_ok resolved
  rw [← environment, ← account] at own
  rcases outcome with ⟨_, -, other⟩ | ⟨assessment', assessed, decision⟩
  · cases other
  cases same with
  | unbudgeted source unbounded => exact absurd assessed unbudgeted_outcome
  | budgeted percent budget required source live share counts listed =>
    obtain ⟨checked, total⟩ := listLiveCommitments_ok listed
    obtain ⟨_, same, passes⟩ := assess_budgeted share counts
    cases assessed.symm.trans same
    have fits : assessment'.passes := by
      by_contra fails
      rw [if_neg fails] at decision
      cases decision
    rw [passes, fits_withLive, total] at fits
    obtain ⟨healed, healedLedger, heals⟩ := Capital.healCommitments_of_past past
    have others := (Capital.total_healCommitments policy.environment
      policy.accountIndex.toNat intentId input.excludeIntentId heals).1
    change othersOf healedLedger policy intentId input ≤
      othersOf ledger policy intentId input at others
    have fewer : othersOf ledger policy intentId input ≤ _ := othersOf_le
    have takes := requiredUnits_le input required
    obtain ⟨row, written⟩ := upserted_of_same input.kind.commitment heals own
    have admitted := (admitCommitment_checked budget required checked intent heals).2 (by omega) row written
    obtain ⟨assessment, done⟩ := (admitOrderCapitalCommitment_budgeted resolved share counts
      evaluated).1 _ _ _ admitted
    obtain ⟨-, -, sameIntent, -, -, isLive, -⟩ := Capital.upserted_spec written
    exact ⟨assessment, _, row, done, sameIntent ▸ Table.find?_put_self healedLedger row, isLive⟩

theorem refuses_of_wouldRefuse {reason change : JsString} {healedLedger : Capital.Ledger}
    (intent : Capital.assertIntentId input.intentId = .ok intentId)
    (advised : buildCapitalShareAdvisory evidence ledger facts = .wouldRefuse reason change)
    (heals : Capital.healCommitments context.reads facts.environment facts.accountIndex.toNat
      context.now ledger = .ok ([], healedLedger)) (whole : input.alreadyCommittedUnits = none)
    (fresh : ∀ row ∈ ledger.rows, row.liveOn facts.environment facts.accountIndex.toNat →
      row.intentId ≠ intentId ∧ row.intentId.val ∉ input.excludeIntentId) :
    ∃ message ledger', admitOrderCapitalCommitment evidence context facts input ledger =
      (.error (.shareExceeded message), ledger') := by
  obtain ⟨policy, evaluation, evaluation', resolved, evaluated, same, outcome⟩ :=
    buildCapitalShareAdvisory_decides advised (.inr ⟨reason, change, rfl⟩)
  obtain ⟨environment, account⟩ := resolveCapitalSharePolicy_ok resolved
  rw [← environment, ← account] at heals fresh
  cases same with
  | unbudgeted source unbounded =>
    rcases outcome with ⟨refusal, refused, -⟩ | ⟨_, assessed, -⟩
    · exact ⟨refusal, ledger, admitOrderCapitalCommitment_refused resolved evaluated refused⟩
    · exact absurd assessed unbudgeted_outcome
  | budgeted percent budget required source live share counts listed =>
    obtain ⟨checked, total⟩ := listLiveCommitments_ok listed
    obtain ⟨assessment, assessed, passes⟩ := assess_budgeted share counts
    have short : ¬ assessment.passes := by
      intro fits
      dsimp only at outcome
      rw [assessed] at outcome
      rcases outcome with ⟨_, refused, -⟩ | ⟨_, same, decision⟩
      · cases refused
      · cases same
        rw [if_pos fits] at decision
        cases decision
    rw [passes, fits_withLive, total, not_or] at short
    have others := (Capital.total_healCommitments policy.environment
      policy.accountIndex.toNat intentId input.excludeIntentId heals).2 rfl
    change othersOf healedLedger policy intentId input =
      othersOf ledger policy intentId input at others
    rw [othersOf_eq fresh] at others
    have takes : input.requiredUnits required = required.requiredUnits := by
      rw [AdmissionInput.requiredUnits, whole]
    obtain ⟨remaining, refused⟩ := (admitCommitment_checked budget required checked intent heals).1
      (show 0 < input.requiredUnits required ∧ _ by omega)
    obtain ⟨message, done⟩ := (admitOrderCapitalCommitment_budgeted resolved share counts
      evaluated).2 _ _ _ refused
    exact ⟨message, _, done⟩

/-- **The advisory agrees with the admission.** For the same facts, the same answers of the
provider and the same ledger, whose rows were admitted in the past, and an intent that the
ledger accepts and whose row, if it has one, is this commitment: where the advisory says that
the order is within the share, the admission admits it and its row is live; where the
advisory refuses and healing retires no row, the admission refuses an order that has nothing
committed yet; and the required units, the provider's commitments and the budget are the
same in both evaluations. -/
theorem advisory_agrees_with_admission (evidence : Evidence) (context : Capital.AdmitContext)
    (facts : ShareFacts) (input : AdmissionInput) (ledger : Capital.Ledger)
    (intentId : Capital.IntentId)
    (intent : Capital.assertIntentId input.intentId = .ok intentId)
    (past : ∀ row ∈ ledger.rows, row.admittedAt ≤ context.now)
    (own : ∀ row, ledger.find? intentId = some row → row.environment = facts.environment ∧
      row.accountIndex = facts.accountIndex.toNat ∧ row.kind = input.kind.commitment) :
    (∀ assessment, buildCapitalShareAdvisory evidence ledger facts = .withinShare assessment →
      ∃ assessment' ledger' row, admitOrderCapitalCommitment evidence context facts input ledger =
          (.ok (.assessed assessment'), ledger') ∧
        ledger'.find? intentId = some row ∧ row.state = .live) ∧
    (∀ reason change healedLedger,
      buildCapitalShareAdvisory evidence ledger facts = .wouldRefuse reason change →
      Capital.healCommitments context.reads facts.environment facts.accountIndex.toNat context.now
        ledger = .ok ([], healedLedger) →
      input.alreadyCommittedUnits = none →
      (∀ row ∈ ledger.rows, row.liveOn facts.environment facts.accountIndex.toNat →
        row.intentId ≠ intentId ∧ row.intentId.val ∉ input.excludeIntentId) →
      ∃ message ledger', admitOrderCapitalCommitment evidence context facts input ledger =
        (.error (.shareExceeded message), ledger')) ∧
    (∀ policy evaluation,
      evaluateOrderCapitalShare evidence ledger policy facts.order true = .ok evaluation →
      ∃ evaluation', evaluateOrderCapitalShare evidence ledger policy facts.order false =
          .ok evaluation' ∧
        evaluation'.required = evaluation.required ∧
        evaluation'.providerCommittedUnits = evaluation.providerCommittedUnits ∧
        evaluation'.budget.map Budget.budgetUnits = evaluation.budget.map Budget.budgetUnits) := by
  refine ⟨fun assessment advised => admits_of_withinShare intent past own advised, ?_, ?_⟩
  · intro reason change healedLedger advised heals whole fresh
    exact refuses_of_wouldRefuse intent advised heals whole fresh
  · intro policy evaluation evaluated
    obtain ⟨evaluation', evaluated', same⟩ := evaluate_sameNumbers evaluated
    refine ⟨evaluation', evaluated', ?_⟩
    cases same with
    | unbudgeted source unbounded => exact ⟨rfl, rfl, rfl⟩
    | budgeted percent budget required source live share counts listed => exact ⟨rfl, rfl, rfl⟩

end Decisions

/-! ## An order of sixty units in a budget of a hundred

The market's scale makes one base unit at price one a unit of capital, and the whole of it is
margin. A preview of the order fits an empty ledger. Once the order is admitted, its own row
counts in the next advisory, and the admission that is taken again when the order is
executed leaves it out. -/

/-- The account holds a hundred units, all of which the agent may commit. -/
def hundredAccount : Account where
  l1Address := some (("0x" : JsString) ++ List.replicate 40 48)
  collateral := some "0.0001"
  crossInitialMarginRequirement := some "0"
  positions := []
  totalOrderCount := none

def sixtyOrder : OrderFacts where
  market := {
    marketId := 0
    marketType := .perp
    supportedSizeDecimals := 0
    supportedPriceDecimals := 6
    supportedQuoteDecimals := 6
    takerFee := "0"
    defaultInitialMarginFraction := some 10000
    markPrice := none }
  baseAmountInteger := "60"
  approvedPriceInteger := "1"
  approvedPriceRole := .limitPrice
  side := .buy
  reduceOnly := false
  vexIntegratorTakerFeeTicks := none

def sixtyFacts : ShareFacts := ⟨.core, 7, hundredAccount, sixtyOrder⟩

/-- The wallet's share is the whole account, and its fee tier is zero. -/
def wholeShare : Evidence where
  readTradingLimits _ _ := .ok (some (some 100))
  auth := true
  getAccountActiveOrders := .ok []
  getAccountLimits := some (.ok ⟨200, 0⟩)

def orderContext : Capital.AdmitContext := ⟨0, "u", Capital.noIntents, Capital.noIntents⟩

/-- The order as it is prepared, and as it is admitted again at its execution. -/
def preparedInput : AdmissionInput := ⟨"i", .create, none, none⟩

def executedInput : AdmissionInput := { preparedInput with excludeIntentId := some "i" }

/-- The ledger in which the order holds its sixty units. -/
def sixtyHeld : Capital.Ledger :=
  ⟨[Capital.newCommitment orderContext .core 7 Capital.orderId .create 60], List.nodup_singleton _⟩

def Advisory.withinShare? : Advisory → Option Assessment
  | .withinShare assessment => some assessment
  | _ => none

def Advisory.wouldRefuse? : Advisory → Option (JsString × JsString)
  | .wouldRefuse reason change => some (reason, change)
  | _ => none

/-- The order is within the share of an empty ledger, and is admitted there. -/
theorem sixty_units_are_admitted : ∃ assessment ledger' row,
      admitOrderCapitalCommitment wholeShare orderContext sixtyFacts preparedInput Table.empty =
        (.ok (.assessed assessment), ledger') ∧
      ledger'.find? Capital.orderId = some row ∧ row.state = .live := by
  have decides : (buildCapitalShareAdvisory wholeShare Table.empty sixtyFacts).withinShare?.isSome := by
    decide +kernel
  obtain ⟨assessment, within⟩ : ∃ assessment,
      buildCapitalShareAdvisory wholeShare Table.empty sixtyFacts = .withinShare assessment := by
    cases advised : buildCapitalShareAdvisory wholeShare Table.empty sixtyFacts with
    | withinShare assessment => exact ⟨assessment, rfl⟩
    | notApplicable | wouldRefuse | unavailable =>
      rw [advised] at decides
      cases decides
  exact (advisory_agrees_with_admission wholeShare orderContext sixtyFacts preparedInput Table.empty
    Capital.orderId (by decide) (by simp [Table.empty]) (by simp [Table.empty, Table.find?])).1
      assessment within

/-- An advisory can refuse what an admission of the same facts admits, although healing
retires nothing: the admission leaves the order's own row out. -/
theorem held_order_is_readmitted :
    ¬ ∀ (evidence : Evidence) (context : Capital.AdmitContext) (facts : ShareFacts)
      (input : AdmissionInput) (ledger healedLedger : Capital.Ledger) (reason change : JsString),
      buildCapitalShareAdvisory evidence ledger facts = .wouldRefuse reason change →
      Capital.healCommitments context.reads facts.environment facts.accountIndex.toNat context.now
        ledger = .ok ([], healedLedger) →
      ∃ failure, (admitOrderCapitalCommitment evidence context facts input ledger).1 =
        .error failure := by
  intro refuses
  have decides : (buildCapitalShareAdvisory wholeShare sixtyHeld sixtyFacts).wouldRefuse?.isSome := by
    decide +kernel
  obtain ⟨reason, change, advised⟩ : ∃ reason change,
      buildCapitalShareAdvisory wholeShare sixtyHeld sixtyFacts = .wouldRefuse reason change := by
    cases advised : buildCapitalShareAdvisory wholeShare sixtyHeld sixtyFacts with
    | wouldRefuse reason change => exact ⟨reason, change, rfl⟩
    | notApplicable | withinShare | unavailable =>
      rw [advised] at decides
      cases decides
  have healed : ∃ healedLedger, Capital.healCommitments orderContext.reads .core 7 0 sixtyHeld =
      .ok ([], healedLedger) := ⟨_, rfl⟩
  obtain ⟨healedLedger, healed⟩ := healed
  obtain ⟨failure, refused⟩ := refuses wholeShare orderContext sixtyFacts executedInput sixtyHeld
    healedLedger reason change advised healed
  have admitted : (admitOrderCapitalCommitment wholeShare orderContext sixtyFacts executedInput
      sixtyHeld).1.toOption.isSome := by
    decide
  rw [refused] at admitted
  cases admitted

end Vex.Lighter.CapitalSharePolicy
