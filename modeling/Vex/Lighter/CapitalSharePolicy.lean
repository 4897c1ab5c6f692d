import Vex.Library.DecimalText
import Vex.Lighter.CapitalCommitments
import Vex.Lighter.CapitalShare

/-!
# The capital share, enforced

The share of an account is the percent its owning wallet has set, and the owner is read from
the account itself. One evaluation serves two callers: the advisory of a preview, which adds
the live rows of the ledger to what the provider reports as committed and never vetoes, and
the admission, which hands the provider's numbers to the ledger and lets it sum its own rows
in the transaction that decides.

What a number cannot be bounded by is a refusal. The answers of the provider's calls are
given, one for each call, so that two evaluations of the same facts read the same answers.
-/

namespace Vex.Lighter.CapitalSharePolicy

open Vex.Library CapitalShare

/-! ## What the provider reports -/

/-- What the share reads of a `LighterAccountPosition`. -/
structure Position where
  marketId : Int
  marginMode : Int
  allocatedMargin : JsString
  initialMarginFraction : Option JsString
  openOrderCount : Option Int
  pendingOrderCount : Option Int

/-- What the share reads of a `LighterAccount`. -/
structure Account where
  l1Address : Option JsString
  collateral : Option JsString
  crossInitialMarginRequirement : Option JsString
  positions : List Position
  totalOrderCount : Option Int

/-- `LighterMarketType`. -/
inductive MarketType where
  | perp
  | spot
  deriving DecidableEq

/-- What the share reads of a `LighterMarketDetail`. -/
structure Market where
  marketId : Int
  marketType : MarketType
  supportedSizeDecimals : Int
  supportedPriceDecimals : Int
  supportedQuoteDecimals : Int
  takerFee : JsString
  defaultInitialMarginFraction : Option Int
  markPrice : Option JsString

structure RestingOrder where
  marketIndex : Int
  remainingBaseAmount : Option JsString
  initialBaseAmount : JsString
  price : JsString

/-- What the share reads of the answer of `accountLimits`. -/
structure AccountLimits where
  code : Int
  currentTakerFeeTick : Int
  deriving DecidableEq

/-- The answers the evaluation reads: the trading limits of a wallet, the credential, and the
two provider calls, one of which the client may not have. A call that throws answers with
the message of its error. -/
structure Evidence where
  readTradingLimits : Environment → JsString → Except JsString (Option (Option Int))
  auth : Bool
  getAccountActiveOrders : Except JsString (List RestingOrder)
  getAccountLimits : Option (Except JsString AccountLimits)

/-- What the policy throws, with the messages of its errors. -/
inductive Failure where
  | invalidRequest (message : JsString)
  | invalidResponse (message : JsString)
  | shareExceeded (message : JsString)
  | ledger (failure : Capital.Failure)
  | thrown (message : JsString)

/-! ## The margin fraction -/

/-- `LIGHTER_MARGIN_MODE_WIRE`, read backwards by `marginModeFromWire`. -/
inductive MarginMode where
  | cross
  | isolated
  deriving DecidableEq

def marginModeFromWire (value : Int) : Except Failure MarginMode :=
  if value = 0 then .ok .cross
  else if value = 1 then .ok .isolated
  else .error (.invalidResponse (("Lighter reported an unknown margin mode (" : JsString) ++
    integerText value ++ (")." : JsString)))

/-- `/^(\d+)(?:\.(\d{1,2}))?$/`. -/
def matchPercent (value : JsString) : Option (JsString × JsString) :=
  let whole := value.takeWhile JsString.isDigit
  if whole = [] then none
  else
    match value.dropWhile JsString.isDigit with
    | [] => some (whole, [])
    | unit :: fraction =>
      if unit = 46 ∧ fraction.all JsString.isDigit ∧ 1 ≤ fraction.length ∧ fraction.length ≤ 2
      then some (whole, fraction)
      else none

def positionInitialMarginFractionToProviderScale (percent : JsString) : Except Failure Int :=
  let quoted : JsString := ("(\"" : JsString) ++ percent ++ ("\")." : JsString)
  match matchPercent percent.trim with
  | none => .error (.invalidResponse
      (("Lighter reported an initial margin fraction Vex cannot read exactly " : JsString) ++
        quoted))
  | some (whole, fraction) =>
    let scaled := whole.decimalValue * 100 + (padEnd fraction 2).decimalValue
    if Params.maxSafeInteger < whole.decimalValue then
      .error (.invalidResponse
        (("Lighter reported an initial margin fraction outside the readable range " : JsString) ++
          quoted))
    else if scaled < 1 ∨ scaled > marginFractionTick then
      .error (.invalidResponse
        (("Lighter reported an initial margin fraction outside 0 to 100 percent " : JsString) ++
          quoted))
    else .ok scaled

inductive FractionSource where
  | positionRow
  | marketDefault
  deriving DecidableEq

/-- `resolveLighterInitialMarginFraction`, on the fraction of the position row, if there is
one, and the default of the market. -/
def resolveInitialMarginFraction (raw : Option JsString) (fallback : Option Int) :
    Except Failure (Int × FractionSource) :=
  match raw.filter fun raw => raw.trim ≠ [] with
  | some raw => do
    let fraction ← positionInitialMarginFractionToProviderScale raw
    return (fraction, .positionRow)
  | none =>
    match fallback.filter fun fallback => 0 < fallback with
    | some fallback => .ok (fallback, .marketDefault)
    | none => .error (.invalidRequest (invalidCapitalInput
        ("this Lighter market reported no default_initial_margin_fraction, so the margin " ++
          "this order requires cannot be computed." : String)))

def findPositionRow (account : Account) (marketId : Int) : Option Position :=
  account.positions.find? fun row => row.marketId = marketId

def safeInitialMarginFraction (position : Position) : Option Int :=
  (resolveInitialMarginFraction position.initialMarginFraction none).toOption.map Prod.fst

/-! ## The policy -/

/-- `LIGHTER_CAPITAL_SHARE_HOW_TO_CHANGE`. -/
def howToChange : JsString := "Settings -> Lighter -> Trading setup"

/-- `LighterCapitalSharePolicy`. -/
structure Policy where
  environment : Environment
  accountIndex : Int
  walletAddress : JsString
  agentCapitalSharePercent : Option Int
  account : Account

def Policy.percentText (policy : Policy) : JsString :=
  policy.agentCapitalSharePercent.elim ("null" : JsString) integerText

/-- `/^0x[0-9a-fA-F]{40}$/`. -/
def isAddress (value : JsString) : Bool :=
  value.take 2 = [48, 120] && value.length = 42 && (value.drop 2).all JsString.isHexDigit

/-- `resolveLighterCapitalSharePolicy`. An address is ASCII, so its letters are lowered one
by one. -/
def resolveCapitalSharePolicy (evidence : Evidence) (environment : Environment)
    (accountIndex : Int) (account : Account) : Except Failure Policy :=
  match account.l1Address.filter fun address => isAddress address.trim with
  | none => .error (.invalidResponse (("Lighter account " : JsString) ++
      integerText accountIndex ++
      ((" reported no owning L1 address, so the user's capital share for it cannot be " ++
        "identified. Nothing was prepared." : String) : JsString)))
  | some address =>
    let walletAddress := address.trim.map JsString.lowerAscii
    match evidence.readTradingLimits environment walletAddress with
    | .error message => .error (.thrown message)
    | .ok limits => .ok {
        environment := environment
        accountIndex := accountIndex
        walletAddress := walletAddress
        agentCapitalSharePercent := limits.join
        account := account }

/-! ## What is committed already -/

def countOpenOrders (account : Account) : Int :=
  let total := account.positions.foldl
    (fun total row => total + row.openOrderCount.getD 0 + row.pendingOrderCount.getD 0) 0
  match account.totalOrderCount with
  | some declared => if declared > total then declared else total
  | none => total

def restingOrdersUnreadable (policy : Policy) (message : JsString) : JsString :=
  ("Vex could not read this Lighter account's resting orders (" : JsString) ++ message ++
    (("), so the capital already committed cannot be bounded and the order is not admitted " ++
      "under the " : String) : JsString) ++ policy.percentText ++ ("% capital share." : JsString)

/-- The loop over the resting orders. -/
def reservedMargins (policy : Policy) : List RestingOrder → Except JsString (List Nat)
  | [] => .ok []
  | order :: rest =>
    match (findPositionRow policy.account order.marketIndex).bind safeInitialMarginFraction with
    | none => .error (("A resting Lighter order on market " : JsString) ++
        integerText order.marketIndex ++
        ((" has no readable initial margin fraction, so the capital it reserves cannot be " ++
          "bounded. The new order is not admitted under the " : String) : JsString) ++
        policy.percentText ++ ("% capital share." : JsString))
    | some fraction =>
      match reservedMarginUnits (order.remainingBaseAmount.getD order.initialBaseAmount)
          order.price fraction.toNat with
      | .error message => .error (restingOrdersUnreadable policy message)
      | .ok units => (List.cons units) <$> reservedMargins policy rest

def readRestingOrderReservedMarginUnits (policy : Policy) (evidence : Evidence) :
    Except JsString (List Nat) :=
  if countOpenOrders policy.account = 0 then .ok []
  else if evidence.auth = false then
    .error ((("This Lighter account has resting orders whose reserved margin Vex could not " ++
      "read, so the capital already committed cannot be bounded. The order is not admitted " ++
      "under the " : String) : JsString) ++ policy.percentText ++
      ("% capital share. Cancel the resting orders, or clear the share in " : JsString) ++
      howToChange ++ ("." : JsString))
  else
    match evidence.getAccountActiveOrders with
    | .error message => .error (restingOrdersUnreadable policy message)
    | .ok orders => reservedMargins policy orders

/-- `readLighterAccountExchangeTakerFeeTicks`, whose caller reads the message of its error. -/
def readAccountExchangeTakerFeeTicks (policy : Policy) (evidence : Evidence) :
    Except JsString Int :=
  match evidence.auth, evidence.getAccountLimits with
  | true, some answer =>
    match answer with
    | .error message => .error (unreadable message)
    | .ok limits =>
      if limits.code ≠ 200 then
        .error (unreadable (("accountLimits returned code " : JsString) ++ integerText limits.code))
      else if limits.currentTakerFeeTick < 0 ∨ limits.currentTakerFeeTick > 1000000 then
        .error (("Lighter reported an unusable exchange fee tier for this account, so the " ++
          "charge this order would incur cannot be bounded. It is NOT assumed to be zero " ++
          "and the order was not admitted." : String) : JsString)
      else .ok limits.currentTakerFeeTick
  | _, _ => .error ((("Vex could not read this Lighter account's exchange fee tier, so the " ++
      "charge this order would incur cannot be bounded and it is not admitted under the " :
        String) : JsString) ++ policy.percentText ++
      ("% capital share. Unlock VEX and try again, or clear the share in " : JsString) ++
      howToChange ++ ("." : JsString))
where
  unreadable (message : JsString) : JsString :=
    ("Vex could not read this Lighter account's exchange fee tier (" : JsString) ++ message ++
      (("), so the charge this order would incur cannot be bounded and it is not admitted " ++
        "under the " : String) : JsString) ++ policy.percentText ++
      ("% capital share." : JsString)

/-- The allocated margins of the isolated positions, or a refusal of a mode that is not known. -/
def isolatedAllocatedMargins : List Position → Except Failure (List JsString)
  | [] => .ok []
  | position :: rest =>
    match marginModeFromWire position.marginMode with
    | .error _ => .error (.invalidResponse (("Lighter reported margin mode " : JsString) ++
        integerText position.marginMode ++ (" on this account's market " : JsString) ++
        integerText position.marketId ++
        ((", which Vex does not recognise. The margin that position holds therefore cannot " ++
          "be counted, so the agent's capital share cannot be computed and nothing was " ++
          "prepared. It is NOT skipped: skipping it would widen the ceiling by an unknown " ++
          "amount." : String) : JsString)))
    | .ok .cross => isolatedAllocatedMargins rest
    | .ok .isolated => (List.cons position.allocatedMargin) <$> isolatedAllocatedMargins rest

def readRequiredAccountString (value : Option JsString) (field : JsString) :
    Except Failure JsString :=
  match value with
  | some value => .ok value
  | none => .error (.invalidResponse (("Lighter did not report " : JsString) ++ field ++
      ((" for this account, so the agent's capital share cannot be computed. Nothing was " ++
        "prepared." : String) : JsString)))

/-! ## The assessment -/

/-- Units as a decimal text of the settlement asset. -/
def formatCapitalUnits (units : Nat) : JsString :=
  let text := JsString.ofNat units
  let raw := List.replicate (capitalUnitsDecimals + 1 - text.length) 48 ++ text
  raw.take (raw.length - capitalUnitsDecimals) ++ ("." : JsString) ++
    raw.drop (raw.length - capitalUnitsDecimals)

/-- `LighterCapitalShareExemption`. -/
inductive Exemption where
  | noShareConfigured
  | reduceOnly
  | spotSell
  deriving DecidableEq

/-- `LighterCapitalShareAssessment`, without the fields that hold one constant. -/
structure Assessment where
  agentCapitalSharePercent : Int
  walletAddress : JsString
  accountIndex : Int
  passes : Bool
  budgetUnits : Nat
  committedUnits : Nat
  remainingUnits : Nat
  requiredUnits : Nat
  budgetDisplay : JsString
  remainingDisplay : JsString
  requiredDisplay : JsString
  initialMarginFraction : Int
  initialMarginFractionSource : FractionSource
  riskPriceBasis : RiskPriceBasis
  note : JsString

/-- `LighterCapitalShareOutcome`. -/
inductive Outcome where
  | exempt (exemption : Exemption)
  | assessed (assessment : Assessment)
  | refused (refusal : JsString)

/-- `LighterCapitalShareInput`. -/
structure ShareInput where
  agentCapitalSharePercent : Option Int
  walletAddress : JsString
  accountIndex : Int
  marketType : MarketType
  side : Side
  reduceOnly : Bool
  budget : Option Budget
  required : Option RequiredCapital
  initialMarginFractionSource : FractionSource
  unbounded : Option JsString

/-- `assessLighterOrderCapitalShare`. -/
def assessOrderCapitalShare (input : ShareInput) : Outcome :=
  match input.agentCapitalSharePercent with
  | none => .exempt .noShareConfigured
  | some percent =>
    if input.reduceOnly then .exempt .reduceOnly
    else if input.marketType = .spot then
      if input.side = .sell then .exempt .spotSell
      else .refused
        (("This Lighter spot buy is refused while an agent capital share of " : JsString) ++
          integerText percent ++
          (("% is set. The share governs perpetual margin, and spot purchases settle into " ++
            "inventory that the share cannot account for. Trade the perpetual market " ++
            "instead, or clear the share in " : String) : JsString) ++ howToChange ++
          (" to trade spot as before." : JsString))
    else
      match input.unbounded, input.budget, input.required with
      | some reason, _, _ => .refused reason
      | none, some budget, some required => .assessed {
          agentCapitalSharePercent := percent
          walletAddress := input.walletAddress
          accountIndex := input.accountIndex
          -- The boundary is inclusive.
          passes := required.requiredUnits ≤ budget.remainingUnits
          budgetUnits := budget.budgetUnits
          committedUnits := budget.committedUnits
          remainingUnits := budget.remainingUnits
          requiredUnits := required.requiredUnits
          budgetDisplay := formatCapitalUnits budget.budgetUnits
          remainingDisplay := formatCapitalUnits budget.remainingUnits
          requiredDisplay := formatCapitalUnits required.requiredUnits
          initialMarginFraction := required.initialMarginFraction
          initialMarginFractionSource := input.initialMarginFractionSource
          riskPriceBasis := required.riskPriceBasis
          note := ("The agent may commit " : JsString) ++ integerText percent ++
            (("% of this Lighter account's collateral. The user sets that percent in " :
              String) : JsString) ++ howToChange ++
            ("; Vex exposes no tool to change it." : JsString) }
      | none, _, _ => .refused
          ("The live Lighter account or market numbers this capital share depends on were " ++
            "not available, so the order was not admitted. Nothing was signed or " ++
            "submitted." : String)

/-- `describeLighterCapitalShareBreach`. -/
def describeCapitalShareBreach (assessment : Assessment) : JsString :=
  ("Refusing this Lighter order: it would commit " : JsString) ++ assessment.requiredDisplay ++
    (" of margin and fees, which exceeds the " : JsString) ++ assessment.remainingDisplay ++
    (" still available under the agent's " : JsString) ++
    integerText assessment.agentCapitalSharePercent ++
    ("% capital share for account " : JsString) ++ integerText assessment.accountIndex ++
    (" (share budget " : JsString) ++ assessment.budgetDisplay ++
    (", already committed " : JsString) ++ formatCapitalUnits assessment.committedUnits ++
    ("). The order is NOT resized. Raise the share in " : JsString) ++ howToChange ++
    (", or ask for a smaller order." : JsString)

/-! ## The evaluation -/

/-- `LighterCapitalShareOrderFacts`. -/
structure OrderFacts where
  market : Market
  baseAmountInteger : JsString
  approvedPriceInteger : JsString
  approvedPriceRole : PriceRole
  side : Side
  reduceOnly : Bool
  vexIntegratorTakerFeeTicks : Option Int

/-- `LighterCapitalShareEvaluation`, beside the policy it was made under. -/
structure Evaluation where
  budget : Option Budget
  required : Option RequiredCapital
  providerCommittedUnits : Nat
  outcome : Outcome

/-- The fields of an assessment that the policy and the order give. -/
def shareInput (policy : Policy) (order : OrderFacts) (budget : Option Budget)
    (required : Option RequiredCapital) (source : FractionSource) (unbounded : Option JsString) :
    ShareInput where
  agentCapitalSharePercent := policy.agentCapitalSharePercent
  walletAddress := policy.walletAddress
  accountIndex := policy.accountIndex
  marketType := order.market.marketType
  side := order.side
  reduceOnly := order.reduceOnly
  budget := budget
  required := required
  initialMarginFractionSource := source
  unbounded := unbounded

/-- The evaluation that ends before its numbers are known. -/
def unbudgeted (policy : Policy) (order : OrderFacts) (source : FractionSource)
    (unbounded : Option JsString) : Evaluation where
  budget := none
  required := none
  providerCommittedUnits := 0
  outcome := assessOrderCapitalShare (shareInput policy order none none source unbounded)

/-- `listLiveLighterCapitalCommitments`: the required units of its rows, the oldest first. -/
def listLiveCommitments (ledger : Capital.Ledger) (environment : Environment)
    (accountIndex : Int) : Except Failure (List Nat) := do
  let accountIndex ← (Capital.assertAccountIndex accountIndex).mapError .ledger
  return ((ledger.rows.filter fun row => row.liveOn environment accountIndex).mergeSort
    fun row other => row.admittedAt < other.admittedAt ||
      (row.admittedAt = other.admittedAt && row.commitmentId ≤ other.commitmentId)).map
    Capital.Commitment.requiredUnits

def accountBudget (policy : Policy) (percent : Int) (resting live : List Nat) :
    Except Failure Budget := do
  let collateral ← readRequiredAccountString policy.account.collateral "collateral"
  let cross ← readRequiredAccountString policy.account.crossInitialMarginRequirement
    "cross_initial_margin_requirement"
  let isolated ← isolatedAllocatedMargins policy.account.positions
  (computeCapitalBudget {
    agentCapitalSharePercent := percent
    collateral := collateral
    crossInitialMarginRequirement := cross
    isolatedAllocatedMargins := isolated
    restingOrderReservedMarginUnits := resting.map JsString.ofNat
    vexLiveIntentUnits := live.map JsString.ofNat }).mapError .invalidRequest

/-- `evaluateLighterOrderCapitalShare`. -/
def evaluateOrderCapitalShare (evidence : Evidence) (ledger : Capital.Ledger) (policy : Policy)
    (order : OrderFacts) (includeLiveCommitments : Bool) : Except Failure Evaluation :=
  match policy.agentCapitalSharePercent with
  | none => .ok (unbudgeted policy order .marketDefault none)
  | some percent =>
    if order.reduceOnly ∨ order.market.marketType = .spot then
      .ok (unbudgeted policy order .marketDefault none)
    else do
      let positionRow := findPositionRow policy.account order.market.marketId
      let (fraction, source) ← resolveInitialMarginFraction
        (positionRow.bind Position.initialMarginFraction)
        order.market.defaultInitialMarginFraction
      match resolveCapitalRiskPriceInteger {
        side := order.side
        approvedPriceInteger := order.approvedPriceInteger
        approvedPriceRole := order.approvedPriceRole
        priceDecimals := order.market.supportedPriceDecimals
        markPrice := order.market.markPrice } with
      | .error reason => .ok (unbudgeted policy order source (some reason))
      | .ok (price, basis) =>
      match readRestingOrderReservedMarginUnits policy evidence with
      | .error reason => .ok (unbudgeted policy order source (some reason))
      | .ok resting =>
      match readAccountExchangeTakerFeeTicks policy evidence with
      | .error reason => .ok (unbudgeted policy order source (some reason))
      | .ok ticks => do
        let required ← (computeOrderRequiredCapital {
          baseAmountInteger := order.baseAmountInteger
          riskPriceInteger := JsString.ofNat price
          riskPriceBasis := basis
          sizeDecimals := order.market.supportedSizeDecimals
          priceDecimals := order.market.supportedPriceDecimals
          quoteDecimals := order.market.supportedQuoteDecimals
          initialMarginFraction := fraction
          exchangeTakerFeePercent := order.market.takerFee
          exchangeAccountTakerFeeTicks := ticks
          vexIntegratorTakerFeeTicks := order.vexIntegratorTakerFeeTicks }).mapError .invalidRequest
        let live ← (if includeLiveCommitments
          then listLiveCommitments ledger policy.environment policy.accountIndex
          else .ok [])
        let providerOnly ← accountBudget policy percent resting []
        let budget ← (if live = [] then .ok providerOnly
          else accountBudget policy percent resting live)
        return {
          budget := some budget
          required := some required
          providerCommittedUnits := providerOnly.committedUnits
          outcome := assessOrderCapitalShare
            (shareInput policy order (some budget) (some required) source none) }

/-! ## The advisory -/

/-- `LighterCapitalShareAdvisory`. -/
inductive Advisory where
  | notApplicable (reason : JsString)
  | wouldRefuse (reason : JsString) (howToChange : JsString)
  | withinShare (assessment : Assessment)
  | unavailable (reason : JsString)

def describeExemption : Exemption → JsString
  | .noShareConfigured =>
    ("No agent capital share is set for this wallet, so no Vex ceiling applies. The user " ++
      "sets one in Settings -> Lighter -> Trading setup." : String)
  | .reduceOnly =>
    ("This order is reduce-only and proven against the live position, so it reduces exposure " ++
      "and the capital share does not apply." : String)
  | .spotSell =>
    "This spot sell reduces inventory, so the capital share does not apply."

structure ShareFacts where
  environment : Environment
  accountIndex : Int
  account : Account
  order : OrderFacts

/-- `buildLighterCapitalShareAdvisory`. -/
def buildCapitalShareAdvisory (evidence : Evidence) (ledger : Capital.Ledger)
    (facts : ShareFacts) : Advisory :=
  let evaluated := do
    let policy ← resolveCapitalSharePolicy evidence facts.environment facts.accountIndex
      facts.account
    evaluateOrderCapitalShare evidence ledger policy facts.order true
  match evaluated with
  | .error _ => .unavailable
      ("The agent's capital share for this account could not be read for this preview. It is " ++
        "still enforced when the order is prepared." : String)
  | .ok evaluation =>
    match evaluation.outcome with
    | .exempt exemption => .notApplicable (describeExemption exemption)
    | .refused refusal => .wouldRefuse refusal howToChange
    | .assessed assessment =>
      if assessment.passes then .withinShare assessment
      else .wouldRefuse (describeCapitalShareBreach assessment) howToChange

/-! ## The admission -/

inductive OrderKind where
  | create
  | modify
  deriving DecidableEq

def OrderKind.commitment : OrderKind → Capital.Kind
  | .create => .create
  | .modify => .modify

structure AdmissionInput where
  intentId : JsString
  kind : OrderKind
  excludeIntentId : Option JsString
  alreadyCommittedUnits : Option Nat

def positiveDelta (required alreadyCommitted : Nat) : Nat :=
  if required > alreadyCommitted then required - alreadyCommitted else 0

/-- A modification admits its increase, every other order all it requires. -/
def AdmissionInput.requiredUnits (input : AdmissionInput) (required : RequiredCapital) : Nat :=
  match input.alreadyCommittedUnits with
  | none => required.requiredUnits
  | some alreadyCommitted => positiveDelta required.requiredUnits alreadyCommitted

def ledgerInput (policy : Policy) (input : AdmissionInput) (budget : Budget)
    (required : RequiredCapital) (providerCommittedUnits : Nat) : Capital.AdmitInput where
  environment := policy.environment
  accountIndex := policy.accountIndex
  intentId := input.intentId
  kind := input.kind.commitment
  requiredUnits := JsString.ofNat (input.requiredUnits required)
  budgetUnits := JsString.ofNat budget.budgetUnits
  providerCommittedUnits := JsString.ofNat providerCommittedUnits
  excludeIntentId := input.excludeIntentId

def describeLedgerRefusal (policy : Policy) (requiredUnits remainingUnits budgetUnits
    liveCommittedUnits : Nat) : JsString :=
  ("Refusing this Lighter order: it would commit " : JsString) ++
    formatCapitalUnits requiredUnits ++ (" of margin and fees, which exceeds the " : JsString) ++
    formatCapitalUnits remainingUnits ++ (" still available under the agent's " : JsString) ++
    policy.percentText ++ ("% capital share for account " : JsString) ++
    integerText policy.accountIndex ++ (" (share budget " : JsString) ++
    formatCapitalUnits budgetUnits ++ (", Vex orders already holding " : JsString) ++
    formatCapitalUnits liveCommittedUnits ++
    ("). The order is NOT resized. Raise the share in " : JsString) ++ howToChange ++
    (", or ask for a smaller order." : JsString)

/-- `admitLighterOrderCapitalCommitment`: what it returns or throws, and the ledger it leaves. -/
def admitOrderCapitalCommitment (evidence : Evidence) (context : Capital.AdmitContext)
    (facts : ShareFacts) (input : AdmissionInput) (ledger : Capital.Ledger) :
    Except Failure Outcome × Capital.Ledger :=
  match resolveCapitalSharePolicy evidence facts.environment facts.accountIndex facts.account with
  | .error failure => (.error failure, ledger)
  | .ok policy =>
  if policy.agentCapitalSharePercent = none then (.ok (.exempt .noShareConfigured), ledger)
  else
  match evaluateOrderCapitalShare evidence ledger policy facts.order false with
  | .error failure => (.error failure, ledger)
  | .ok evaluation =>
  match evaluation.outcome with
  | .exempt exemption => (.ok (.exempt exemption), ledger)
  | .refused refusal => (.error (.shareExceeded refusal), ledger)
  | .assessed assessment =>
  match evaluation.budget, evaluation.required with
  | some budget, some required =>
    match Capital.admitCommitment context
      (ledgerInput policy input budget required evaluation.providerCommittedUnits) ledger with
    | .error failure => (.error (.ledger failure), ledger)
    | .ok (.admitted _ _, ledger') => (.ok (.assessed assessment), ledger')
    | .ok (.refused remainingUnits liveCommittedUnits, ledger') =>
      (.error (.shareExceeded (describeLedgerRefusal policy (input.requiredUnits required)
        remainingUnits budget.budgetUnits liveCommittedUnits)), ledger')
  | _, _ => (.error (.shareExceeded
      ("The live Lighter numbers this capital share depends on were not available, so nothing " ++
        "was prepared." : String)), ledger)

end Vex.Lighter.CapitalSharePolicy
