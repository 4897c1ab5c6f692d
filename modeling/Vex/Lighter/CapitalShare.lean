import Vex.Lighter.Basic
import Mathlib.Algebra.Order.Floor.Div

/-!
# The arithmetic of the capital share

The budget of an account is a percent of its collateral, and an order requires
its margin and its fees. Every amount is an integer of 10⁻⁶ units of the
settlement asset: provider decimals are parsed strictly into it, budgets are
rounded down and obligations up.

The margin of a resting order is computed from the provider's decimal strings
by a second parser, which keeps six decimals and rounds the rest up.
-/

namespace Vex.Lighter.CapitalShare

open Vex.Library

/-! ## Parsing -/

def invalidCapitalInput (detail : JsString) : JsString :=
  ("Lighter capital-share arithmetic refused: " : JsString) ++ detail

/-- `String(value)` for an integer. -/
def integerText (value : Int) : JsString := toString value

/-- `LIGHTER_CAPITAL_UNITS_DECIMALS`. -/
def capitalUnitsDecimals : Nat := 6

/-- `LIGHTER_MARGIN_FRACTION_TICK`. -/
def marginFractionTick : Nat := 10000

/-- `LIGHTER_FEE_TICK_DENOMINATOR`. -/
def feeTickDenominator : Nat := 1000000

def assertScale (decimals : Int) (name : String) : Except JsString Unit :=
  if decimals < 0 ∨ decimals > 18 then
    .error (invalidCapitalInput ((name ++ " is " : String) ++ integerText decimals ++
      (", which is not a usable decimal scale." : String)))
  else .ok ()

/-- `/^(0|[1-9][0-9]*)$/` on the trimmed value. -/
def parseNonNegativeInteger (value : JsString) : Option Nat :=
  if value.trim.isCanonicalDecimal then some value.trim.decimalValue else none

def integerUnits (value : JsString) (name : JsString) : Except JsString Nat :=
  match parseNonNegativeInteger value with
  | some parsed => .ok parsed
  | none => .error (invalidCapitalInput (name ++ (" (\"" : String) ++ value ++
      ("\") is not a non-negative integer of settlement units." : String)))

/-- `value.padEnd(length, "0")`. -/
def padEnd (value : JsString) (length : Nat) : JsString :=
  value ++ List.replicate (length - value.length) 48

def decimalToScaledInteger (value : JsString) (decimals : Int) (name : JsString) :
    Except JsString Nat :=
  let trimmed := value.trim
  let quoted := name ++ (" (\"" : String) ++ trimmed ++ ("\")" : String)
  match trimmed.matchSignedDecimal with
  | none => .error (invalidCapitalInput (quoted ++ (" is not a decimal number." : String)))
  | some (negative, whole, fraction) =>
    if negative ∧ (whole ++ fraction).any (fun unit => 49 ≤ unit && unit ≤ 57) then
      .error (invalidCapitalInput (quoted ++
        (" is negative; a negative capital figure is never assumed to be zero." : String)))
    else if (fraction.length : Int) > decimals then
      .error (invalidCapitalInput (quoted ++ (" carries more than " : String) ++
        integerText decimals ++
        (" decimals and is NOT truncated to fit the settlement scale." : String)))
    else .ok (whole ++ padEnd fraction decimals.toNat).decimalValue

def decimalToCapitalUnits (value : JsString) (name : JsString) : Except JsString Nat :=
  decimalToScaledInteger value capitalUnitsDecimals name

/-! ## The budget -/

/-- `LighterCapitalBudgetInput`. -/
structure BudgetInput where
  agentCapitalSharePercent : Int
  collateral : JsString
  crossInitialMarginRequirement : JsString
  isolatedAllocatedMargins : List JsString
  restingOrderReservedMarginUnits : List JsString
  vexLiveIntentUnits : List JsString

/-- `LighterCapitalBudget`, with the amounts its strings denote. -/
structure Budget where
  agentCapitalSharePercent : Int
  collateralUnits : Nat
  budgetUnits : Nat
  committedUnits : Nat
  remainingUnits : Nat
  providerCrossInitialMarginUnits : Nat
  isolatedAllocatedMarginUnits : Nat
  restingOrderReservedMarginUnits : Nat
  vexLiveIntentUnits : Nat

/-- The name an amount of a list is refused under. -/
def itemName (before : String) (index : Nat) (after : String) : JsString :=
  before ++ toString index ++ after

def computeCapitalBudget (input : BudgetInput) : Except JsString Budget :=
  let percent := input.agentCapitalSharePercent
  if percent < 1 ∨ percent > 100 then
    .error (invalidCapitalInput (("agentCapitalSharePercent is " : String) ++ integerText percent ++
      (", which is not a whole percent between 1 and 100. It is NOT coerced." : String)))
  else do
    let collateralUnits ← decimalToCapitalUnits input.collateral "collateral"
    let providerCross ← decimalToCapitalUnits input.crossInitialMarginRequirement
      "cross_initial_margin_requirement"
    let isolated ← input.isolatedAllocatedMargins.zipIdx.mapM fun (value, index) =>
      decimalToCapitalUnits value (itemName "positions[" index "].allocated_margin")
    let resting ← input.restingOrderReservedMarginUnits.zipIdx.mapM fun (value, index) =>
      integerUnits value (itemName "restingOrderReservedMarginUnits[" index "]")
    let vexLive ← input.vexLiveIntentUnits.zipIdx.mapM fun (value, index) =>
      integerUnits value (itemName "vexLiveIntentUnits[" index "]")
    let budget := collateralUnits * percent.toNat / 100
    let committed := providerCross + isolated.sum + resting.sum + vexLive.sum
    return {
      agentCapitalSharePercent := percent
      collateralUnits := collateralUnits
      budgetUnits := budget
      committedUnits := committed
      remainingUnits := if committed ≥ budget then 0 else budget - committed
      providerCrossInitialMarginUnits := providerCross
      isolatedAllocatedMarginUnits := isolated.sum
      restingOrderReservedMarginUnits := resting.sum
      vexLiveIntentUnits := vexLive.sum }

/-! ## The risk price -/

inductive Side where
  | buy
  | sell
  deriving DecidableEq

inductive PriceRole where
  | limitPrice
  | worstAcceptablePrice
  | triggerExecutionBound
  deriving DecidableEq

/-- `LighterCapitalRiskPriceBasis`. -/
inductive RiskPriceBasis where
  | approvedLimitPrice
  | approvedExecutionBound
  | markPrice
  deriving DecidableEq

/-- `LighterCapitalRiskPriceInput`. -/
structure RiskPriceInput where
  side : Side
  approvedPriceInteger : JsString
  approvedPriceRole : PriceRole
  priceDecimals : Int
  markPrice : Option JsString

/-- The reason an order without a price bound is not admitted. -/
def openEndedPrice : JsString :=
  "This Lighter order carries no approved price bound, so the capital it would commit cannot " ++
    "be bounded. An order with an open-ended execution price is not admitted under a capital share."

/-- The reason a sell without a mark price is not admitted. -/
def noMarkPrice : JsString :=
  "This Lighter market reported no mark price, so a sell's margin exposure cannot be bounded " ++
    "above its own limit price. The order is not admitted under a capital share."

/-- `resolveLighterCapitalRiskPriceInteger`: the price and its basis, or the reason. -/
def resolveCapitalRiskPriceInteger (input : RiskPriceInput) :
    Except JsString (Nat × RiskPriceBasis) :=
  match parseNonNegativeInteger input.approvedPriceInteger with
  | none => .error openEndedPrice
  | some approved =>
    if approved = 0 then .error openEndedPrice
    else
      let basis : RiskPriceBasis :=
        if input.approvedPriceRole = .limitPrice then .approvedLimitPrice
        else .approvedExecutionBound
      match input.side, input.markPrice with
      | .buy, _ => .ok (approved, basis)
      | .sell, none => .error noMarkPrice
      | .sell, some markPrice => do
        let mark ← decimalToScaledInteger markPrice input.priceDecimals "mark_price"
        return if mark > approved then (mark, .markPrice) else (approved, basis)

/-! ## The required capital -/

/-- `LighterOrderRequiredCapitalInput`. -/
structure RequiredCapitalInput where
  baseAmountInteger : JsString
  riskPriceInteger : JsString
  riskPriceBasis : RiskPriceBasis
  sizeDecimals : Int
  priceDecimals : Int
  quoteDecimals : Int
  initialMarginFraction : Int
  exchangeTakerFeePercent : JsString
  exchangeAccountTakerFeeTicks : Int
  vexIntegratorTakerFeeTicks : Option Int

/-- `LighterOrderRequiredCapital`, with the amounts its strings denote. -/
structure RequiredCapital where
  requiredUnits : Nat
  notionalUnits : Nat
  initialMarginUnits : Nat
  exchangeTakerFeeUnits : Nat
  vexIntegratorFeeUnits : Nat
  initialMarginFraction : Int
  riskPriceInteger : Nat
  riskPriceBasis : RiskPriceBasis
  deriving DecidableEq

def ceilDiv (numerator denominator : Nat) : Nat :=
  if numerator = 0 then 0 else (numerator + denominator - 1) / denominator

def rescaleToCapitalUnits (value quoteDecimals : Nat) : Nat :=
  if quoteDecimals = capitalUnitsDecimals then value
  else if quoteDecimals > capitalUnitsDecimals then
    ceilDiv value (10 ^ (quoteDecimals - capitalUnitsDecimals))
  else value * 10 ^ (capitalUnitsDecimals - quoteDecimals)

def feePercentToTicks (value : JsString) (name : JsString) : Except JsString Nat :=
  decimalToScaledInteger value 4 name

/-- The range of `accountFeeTicks` and `integratorTicks`. -/
def feeTicks (ticks : Int) (refusal : JsString) : Except JsString Nat :=
  if ticks < 0 ∨ ticks > 1000000 then .error (invalidCapitalInput refusal) else .ok ticks.toNat

def accountFeeTicks (ticks : Int) : Except JsString Nat :=
  feeTicks ticks (("exchangeAccountTakerFeeTicks is " : String) ++ integerText ticks ++
    (", which is outside Lighter's fee-tick range. It is NOT treated as zero: an unknown " ++
      "exchange fee would under-reserve every order at the ceiling." : String))

def integratorTicks (ticks : Int) : Except JsString Nat :=
  feeTicks ticks (("vexIntegratorTakerFeeTicks is " : String) ++ integerText ticks ++
    (", which is outside Lighter's fee-tick range." : String))

def positiveInteger (value : JsString) (refusal : JsString) : Except JsString Nat :=
  match parseNonNegativeInteger value with
  | none => .error (invalidCapitalInput refusal)
  | some parsed => if parsed = 0 then .error (invalidCapitalInput refusal) else .ok parsed

def assertQuoteScale (input : RequiredCapitalInput) : Except JsString Unit :=
  if input.quoteDecimals ≠ input.sizeDecimals + input.priceDecimals then
    .error (invalidCapitalInput (("market quote scale " : String) ++
      integerText input.quoteDecimals ++ (" is not supported_size_decimals " : String) ++
      integerText input.sizeDecimals ++ (" plus supported_price_decimals " : String) ++
      integerText input.priceDecimals ++
      (". The notional is NOT rescaled from a scale it cannot verify." : String)))
  else .ok ()

def assertMarginFraction (fraction : Int) : Except JsString Unit :=
  if fraction ≤ 0 ∨ fraction > marginFractionTick then
    .error (invalidCapitalInput (("initialMarginFraction is " : String) ++ integerText fraction ++
      (", which is not an integer on Lighter's 1..10000 scale." : String)))
  else .ok ()

/-- `computeLighterOrderRequiredCapital`. -/
def computeOrderRequiredCapital (input : RequiredCapitalInput) :
    Except JsString RequiredCapital := do
  let base ← positiveInteger input.baseAmountInteger
    "baseAmountInteger must be a positive integer of base units."
  let price ← positiveInteger input.riskPriceInteger
    "riskPriceInteger must be a positive integer at the market's price decimals."
  assertScale input.sizeDecimals "supported_size_decimals"
  assertScale input.priceDecimals "supported_price_decimals"
  assertScale input.quoteDecimals "supported_quote_decimals"
  assertQuoteScale input
  assertMarginFraction input.initialMarginFraction
  let notionalUnits := rescaleToCapitalUnits (base * price) input.quoteDecimals.toNat
  let marginUnits :=
    ceilDiv (notionalUnits * input.initialMarginFraction.toNat) marginFractionTick
  let marketTicks ← feePercentToTicks input.exchangeTakerFeePercent "market taker_fee"
  let accountTicks ← accountFeeTicks input.exchangeAccountTakerFeeTicks
  let exchangeTicks := if accountTicks > marketTicks then accountTicks else marketTicks
  let exchangeFeeUnits := ceilDiv (notionalUnits * exchangeTicks) feeTickDenominator
  let vexTicks ← input.vexIntegratorTakerFeeTicks.elim (.ok 0) integratorTicks
  let vexFeeUnits := ceilDiv (notionalUnits * vexTicks) feeTickDenominator
  return {
    requiredUnits := marginUnits + exchangeFeeUnits + vexFeeUnits
    notionalUnits := notionalUnits
    initialMarginUnits := marginUnits
    exchangeTakerFeeUnits := exchangeFeeUnits
    vexIntegratorFeeUnits := vexFeeUnits
    initialMarginFraction := input.initialMarginFraction
    riskPriceInteger := price
    riskPriceBasis := input.riskPriceBasis }

/-! ## Resting orders -/

/-- `decimalToScaled`, which rounds the decimals it does not keep up. -/
def decimalToScaled (value : JsString) (decimals : Nat) : Except JsString Nat :=
  match value.trim.matchDecimal with
  | none => .error (("A Lighter resting order reported an unreadable amount (\"" : String) ++
      value ++ ("\"), so its reserved margin cannot be computed." : String))
  | some (whole, fraction) =>
    let kept := padEnd (fraction.take decimals) decimals
    let remainder := fraction.drop decimals
    let bump := if remainder.any fun unit => 49 ≤ unit && unit ≤ 57 then 1 else 0
    .ok ((whole ++ kept).decimalValue + bump)

def ceilDivBig (numerator denominator : Nat) : Nat :=
  if numerator = 0 then 0 else (numerator + denominator - 1) / denominator

def reservedMarginUnits (remainingBase price : JsString) (initialMarginFraction : Nat) :
    Except JsString Nat := do
  let base ← decimalToScaled remainingBase 6
  let priceScaled ← decimalToScaled price 6
  let notional := ceilDivBig (base * priceScaled) 1000000
  return ceilDivBig (notional * initialMarginFraction) 10000

end Vex.Lighter.CapitalShare
