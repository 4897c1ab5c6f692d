import Vex.Library.DecimalStrings
import Vex.Lighter.CapitalSharePolicy

/-!
# The preview of an order

`buildLighterOrderPreview` checks an order against the market, the account and
the book before anybody is asked to approve it, and says what it would send: the
amounts as integers of the wire, the notional, the position it reduces and the
inventory it needs. Whatever it cannot prove it refuses.

A number of the language that is used as an integer is an integer here. The hash
of the identity and the name of the asset's fee are as the caller gives them.
-/

namespace Vex.Lighter.OrderPreview

open Vex.Library Vex.Library.JsString
open Vex.Lighter.CapitalShare (Side PriceRole integerText padEnd)
open Vex.Lighter.CapitalSharePolicy (MarketType)

/-! ## What the preview reads -/

/-- `LIGHTER_ORDER_TYPES`. -/
inductive OrderType where
  | limit
  | market
  | stopLoss
  | stopLossLimit
  | takeProfit
  | takeProfitLimit
  deriving DecidableEq

/-- `LIGHTER_ORDER_TIME_IN_FORCE`. -/
inductive TimeInForce where
  | goodTillTime
  | immediateOrCancel
  | postOnly
  deriving DecidableEq

/-- `LighterMarketStatus`. -/
inductive MarketStatus where
  | inactive
  | active
  deriving DecidableEq

def environmentText : Environment → JsString
  | .core => "core"
  | .rhc => "rhc"

def sideText : Side → JsString
  | .buy => "buy"
  | .sell => "sell"

def orderTypeText : OrderType → JsString
  | .limit => "limit"
  | .market => "market"
  | .stopLoss => "stop-loss"
  | .stopLossLimit => "stop-loss-limit"
  | .takeProfit => "take-profit"
  | .takeProfitLimit => "take-profit-limit"

def timeInForceText : TimeInForce → JsString
  | .goodTillTime => "good-till-time"
  | .immediateOrCancel => "immediate-or-cancel"
  | .postOnly => "post-only"

def marketTypeText : MarketType → JsString
  | .perp => "perp"
  | .spot => "spot"

/-- `LighterIntegratorFees`. -/
structure IntegratorFees where
  integratorAccountIndex : Int
  integratorMakerFee : Int
  integratorTakerFee : Int
  deriving DecidableEq

/-- `LighterOrderPreviewInput`, with the moment it is built at. -/
structure Input where
  sessionId : JsString
  environment : Environment
  accountIndex : Int
  apiKeyIndex : Option Int
  marketId : Int
  side : Side
  baseAmount : JsString
  price : JsString
  orderType : OrderType
  timeInForce : TimeInForce
  reduceOnly : Bool
  triggerPrice : Option JsString
  orderExpiry : Int
  clientOrderIndexPolicy : JsString
  nowMs : Int
  integratorFees : Option IntegratorFees

/-- What the preview reads of a `LighterMarketDetail`. -/
structure Market where
  symbol : JsString
  marketId : Int
  marketType : MarketType
  baseAssetId : Int
  quoteAssetId : Int
  status : MarketStatus
  takerFee : JsString
  isTakerFeeEnabled : Bool
  minBaseAmount : JsString
  minQuoteAmount : JsString
  supportedSizeDecimals : Int
  supportedPriceDecimals : Int
  supportedQuoteDecimals : Int
  markPrice : Option JsString
  indexPrice : Option JsString
  /-- `String(last_trade_price)`, where it is a finite number. -/
  lastTradePrice : Option JsString

/-- What the preview reads of a record among the positions: texts that are strings, and numbers. -/
structure Position where
  market_id : Option Int
  marketId : Option Int
  position : Option JsString
  size : Option JsString
  sign : Option Int

/-- What the preview reads of a `LighterAccountAsset`. -/
structure Asset where
  symbol : JsString
  assetId : Int
  balance : JsString
  lockedBalance : JsString

/-- What the preview reads of a `LighterAccount`; a list that is missing is none. -/
structure Account where
  index : Option Int
  accountIndex : Option Int
  positions : Option (List Position)
  assets : Option (List Asset)

/-- `LighterOrderPreviewContext`: of the orders of the book their prices. -/
structure Context where
  accountTakerFeeTicks : Option Int
  market : Market
  bids : List JsString
  asks : List JsString
  accounts : List Account

/-! ## Decimal strings -/

def decimalParts (value : JsString) : Option Scaled := scaledOf value

/-- `compareDecimalStrings`: a string that is no decimal compares as equal. -/
def compareDecimalStrings (left right : JsString) : Int :=
  match decimalParts left, decimalParts right with
  | some a, some b => Scaled.compare a b
  | _, _ => 0

def formatInteger (value : Int) (decimals : Nat) : JsString :=
  (if value < 0 then ("-" : JsString) else []) ++ formatScaled value.natAbs decimals

def decimalToLighterInteger (value : JsString) (decimals : Int) (field : JsString)
    (allowZero : Bool) : Except JsString Nat := do
  refuseIf (decimals < 0 ∨ 18 < decimals)
    (field ++ (" decimals must be an integer from 0 to 18." : JsString))
  match matchFraction value.trim with
  | none => .error (field ++ (" must be a non-negative decimal string." : JsString))
  | some (whole, fraction) =>
    let strippedFraction := stripZeros fraction
    if decimals < strippedFraction.length then
      .error (field ++ (" has more decimal places than Lighter supports." : JsString))
    else
      let integer := decimalValue (whole ++ padEnd strippedFraction decimals.toNat)
      if integer = 0 ∧ allowZero = false then
        .error (field ++ (" must be greater than zero." : JsString))
      else .ok integer

def subtractDecimalStrings (left right field : JsString) : Except JsString JsString :=
  match decimalParts left, decimalParts right with
  | some a, some b =>
    let scale := max a.scale b.scale
    if a.at_ scale < b.at_ scale then
      .error (("Lighter spot order preview refused: live " : JsString) ++ field
        ++ (" had locked inventory above total inventory." : JsString))
    else .ok (formatInteger (a.at_ scale - b.at_ scale : Nat) scale)
  | _, _ => .error (("Lighter spot order preview refused: live " : JsString) ++ field
      ++ (" was not a non-negative decimal." : JsString))

def normalizeDecimalString (value : JsString) : Except JsString JsString :=
  match decimalParts value with
  | none => .error ("Lighter spot order preview refused: live asset inventory was invalid." : JsString)
  | some parts => .ok (formatInteger parts.integer parts.scale)

def divideCeil (numerator denominator : Nat) : Nat :=
  if numerator = 0 then 0 else (numerator - 1) / denominator + 1

def stringValue (value : Option JsString) : Option JsString :=
  match value with
  | none => none
  | some text => if text.trim = [] then none else some text.trim

/-! ## The order -/

def isProtectiveOrderType (orderType : OrderType) : Bool :=
  orderType = .stopLoss ∨ orderType = .stopLossLimit ∨ orderType = .takeProfit
    ∨ orderType = .takeProfitLimit

def isTriggerLimitOrderType (orderType : OrderType) : Bool :=
  orderType = .stopLossLimit ∨ orderType = .takeProfitLimit

def isStopLossOrderType (orderType : OrderType) : Bool :=
  orderType = .stopLoss ∨ orderType = .stopLossLimit

def lighterOrderPriceRole (orderType : OrderType) : PriceRole :=
  if orderType = .market then .worstAcceptablePrice
  else if isTriggerLimitOrderType orderType then .limitPrice
  else if isProtectiveOrderType orderType then .triggerExecutionBound
  else .limitPrice

/-- `LIGHTER_ALLOWED_CREATE_ORDER_TUPLES`. -/
def allowedCreateOrderTuples : List (OrderType × TimeInForce) :=
  [(.limit, .immediateOrCancel), (.limit, .goodTillTime), (.limit, .postOnly),
    (.market, .immediateOrCancel), (.stopLoss, .immediateOrCancel),
    (.stopLossLimit, .immediateOrCancel), (.stopLossLimit, .goodTillTime),
    (.stopLossLimit, .postOnly), (.takeProfit, .immediateOrCancel),
    (.takeProfitLimit, .immediateOrCancel), (.takeProfitLimit, .goodTillTime),
    (.takeProfitLimit, .postOnly)]

/-- The text of `assertLighterPhaseOneOrderPolicy`. -/
def phaseOneOrderPolicyReason : JsString :=
  ("Unsupported Lighter order type and time-in-force combination. Vex permits limit, "
    ++ "stop-loss-limit, and take-profit-limit orders with immediate-or-cancel, good-till-time, "
    ++ "or post-only; and market, stop-loss, and take-profit orders with immediate-or-cancel. "
    ++ "TWAP and other order families remain unavailable. No order was signed or submitted." :
      String)

def assertLighterPhaseOneOrderPolicy (orderType : OrderType) (timeInForce : TimeInForce) :
    Except JsString Unit :=
  refuseIf ((orderType, timeInForce) ∉ allowedCreateOrderTuples) phaseOneOrderPolicyReason

/-- `LIGHTER_SPOT_MARKET_INDEX_MAX`. -/
def spotMarketIndexMax : Int := 4094

/-- `LIGHTER_SPOT_MARKET_INDEX_MIN`. -/
def spotMarketIndexMin : Int := 2048

/-- `LIGHTER_PERP_MARKET_INDEX_MAX`. -/
def perpMarketIndexMax : Int := 254

/-- `LIGHTER_WIRE_PRICE_MAX`. -/
def wirePriceMax : Nat := 4294967295

/-- `LIGHTER_WIRE_BASE_AMOUNT_MAX`. -/
def wireBaseAmountMax : Nat := 9223372036854775807

/-- `LIGHTER_ORDER_PREVIEW_FRESHNESS_MS`. -/
def previewFreshnessMs : Int := 2 * 60 * 1000

def minOrderExpiryOffsetMs : Int := 5 * 60 * 1000

def maxOrderExpiryOffsetMs : Int := 30 * 24 * 60 * 60 * 1000

def validateInputScalars (input : Input) : Except JsString Unit := do
  refuseIf (input.sessionId.trim = []) ("Missing Lighter order preview sessionId." : JsString)
  refuseIf (input.accountIndex < 0 ∨ Params.maxSafeInteger < input.accountIndex)
    ("accountIndex must be a safe non-negative integer." : JsString)
  refuseIf (∃ apiKeyIndex ∈ input.apiKeyIndex, apiKeyIndex < 0 ∨ 255 < apiKeyIndex)
    ("apiKeyIndex must be an integer from 0 to 255 when provided." : JsString)
  refuseIf (input.marketId < 0 ∨ spotMarketIndexMax < input.marketId)
    ("marketId must be an integer from 0 to 4094 for signable orders." : JsString)
  refuseIf (input.clientOrderIndexPolicy.trim = []) ("clientOrderIndexPolicy is required." : JsString)

/-- `readLighterOrderFeeTerms` on typed terms: `assertLighterIntegratorFees`. -/
def readLighterOrderFeeTerms (fees : Option IntegratorFees) : Except JsString Unit :=
  match fees with
  | none => .ok ()
  | some fees =>
    refuseIf (fees.integratorAccountIndex < 1 ∨ 2 ^ 48 - 2 < fees.integratorAccountIndex
        ∨ fees.integratorMakerFee < 0 ∨ 1000000 < fees.integratorMakerFee
        ∨ fees.integratorTakerFee < 0 ∨ 1000000 < fees.integratorTakerFee)
      ("Invalid Lighter integrator fee attributes." : JsString)

def assertMarketMatches (input : Input) (market : Market) : Except JsString Unit := do
  refuseIf (market.marketId ≠ input.marketId)
    (("Lighter order preview refused: live market detail returned market " : JsString)
      ++ integerText market.marketId ++ (", not " : JsString) ++ integerText input.marketId
      ++ ("." : JsString))
  refuseIf (market.status ≠ .active)
    (("Lighter order preview refused: market " : JsString) ++ integerText input.marketId
      ++ (" is not active." : JsString))

def Market.Signable (market : Market) : Prop :=
  match market.marketType with
  | .perp => 0 ≤ market.marketId ∧ market.marketId ≤ perpMarketIndexMax
  | .spot => spotMarketIndexMin ≤ market.marketId ∧ market.marketId ≤ spotMarketIndexMax

instance (market : Market) : Decidable market.Signable := by
  unfold Market.Signable
  cases market.marketType <;> exact inferInstance

def assertSignableMarketIndex (market : Market) : Except JsString Unit :=
  refuseIf (¬ market.Signable)
    (("Lighter order preview refused: " : JsString) ++ marketTypeText market.marketType
      ++ (" market " : JsString) ++ integerText market.marketId
      ++ (" is outside the lighter-go v1.0.7 signing range " : JsString)
      ++ (match market.marketType with
          | .perp => ("0 through 254" : JsString)
          | .spot => ("2048 through 4094" : JsString))
      ++ ("." : JsString))

def accountIndexOf (account : Account) : Option Int :=
  (account.index.or account.accountIndex).filter fun value =>
    -Params.maxSafeInteger ≤ value ∧ value ≤ Params.maxSafeInteger

def assertAccountContainsIndex (input : Input) (accounts : List Account) : Except JsString Unit :=
  refuseIf (¬ accounts.any fun row => accountIndexOf row = some input.accountIndex)
    (("Lighter order preview refused: live account read did not return account " : JsString)
      ++ integerText input.accountIndex ++ ("." : JsString))

def assertQuoteScale (market : Market) : Except JsString Unit :=
  refuseIf (market.supportedQuoteDecimals
      ≠ market.supportedSizeDecimals + market.supportedPriceDecimals)
    (("Lighter order preview refused: market quote decimal scale did not match documented "
      ++ "size+price decimals." : String) : JsString)

def assertExpiry (orderExpiry nowMs : Int) : Except JsString Unit :=
  refuseIf (orderExpiry < nowMs + minOrderExpiryOffsetMs
      ∨ nowMs + maxOrderExpiryOffsetMs < orderExpiry)
    ("orderExpiry must be between 5 minutes and 30 days from preview time." : JsString)

def assertOrderCombination (input : Input) (market : Market) : Except JsString Unit := do
  assertLighterPhaseOneOrderPolicy input.orderType input.timeInForce
  if isProtectiveOrderType input.orderType then do
    refuseIf (market.marketType ≠ .perp)
      ("Protective orders are supported only for Lighter perpetual markets." : JsString)
    refuseIf (input.reduceOnly = false) ("Protective orders must be reduce-only in Vex." : JsString)
    refuseIf (input.triggerPrice = none)
      ("Protective orders require an explicit triggerPrice." : JsString)
  else
    refuseIf (input.triggerPrice ≠ none)
      ("Trigger price is accepted only for protective orders." : JsString)

/-! ## The inventory of a spot order -/

inductive TakerFee where
  | none
  | zeroFromLiveMarket
  | includedLiveMarketPercentage
  | includedLiveAccountOrMarketFee
  deriving DecidableEq

/-- The kinds of `requiredAmount`. -/
inductive RequiredKind where
  | baseAmount
  | worstPriceQuoteNotional
  | worstPriceQuoteNotionalWithTakerFee
  deriving DecidableEq

/-- `spotInventoryContext`. -/
structure SpotInventory where
  assetId : Int
  symbol : JsString
  balance : JsString
  lockedBalance : JsString
  unlockedBalance : JsString
  requiredAmount : JsString
  requiredKind : RequiredKind
  takerFee : TakerFee
  takerFeePercent : Option JsString
  takerFeeAmount : JsString

/-- The fee of a spot buy: where it is taken from, its integer and its percent. -/
structure SpotFee where
  takerFee : TakerFee
  integer : Nat
  percent : Option JsString
  deriving DecidableEq

def marketSpotFee (input : Input) (market : Market) (quoteNotionalInteger : Nat) :
    Except JsString SpotFee :=
  if input.side = .buy ∧ market.isTakerFeeEnabled then
    match decimalParts market.takerFee with
    | .none => .error (("Lighter spot buy preview refused: the live market taker fee was not a "
        ++ "valid percentage." : String) : JsString)
    | some fee => do
      refuseIf (100 * 10 ^ fee.scale < fee.integer)
        (("Lighter spot buy preview refused: the live market taker fee was not a "
          ++ "valid percentage." : String) : JsString)
      let percent ← normalizeDecimalString market.takerFee
      if fee.integer = 0 then .ok ⟨.zeroFromLiveMarket, 0, some percent⟩
      else .ok ⟨.includedLiveMarketPercentage,
        divideCeil (quoteNotionalInteger * fee.integer) (100 * 10 ^ fee.scale), some percent⟩
  else .ok ⟨.none, 0, .none⟩

def accountSpotFee (input : Input) (context : Context) (quoteNotionalInteger : Nat)
    (fee : SpotFee) : Except JsString SpotFee :=
  match context.accountTakerFeeTicks with
  | .none => .ok fee
  | some ticks =>
    if input.side = .buy then do
      refuseIf (ticks < 0 ∨ 1000000 < ticks)
        ("The live Lighter account fee is not a valid tick amount." : JsString)
      let accountFee := divideCeil (quoteNotionalInteger * ticks.toNat) 1000000
      if fee.integer < accountFee then
        .ok ⟨.includedLiveAccountOrMarketFee, accountFee, some (formatInteger ticks 4)⟩
      else .ok fee
    else .ok fee

def assertSpotOrderInventory (input : Input) (context : Context)
    (baseAmountInteger quoteNotionalInteger : Nat) : Except JsString (Option SpotInventory) :=
  if context.market.marketType ≠ .spot then .ok none
  else do
    refuseIf (input.reduceOnly = true)
      (("Lighter spot order preview refused: reduceOnly must be false because spot inventory is "
        ++ "not a perpetual position." : String) : JsString)
    match (context.accounts.find? fun account =>
      accountIndexOf account = some input.accountIndex).bind (·.assets) with
    | none => .error (("Lighter spot order preview refused: the live account read did not include "
        ++ "typed spot asset inventory." : String) : JsString)
    | some assets =>
      let requiredAssetId :=
        if input.side = .sell then context.market.baseAssetId else context.market.quoteAssetId
      match assets.filter fun asset => asset.assetId = requiredAssetId with
      | [asset] => do
        let unlockedBalance ← subtractDecimalStrings asset.balance asset.lockedBalance
          (("spot asset " : JsString) ++ integerText requiredAssetId ++ (" balance" : JsString))
        let marketFee ← marketSpotFee input context.market quoteNotionalInteger
        let fee ← accountSpotFee input context quoteNotionalInteger marketFee
        let requiredInteger :=
          if input.side = .sell then baseAmountInteger else quoteNotionalInteger + fee.integer
        let requiredDecimals :=
          if input.side = .sell then context.market.supportedSizeDecimals
          else context.market.supportedQuoteDecimals
        let requiredAmount := formatInteger requiredInteger requiredDecimals.toNat
        let role : JsString := if input.side = .sell then "base asset" else "quote asset"
        refuseIf (compareDecimalStrings unlockedBalance requiredAmount < 0)
          (("Lighter spot " : JsString) ++ sideText input.side
            ++ (" preview refused: unlocked " : JsString) ++ role ++ (" balance " : JsString)
            ++ unlockedBalance ++ (" is below required " : JsString) ++ requiredAmount
            ++ ("." : JsString))
        let balance ← normalizeDecimalString asset.balance
        let lockedBalance ← normalizeDecimalString asset.lockedBalance
        .ok (some
          { assetId := asset.assetId
            symbol := asset.symbol
            balance := balance
            lockedBalance := lockedBalance
            unlockedBalance := unlockedBalance
            requiredAmount := requiredAmount
            requiredKind :=
              if input.side = .sell then .baseAmount
              else if fee.integer = 0 then .worstPriceQuoteNotional
              else .worstPriceQuoteNotionalWithTakerFee
            takerFee := fee.takerFee
            takerFeePercent := fee.percent
            takerFeeAmount :=
              formatInteger fee.integer context.market.supportedQuoteDecimals.toNat })
      | _ => .error (("Lighter spot order preview refused: the live account read did not return "
          : JsString) ++ ("exactly one asset " : JsString) ++ integerText requiredAssetId
          ++ (" inventory row." : JsString))

/-! ## The position -/

inductive PositionSide where
  | long
  | short
  | flat
  | unknown
  deriving DecidableEq

structure PositionContext where
  verified : Bool
  marketPosition : Option JsString
  positionSide : PositionSide
  deriving DecidableEq

/-- The position of the account on the market: of the first account row with that index and
positions, the first record that names the market. -/
def positionOf (accounts : List Account) (accountIndex marketId : Int) : Option Position :=
  ((accounts.find? fun row =>
      accountIndexOf row = some accountIndex ∧ row.positions ≠ none).bind (·.positions)).bind
    fun positions => positions.find? fun row =>
      row.market_id = some marketId ∨ row.marketId = some marketId

def readPositionContext (accounts : List Account) (accountIndex marketId : Int) : PositionContext :=
  match positionOf accounts accountIndex marketId with
  | none => ⟨false, none, .unknown⟩
  | some position =>
    let rawPosition := (stringValue position.position).or (stringValue position.size)
    let side : PositionSide :=
      match position.sign with
      | none => .unknown
      | some sign => if 0 < sign then .long else if sign < 0 then .short else .flat
    ⟨rawPosition ≠ none ∧ side ≠ .unknown, rawPosition, side⟩

def isReduceOnlyVerifiable (side : Side) (position : PositionContext) : Bool :=
  if position.verified = false then false
  else
    match position.positionSide with
    | .long => side = .sell
    | .short => side = .buy
    | .flat | .unknown => false

def assertProtectiveSizeWithinPosition (baseAmount : JsString) (position : PositionContext) :
    Except JsString Unit :=
  match position.marketPosition with
  | none => .error ("Protective order preview requires an exact live position size." : JsString)
  | some marketPosition => do
    refuseIf (decimalParts marketPosition = none)
      ("Protective order preview requires an exact live position size." : JsString)
    refuseIf (0 < compareDecimalStrings baseAmount marketPosition)
      (("Protective order size " : JsString) ++ baseAmount
        ++ (" exceeds the live position size " : JsString) ++ marketPosition ++ ("." : JsString))

def assertReduceOnlySize (input : Input) (position : PositionContext) : Except JsString Unit :=
  if input.reduceOnly then assertProtectiveSizeWithinPosition input.baseAmount position else .ok ()

/-! ## The book -/

inductive BookSide where
  | ask
  | bid
  deriving DecidableEq

/-- The comparison `bestPrice` sorts by. -/
def comparePrices (side : BookSide) (left right : JsString) : Int :=
  compareDecimalStrings left right * (match side with
    | .ask => 1
    | .bid => -1)

def bestPrice (orders : List JsString) (side : BookSide) : Option JsString :=
  (sortBy (comparePrices side) (orders.filterMap fun price => stringValue (some price))).head?

inductive PriceComparison where
  | resting
  | crossingOrTaker
  | unknown
  deriving DecidableEq

/-- The price of a side meets the best price of the other. -/
def crosses (side : Side) (comparison : Int) : Bool :=
  match side with
  | .buy => 0 ≤ comparison
  | .sell => comparison ≤ 0

/-- Whether a limit order of a side rests against the best price of the other. -/
def classifyAgainst (side : Side) (price : JsString) (best : Option JsString) : PriceComparison :=
  match best with
  | none => .unknown
  | some best =>
    if decimalParts price = none ∨ decimalParts best = none then .unknown
    else if crosses side (compareDecimalStrings price best) then .crossingOrTaker
    else .resting

def classifyPriceComparison (side : Side) (orderType : OrderType) (price : JsString)
    (bestBid bestAsk : Option JsString) : PriceComparison :=
  if orderType = .market then .crossingOrTaker
  else if isProtectiveOrderType orderType then .unknown
  else
    match side with
    | .buy => classifyAgainst side price bestAsk
    | .sell => classifyAgainst side price bestBid

/-- The trigger is on the side of the reference that the order type asks for. -/
def triggerValid (orderType : OrderType) (side : Side) (comparison : Int) : Bool :=
  if isStopLossOrderType orderType then
    match side with
    | .sell => comparison < 0
    | .buy => 0 < comparison
  else
    match side with
    | .sell => 0 < comparison
    | .buy => comparison < 0

def triggerDirection (orderType : OrderType) (side : Side) : JsString :=
  if isStopLossOrderType orderType then
    match side with
    | .sell => "below"
    | .buy => "above"
  else
    match side with
    | .sell => "above"
    | .buy => "below"

/-- The execution bound is on the wrong side of the trigger. -/
def boundBreaks (side : Side) (comparison : Int) : Bool :=
  match side with
  | .sell => 0 < comparison
  | .buy => comparison < 0

def triggerReference (side : Side) (bestBid bestAsk : Option JsString) : Option JsString :=
  match side with
  | .sell => bestBid
  | .buy => bestAsk

/-- `assertProtectiveTriggerDirection`; the integer of the trigger is there where its text is. -/
def assertProtectiveTriggerDirection (input : Input) (bestBid bestAsk : Option JsString) :
    Except JsString Unit :=
  if isProtectiveOrderType input.orderType = false then .ok ()
  else
    match input.triggerPrice with
    | none => .error ("Protective order trigger price is unavailable." : JsString)
    | some triggerPrice =>
      match triggerReference input.side bestBid bestAsk with
      | none => .error
          ("Protective order preview requires a live opposite-side reference price." : JsString)
      | some reference => do
        refuseIf (triggerValid input.orderType input.side
            (compareDecimalStrings triggerPrice reference) = false)
          (orderTypeText input.orderType ++ (" for a " : JsString)
            ++ (match input.side with
                | .sell => ("long" : JsString)
                | .buy => ("short" : JsString))
            ++ (" position requires triggerPrice " : JsString)
            ++ triggerDirection input.orderType input.side
            ++ (" the live reference price " : JsString) ++ reference ++ ("." : JsString))
        refuseIf (boundBreaks input.side (compareDecimalStrings input.price triggerPrice) = true)
          (("Protective " : JsString) ++ sideText input.side
            ++ (" execution bound must be " : JsString)
            ++ (match input.side with
                | .sell => ("at or below" : JsString)
                | .buy => ("at or above" : JsString))
            ++ (" triggerPrice " : JsString) ++ triggerPrice ++ ("." : JsString))

def readReferencePrice (market : Market) : Option JsString :=
  ((stringValue market.markPrice).or (stringValue market.indexPrice)).or market.lastTradePrice

/-! ## The preview -/

/-- `LighterOrderPreviewIdentity`. -/
structure Identity where
  integratorFees : Option IntegratorFees
  sessionId : JsString
  environment : Environment
  accountIndex : JsString
  apiKeyIndex : JsString
  marketIndex : JsString
  side : Side
  baseAmountInteger : JsString
  priceInteger : JsString
  orderType : OrderType
  timeInForce : TimeInForce
  reduceOnly : Bool
  triggerPriceInteger : JsString
  expiryMs : JsString
  clientOrderIndexPolicy : JsString

/-- `lighterOrderPreviewHashMaterial`. -/
def hashMaterial (identity : Identity) : List JsString :=
  [("lighter_order" : JsString), identity.sessionId, environmentText identity.environment,
    identity.accountIndex, identity.apiKeyIndex, identity.marketIndex, sideText identity.side,
    identity.baseAmountInteger, identity.priceInteger, orderTypeText identity.orderType,
    timeInForceText identity.timeInForce, (if identity.reduceOnly then ("1" : JsString) else ("0" : JsString)),
    identity.triggerPriceInteger, identity.expiryMs, identity.clientOrderIndexPolicy,
    ("lighter-order-preview-v1" : JsString)]
    ++ (match identity.integratorFees with
        | none => []
        | some fees => [integerText fees.integratorAccountIndex,
            integerText fees.integratorMakerFee, integerText fees.integratorTakerFee])

/-- An amount of the preview: how it is shown, its integer and the scale. -/
structure Amount where
  display : JsString
  integer : Nat
  decimals : Nat
  deriving DecidableEq

def amountOf (integer : Nat) (decimals : Int) : Amount :=
  ⟨formatInteger integer decimals.toNat, integer, decimals.toNat⟩

/-- `LighterOrderPreview`. -/
structure Preview where
  matchHash : JsString
  previewId : JsString
  identity : Identity
  expiresAt : Int
  symbol : JsString
  marketType : MarketType
  baseAmount : Amount
  price : Amount
  priceRole : PriceRole
  triggerPrice : Option Amount
  quoteNotional : Amount
  minBaseAmount : Amount
  minQuoteAmount : Amount
  bestBid : Option JsString
  bestAsk : Option JsString
  referencePrice : Option JsString
  priceComparison : PriceComparison
  positionContext : PositionContext
  spotInventoryContext : Option SpotInventory

def triggerInteger (input : Input) (market : Market) : Except JsString (Option Nat) :=
  match input.triggerPrice with
  | none => .ok none
  | some triggerPrice =>
    (decimalToLighterInteger triggerPrice market.supportedPriceDecimals "triggerPrice" false).map
      some

def identityOf (input : Input) (baseAmountInteger priceInteger : Nat)
    (triggerPriceInteger : Option Nat) : Identity where
  integratorFees := input.integratorFees
  sessionId := input.sessionId
  environment := input.environment
  accountIndex := integerText input.accountIndex
  apiKeyIndex := (input.apiKeyIndex.map integerText).getD []
  marketIndex := integerText input.marketId
  side := input.side
  baseAmountInteger := ofNat baseAmountInteger
  priceInteger := ofNat priceInteger
  orderType := input.orderType
  timeInForce := input.timeInForce
  reduceOnly := input.reduceOnly
  triggerPriceInteger := (triggerPriceInteger.map ofNat).getD []
  expiryMs := integerText input.orderExpiry
  clientOrderIndexPolicy := input.clientOrderIndexPolicy

/-- `buildLighterOrderPreview`; `hash` is the digest of the material. -/
def buildLighterOrderPreview (hash : List JsString → JsString) (input : Input)
    (context : Context) : Except JsString Preview := do
  let market := context.market
  validateInputScalars input
  readLighterOrderFeeTerms input.integratorFees
  assertMarketMatches input market
  assertSignableMarketIndex market
  assertAccountContainsIndex input context.accounts
  assertQuoteScale market
  assertExpiry input.orderExpiry input.nowMs
  assertOrderCombination input market
  let baseAmountInteger ←
    decimalToLighterInteger input.baseAmount market.supportedSizeDecimals "baseAmount" false
  let priceInteger ← decimalToLighterInteger input.price market.supportedPriceDecimals "price" false
  let triggerPriceInteger ← triggerInteger input market
  let minBaseAmount ← decimalToLighterInteger market.minBaseAmount market.supportedSizeDecimals
    "market min_base_amount" true
  let minQuoteAmount ← decimalToLighterInteger market.minQuoteAmount market.supportedQuoteDecimals
    "market min_quote_amount" true
  let quoteNotionalInteger := baseAmountInteger * priceInteger
  refuseIf (wirePriceMax < priceInteger)
    (("Lighter order preview refused: price exceeds Lighter's uint32 wire bound at this market's "
      ++ "price decimals." : String) : JsString)
  refuseIf (∃ trigger ∈ triggerPriceInteger, wirePriceMax < trigger)
    (("Lighter order preview refused: triggerPrice exceeds Lighter's uint32 wire bound at this "
      ++ "market's price decimals." : String) : JsString)
  refuseIf (wireBaseAmountMax < baseAmountInteger)
    (("Lighter order preview refused: baseAmount exceeds Lighter's int64 wire bound at this "
      ++ "market's size decimals." : String) : JsString)
  refuseIf (baseAmountInteger < minBaseAmount)
    (("Lighter order preview refused: baseAmount is below market minimum " : JsString)
      ++ market.minBaseAmount ++ ("." : JsString))
  refuseIf (quoteNotionalInteger < minQuoteAmount)
    (("Lighter order preview refused: quote notional is below market minimum " : JsString)
      ++ market.minQuoteAmount ++ ("." : JsString))
  let spotInventoryContext ←
    assertSpotOrderInventory input context baseAmountInteger quoteNotionalInteger
  let positionContext := readPositionContext context.accounts input.accountIndex input.marketId
  refuseIf (input.reduceOnly = true ∧ isReduceOnlyVerifiable input.side positionContext = false)
    (("Lighter order preview refused: reduce-only intent cannot be verified against the live "
      ++ "account position." : String) : JsString)
  assertReduceOnlySize input positionContext
  let bestBid := bestPrice context.bids .bid
  let bestAsk := bestPrice context.asks .ask
  assertProtectiveTriggerDirection input bestBid bestAsk
  let priceComparison :=
    classifyPriceComparison input.side input.orderType input.price bestBid bestAsk
  refuseIf (input.timeInForce = .postOnly ∧ isTriggerLimitOrderType input.orderType = false
      ∧ priceComparison ≠ .resting)
    (("Post-only Lighter preview refused: the approved limit price must be strictly resting "
      ++ "against the live opposite-side best price." : String) : JsString)
  let identity := identityOf input baseAmountInteger priceInteger triggerPriceInteger
  let matchHash := hash (hashMaterial identity)
  .ok
    { matchHash := matchHash
      previewId := ("lop_" : JsString) ++ matchHash.take 24
      identity := identity
      expiresAt := input.nowMs + previewFreshnessMs
      symbol := market.symbol
      marketType := market.marketType
      baseAmount := amountOf baseAmountInteger market.supportedSizeDecimals
      price := amountOf priceInteger market.supportedPriceDecimals
      priceRole := lighterOrderPriceRole input.orderType
      triggerPrice := triggerPriceInteger.map fun trigger =>
        amountOf trigger market.supportedPriceDecimals
      quoteNotional := amountOf quoteNotionalInteger market.supportedQuoteDecimals
      minBaseAmount := amountOf minBaseAmount market.supportedSizeDecimals
      minQuoteAmount := amountOf minQuoteAmount market.supportedQuoteDecimals
      bestBid := bestBid
      bestAsk := bestAsk
      referencePrice := readReferencePrice market
      priceComparison := priceComparison
      positionContext := positionContext
      spotInventoryContext := spotInventoryContext }

end Vex.Lighter.OrderPreview
