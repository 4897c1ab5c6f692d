import Vex.Library.DecimalText
import Vex.Lighter.Basic

/-!
# Fill records

One trade record of the provider, read for the account that took part in it, is one fill
record: its identity, its economics, the account's own half of it where the record carries
that half, and the fee figures. The half and the effect the fill had on the position come
together, since the effect is classified from the half and from the economics.

Amounts are decimal strings and stay exact: products and fee estimates are computed on
integers and written back.
-/

namespace Vex.Lighter.Fills

open Vex.Library

/-! ## Decimal strings -/

/-- `/^[0-9]+(\.[0-9]+)?$/`: the whole part and the fraction, which may be missing. -/
def wholeAndFraction (value : JsString) : Option (JsString × JsString) :=
  let whole := value.takeWhile JsString.isDigit
  if whole = [] then none
  else
    match value.dropWhile JsString.isDigit with
    | [] => some (whole, [])
    | unit :: fraction =>
      if unit = 46 ∧ fraction ≠ [] ∧ fraction.all JsString.isDigit then some (whole, fraction)
      else none

/-- A string without its minus sign, and whether it had one. -/
def unsigned : JsString → Bool × JsString
  | 45 :: rest => (true, rest)
  | value => (false, value)

/-- The units and the decimals of a string of the form `DECIMAL`, that is
`/^(0|[1-9][0-9]*)(\.[0-9]+)?$/`. -/
def splitDecimal (value : JsString) : Option (Nat × Nat) :=
  (wholeAndFraction value).bind fun (whole, fraction) =>
    if whole.isCanonicalDecimal then some ((whole ++ fraction).decimalValue, fraction.length)
    else none

/-- The same of a string of the form `SIGNED_DECIMAL`. -/
def parseSignedDecimal (value : JsString) : Option (Int × Nat) :=
  let (negative, rest) := unsigned value
  (splitDecimal rest).map fun (units, decimals) =>
    (if negative then -(units : Int) else units, decimals)

/-- `value.padStart(length, "0")`. -/
def padStart (value : JsString) (length : Nat) : JsString :=
  List.replicate (length - value.length) 48 ++ value

def multiplyDecimals (a b : JsString) : Option JsString := do
  let (leftUnits, leftDecimals) ← splitDecimal a
  let (rightUnits, rightDecimals) ← splitDecimal b
  let product := leftUnits * rightUnits
  let scale := leftDecimals + rightDecimals
  if scale = 0 then return JsString.ofNat product
  let text := padStart (JsString.ofNat product) (scale + 1)
  let whole := text.take (text.length - scale)
  let fraction := (text.drop (text.length - scale)).rdropWhile (· = 48)
  return if fraction = [] then whole else whole ++ 46 :: fraction

def isFeeTick (tick : Int) : Bool := 0 ≤ tick && tick ≤ 1000000

def estimateIntegratorFeeRaw (basis : JsString) (feeTick feeAssetDecimals : Int) :
    Option JsString :=
  if ¬ isFeeTick feeTick ∨ feeAssetDecimals < 0 ∨ feeAssetDecimals > 36 then none
  else
    (splitDecimal basis).map fun (units, decimals) =>
      JsString.ofNat (units * feeTick.toNat * 10 ^ feeAssetDecimals.toNat /
        (1000000 * 10 ^ decimals))

def estimateFeeUsd (usdAmount : JsString) (feeTick : Option Int) : Option JsString :=
  (feeTick.filter isFeeTick).bind fun feeTick =>
    (splitDecimal usdAmount).map fun (units, decimals) =>
      let micros := units * feeTick.toNat * 10 ^ 6 / (1000000 * 10 ^ decimals)
      let text := padStart (JsString.ofNat micros) 7
      text.take (text.length - 6) ++ 46 :: text.drop (text.length - 6)

/-! ## What the provider reports -/

inductive Side where
  | buy
  | sell
  deriving DecidableEq

inductive FeeSide where
  | maker
  | taker
  deriving DecidableEq

/-- `LighterTradeType`. -/
inductive TradeType where
  | trade
  | liquidation
  | deleverage
  | marketSettlement
  deriving DecidableEq

/-- What a fill is built from of a `LighterTrade`. -/
structure Trade where
  tradeIdStr : JsString
  type : TradeType
  size : JsString
  price : JsString
  usdAmount : JsString
  askIdStr : JsString
  bidIdStr : JsString
  askAccountId : Int
  bidAccountId : Int
  isMakerAsk : Bool
  blockHeight : Int
  timestamp : Int
  transactionTime : Option Int
  integratorMakerFee : Option Int
  integratorTakerFee : Option Int
  takerFee : Option Int
  makerFee : Option Int
  takerPositionSizeBefore : Option JsString
  takerEntryQuoteBefore : Option JsString
  takerInitialMarginFractionBefore : Option Int
  takerPositionSignChanged : Option Bool
  makerPositionSizeBefore : Option JsString
  makerEntryQuoteBefore : Option JsString
  makerInitialMarginFractionBefore : Option Int
  makerPositionSignChanged : Option Bool
  askAccountPnl : Option JsString
  bidAccountPnl : Option JsString

/-- `LighterVenueAssetRef`. -/
structure VenueAssetRef where
  venueAssetId : JsString
  symbol : JsString
  decimals : Int
  deriving DecidableEq

/-- `LighterMarketAssets`. -/
structure MarketAssets where
  marketSymbol : JsString
  baseAsset : VenueAssetRef
  quoteAsset : VenueAssetRef
  deriving DecidableEq

/-- `LighterFillFeeTerms`. -/
structure FillFeeTerms where
  integratorMakerFeeTick : Option Int
  integratorTakerFeeTick : Option Int
  collectorAccountIndex : Option Int
  feeAuthorizationIntentId : Option JsString
  feeAsset : Option VenueAssetRef

/-- `LighterFillIntentFacts`. -/
structure FillIntentFacts where
  intentId : JsString
  environment : Environment
  accountIndex : Int
  marketIndex : Int
  side : Side
  clientOrderIndex : Option JsString

/-- `LighterFillObservationScope`. -/
structure FillObservationScope where
  environment : Environment
  accountIndex : Int
  marketIndex : Int
  deriving DecidableEq

/-! ## The account's own half -/

/-- `LighterPositionEffect`. -/
inductive PositionEffect where
  | open
  | increase
  | reduce
  | close
  | flip
  | unknown
  deriving DecidableEq

/-- `LighterAccountFillFacts`. -/
structure AccountFillFacts where
  positionSizeBefore : JsString
  positionSignChanged : Bool
  entryQuoteBefore : Option JsString
  accountPnl : JsString
  initialMarginFractionBefore : Option Int

def signedDecimal (value : Option JsString) : Option JsString :=
  value.filter fun value => (parseSignedDecimal value).isSome

/-- `readLighterAccountFillFacts`. -/
def readAccountFillFacts (trade : Trade) (role : FeeSide) (side : Side) :
    Option AccountFillFacts := do
  let maker := role = .maker
  let positionSizeBefore ← signedDecimal
    (if maker then trade.makerPositionSizeBefore else trade.takerPositionSizeBefore)
  let positionSignChanged ←
    if maker then trade.makerPositionSignChanged else trade.takerPositionSignChanged
  let accountPnl ← signedDecimal (if side = .sell then trade.askAccountPnl else trade.bidAccountPnl)
  return {
    positionSizeBefore := positionSizeBefore
    positionSignChanged := positionSignChanged
    entryQuoteBefore := signedDecimal
      (if maker then trade.makerEntryQuoteBefore else trade.takerEntryQuoteBefore)
    accountPnl := accountPnl
    initialMarginFractionBefore :=
      (if maker then trade.makerInitialMarginFractionBefore
        else trade.takerInitialMarginFractionBefore).filter fun fraction => 0 ≤ fraction }

/-- `classifyLighterPositionEffect`. -/
def classifyPositionEffect (positionSizeBefore : JsString) (positionSignChanged : Bool)
    (fillBaseSize : JsString) (side : Side) : PositionEffect :=
  match parseSignedDecimal positionSizeBefore, parseSignedDecimal fillBaseSize with
  | some (before, beforeDecimals), some (size, sizeDecimals) =>
    if size < 0 then .unknown
    else
      let scale := max beforeDecimals sizeDecimals
      let beforeUnits := before * 10 ^ (scale - beforeDecimals)
      let sizeUnits := size * 10 ^ (scale - sizeDecimals)
      let delta := if side = .buy then sizeUnits else -sizeUnits
      if beforeUnits = 0 then if delta = 0 then .unknown else .open
      else if delta = 0 then .unknown
      else if (0 < beforeUnits) = (0 < delta) then
        if positionSignChanged then .unknown else .increase
      -- The magnitudes decide, and the flag has to agree with them.
      else if delta.natAbs < beforeUnits.natAbs then
        if positionSignChanged then .unknown else .reduce
      else if delta.natAbs = beforeUnits.natAbs then
        if positionSignChanged then .close else .unknown
      else if positionSignChanged then .flip else .unknown
  | _, _ => .unknown

/-! ## Identity -/

def environmentText : Environment → JsString
  | .core => "core"
  | .rhc => "rhc"

/-- `lighterFillIdentity`. -/
def fillIdentity (environment : Environment) (accountIndex marketIndex : Int)
    (providerTradeId : JsString) : JsString :=
  ("lighter" : JsString) ++ 58 :: (environmentText environment ++
    58 :: (JsString.ofInt accountIndex ++ 58 :: (JsString.ofInt marketIndex ++
      58 :: providerTradeId)))

/-! ## The record -/

inductive EstimateBasis where
  | quoteNotional
  | receivedBase
  deriving DecidableEq

/-- Which tick an integrator estimate was computed from. -/
inductive TickSource where
  | observed
  | authorized
  deriving DecidableEq

/-- The integrator fee estimate: the amount, its basis and the source of its tick are known
together. -/
structure FeeEstimate where
  raw : JsString
  basis : EstimateBasis
  tickSource : TickSource
  deriving DecidableEq

/-- The effect of a fill on the account whose half of it is known. -/
def effectOf (accountFacts : Option AccountFillFacts) (baseSize : JsString) (side : Side) :
    Option PositionEffect :=
  accountFacts.map fun facts =>
    classifyPositionEffect facts.positionSizeBefore facts.positionSignChanged baseSize side

/-- `LighterFillRecord`. Its identity is the one spelling of its tuple, and its effect is
classified from the account's half. -/
structure FillRecord where
  canonicalIdentity : JsString
  environment : Environment
  accountIndex : Int
  marketIndex : Int
  providerTradeId : JsString
  providerOrderId : Option JsString
  clientOrderId : Option JsString
  executionIntentId : Option JsString
  marketSymbol : JsString
  side : Side
  price : JsString
  baseSize : JsString
  quoteNotional : JsString
  baseAsset : VenueAssetRef
  quoteAsset : VenueAssetRef
  blockHeight : JsString
  tradeType : TradeType
  tradedAt : Instant
  transactionTimeUs : Option JsString
  usdAmount : JsString
  accountFacts : Option AccountFillFacts
  positionEffect : Option PositionEffect
  feeSide : FeeSide
  integratorFeeTickAuthorized : Option Int
  integratorFeeTickObserved : Option Int
  integratorFeeAsset : Option VenueAssetRef
  integratorFeeEstimate : Option FeeEstimate
  integratorFeeChargedRaw : Option JsString
  exchangeFeeTickObserved : Option Int
  exchangeFeeChargedRaw : Option JsString
  integratorFeeEstimatedUsd : Option JsString
  exchangeFeeEstimatedUsd : Option JsString
  collectorAccountIndex : Option Int
  feeAuthorizationIntentId : Option JsString
  spot : Bool
  identity : canonicalIdentity = fillIdentity environment accountIndex marketIndex providerTradeId
  effect : positionEffect = effectOf accountFacts baseSize side

/-- `LighterFillBuildFailure`. -/
inductive FillBuildFailure where
  | malformedAmount
  | missingTradeIdentity
  | missingObservationScope
  | accountNotPartyToTrade
  deriving DecidableEq

/-- `LIGHTER_SPOT_MARKET_INDEX_FLOOR`. -/
def spotMarketIndexFloor : Int := 2048

/-- The last time a `Date` can hold, in milliseconds. -/
def maxDateMs : Int := 8640000000000000

def tradeSideForAccount (trade : Trade) (accountIndex : Int) : Option Side :=
  let isAsk : Bool := trade.askAccountId = accountIndex
  let isBid : Bool := trade.bidAccountId = accountIndex
  if isAsk = isBid then none else some (if isAsk then .sell else .buy)

def nonEmpty (value : JsString) : Option JsString := if value = [] then none else some value

/-- `integerString`, of a number. -/
def integerString (value : Int) : Option JsString :=
  if 0 ≤ value ∧ value ≤ Params.maxSafeInteger then some (JsString.ofNat value.toNat) else none

/-- `epochMillisecondsIso`: the instant its text denotes. -/
def epochMilliseconds (value : Int) : Option Instant :=
  if 0 < value ∧ value ≤ maxDateMs then some value else none

def feeRateTick (value : Option Int) : Option Int := value.filter isFeeTick

/-- `buildLighterFillRecord`. -/
def buildFillRecord (trade : Trade) (intent : Option FillIntentFacts)
    (observation : Option FillObservationScope) (market : MarketAssets)
    (feeTerms : FillFeeTerms) : Except FillBuildFailure FillRecord :=
  let scope : Option FillObservationScope := intent.elim observation fun intent =>
    some ⟨intent.environment, intent.accountIndex, intent.marketIndex⟩
  match scope with
  | none => .error .missingObservationScope
  | some scope =>
  match intent.elim (tradeSideForAccount trade scope.accountIndex) fun intent => some intent.side with
  | none => .error .accountNotPartyToTrade
  | some side =>
  match nonEmpty trade.tradeIdStr, integerString trade.blockHeight,
    epochMilliseconds trade.timestamp with
  | some providerTradeId, some blockHeight, some tradedAt =>
    match splitDecimal trade.usdAmount, multiplyDecimals trade.size trade.price with
    | some _, some quoteNotional =>
      let maker : Bool := if side = .sell then trade.isMakerAsk else !trade.isMakerAsk
      let feeSide : FeeSide := if maker then .maker else .taker
      let spot : Bool := scope.marketIndex ≥ spotMarketIndexFloor
      let accountFacts := readAccountFillFacts trade feeSide side
      -- A spot buy is charged on the received base, every other fill on the quote notional.
      let receivedBase : Bool := spot && side = .buy
      let authorized :=
        if maker then feeTerms.integratorMakerFeeTick else feeTerms.integratorTakerFeeTick
      let observed := feeRateTick
        (if maker then trade.integratorMakerFee else trade.integratorTakerFee)
      let exchange := feeRateTick (if maker then trade.makerFee else trade.takerFee)
      let estimateTick := observed <|> authorized
      let estimate := estimateTick.bind fun tick => feeTerms.feeAsset.bind fun asset =>
        estimateIntegratorFeeRaw (if receivedBase then trade.size else quoteNotional) tick
          asset.decimals
      .ok {
        canonicalIdentity :=
          fillIdentity scope.environment scope.accountIndex scope.marketIndex providerTradeId
        environment := scope.environment
        accountIndex := scope.accountIndex
        marketIndex := scope.marketIndex
        providerTradeId := providerTradeId
        providerOrderId :=
          nonEmpty (if side = .buy then trade.bidIdStr else trade.askIdStr)
        clientOrderId := intent.bind FillIntentFacts.clientOrderIndex
        executionIntentId := intent.map FillIntentFacts.intentId
        marketSymbol := market.marketSymbol
        side := side
        price := trade.price
        baseSize := trade.size
        quoteNotional := quoteNotional
        baseAsset := market.baseAsset
        quoteAsset := market.quoteAsset
        blockHeight := blockHeight
        tradeType := trade.type
        tradedAt := tradedAt
        transactionTimeUs := trade.transactionTime.bind integerString
        usdAmount := trade.usdAmount
        accountFacts := accountFacts
        positionEffect := effectOf accountFacts trade.size side
        feeSide := feeSide
        integratorFeeTickAuthorized := authorized
        integratorFeeTickObserved := observed
        integratorFeeAsset := estimate.bind fun _ => feeTerms.feeAsset
        integratorFeeEstimate := estimate.map fun raw =>
          ⟨raw, if receivedBase then .receivedBase else .quoteNotional,
            if observed.isSome then .observed else .authorized⟩
        integratorFeeChargedRaw := none
        exchangeFeeTickObserved := exchange
        exchangeFeeChargedRaw := none
        integratorFeeEstimatedUsd :=
          if receivedBase then none else estimateFeeUsd trade.usdAmount estimateTick
        exchangeFeeEstimatedUsd := estimateFeeUsd trade.usdAmount exchange
        collectorAccountIndex := feeTerms.collectorAccountIndex
        feeAuthorizationIntentId := feeTerms.feeAuthorizationIntentId
        spot := spot
        identity := rfl
        effect := rfl }
    | _, _ => .error .malformedAmount
  | _, _, _ => .error .missingTradeIdentity

end Vex.Lighter.Fills
