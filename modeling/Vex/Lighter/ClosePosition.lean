import Vex.Lighter.OrderPreview

/-!
# Closing a position

`prepareLighterClosePosition` reads the account, the market and one side of the
book, and fixes the terms of an order that closes the whole position: its size as
an integer of the wire and the worst price it may trade at, a slippage away from
the best price of the opposite side (`computeCloseBookEvidence`). The execution
reads the book again and checks with `assertCloseDepthAtApprovedPrice` that the
orders at the approved price or better hold the size.

The integrator fees of the order and the hash of its terms are as the caller gives
them.
-/

namespace Vex.Lighter.ClosePosition

open Vex.Library Vex.Library.JsString
open Vex.Lighter.CapitalShare (Side)
open Vex.Lighter.CapitalSharePolicy (MarketType)
open Vex.Lighter.OrderPreview (MarketStatus IntegratorFees decimalToLighterInteger formatInteger)

/-! ## What is read -/

/-- What is read of a `LighterSimpleOrder`. -/
structure SimpleOrder where
  remainingBaseAmount : JsString
  price : JsString
  deriving DecidableEq

/-- What is read of a `LighterAccountPosition`. -/
structure AccountPosition where
  marketId : Int
  symbol : JsString
  sign : Int
  position : JsString
  avgEntryPrice : JsString
  positionValue : JsString
  unrealizedPnl : JsString
  liquidationPrice : JsString

/-- What is read of a `LighterAccount`. -/
structure Account where
  index : Option Int
  accountIndex : Option Int
  positions : Option (List AccountPosition)

structure Market where
  marketId : Int
  marketType : MarketType
  status : MarketStatus
  supportedSizeDecimals : Int
  supportedPriceDecimals : Int

/-- What is read of `LighterOrderBookOrdersResponse`. -/
structure OrderBook where
  bids : List SimpleOrder
  asks : List SimpleOrder
  deriving DecidableEq

def OrderBook.against (book : OrderBook) : Side → List SimpleOrder
  | .sell => book.bids
  | .buy => book.asks

/-- The input of `prepareLighterClosePosition`. -/
structure Input where
  environment : Environment
  accountIndex : Int
  apiKeyIndex : Int
  marketIndex : Int
  maxSlippageBps : Int

structure Answers where
  accounts : List Account
  markets : List Market
  book : OrderBook

/-! ## The position -/

inductive PositionSide where
  | long
  | short
  deriving DecidableEq

/-- `LighterPositionSnapshot`. -/
structure PositionSnapshot where
  marketIndex : Int
  symbol : JsString
  sign : Int
  side : PositionSide
  position : JsString
  averageEntryPrice : JsString
  positionValue : JsString
  unrealizedPnl : JsString
  liquidationPrice : JsString
  deriving DecidableEq

def positionSnapshotOf (position : AccountPosition) : PositionSnapshot where
  marketIndex := position.marketId
  symbol := position.symbol
  sign := position.sign
  side := if position.sign = 1 then .long else .short
  position := position.position
  averageEntryPrice := position.avgEntryPrice
  positionValue := position.positionValue
  unrealizedPnl := position.unrealizedPnl
  liquidationPrice := position.liquidationPrice

/-- `isPositiveDecimal`: white space around the number is not taken off. -/
def isPositiveDecimal (value : JsString) : Bool :=
  match matchFraction value with
  | none => false
  | some (whole, fraction) => !(whole == [48] && fraction.all (· == 48))

def exactOpenPosition (positions : List AccountPosition) (marketIndex : Int) :
    Except JsString AccountPosition :=
  match positions.filter (·.marketId = marketIndex) with
  | [position] => do
    refuseIf ((position.sign ≠ 1 ∧ position.sign ≠ -1)
        ∨ isPositiveDecimal position.position = false)
      ("The exact Lighter position is flat or has invalid direction evidence." : JsString)
    return position
  | _ => .error ("The exact Lighter position could not be resolved uniquely." : JsString)

/-! ## The book -/

/-- An order of the book as integers of the wire. -/
structure Level where
  priceInteger : Nat
  remainingBaseAmountInteger : Nat
  deriving DecidableEq

/-- The integers of one order: first its price is read, then what remains of it. -/
def readLevel (sizeDecimals priceDecimals : Int) (order : SimpleOrder) : Except JsString Level := do
  let priceInteger ← decimalToLighterInteger order.price priceDecimals "order book price" false
  let remaining ← decimalToLighterInteger order.remainingBaseAmount sizeDecimals
    "order book remaining amount" true
  return ⟨priceInteger, remaining⟩

/-- `orders.map`, which the first order that cannot be read stops. -/
def readLevels (sizeDecimals priceDecimals : Int) : List SimpleOrder → Except JsString (List Level)
  | [] => .ok []
  | order :: orders => do
    let level ← readLevel sizeDecimals priceDecimals order
    let levels ← readLevels sizeDecimals priceDecimals orders
    return level :: levels

def bestPriceInteger (side : Side) (levels : List Level) : Nat :=
  match side with
  | .sell => levels.foldl
      (fun best level => if best < level.priceInteger then level.priceInteger else best) 0
  | .buy => levels.foldl
      (fun best level => if best = 0 ∨ level.priceInteger < best then level.priceInteger else best) 0

/-- The worst acceptable price in ticks: `BigInt` division drops what is behind the point. -/
def worstAcceptablePriceInteger (side : Side) (bestPriceInteger : Nat) (bps : Int) : Int :=
  let denominator := 10000
  match side with
  | .sell => (bestPriceInteger * (denominator - bps)).tdiv denominator
  | .buy => (bestPriceInteger * (denominator + bps) + denominator - 1).tdiv denominator

/-- A price is the bound or better for who trades on a side. -/
def AtOrBetter (side : Side) (priceInteger bound : Int) : Prop :=
  match side with
  | .sell => bound ≤ priceInteger
  | .buy => priceInteger ≤ bound

instance (side : Side) (priceInteger bound : Int) : Decidable (AtOrBetter side priceInteger bound) := by
  unfold AtOrBetter
  cases side <;> exact inferInstance

def held (levels : List Level) : Nat := (levels.map (·.remainingBaseAmountInteger)).sum

/-- The evidence of `computeCloseBookEvidence`. -/
structure BookEvidence where
  bestPriceInteger : JsString
  worstAcceptablePriceInteger : JsString
  availableBaseAmountInteger : JsString
  requiredBaseAmountInteger : JsString
  eligibleOrderCount : Nat
  fetchedOrderCount : Nat
  maxSlippageBps : Int
  deriving DecidableEq

def computeCloseBookEvidence (side : Side) (orders : List SimpleOrder)
    (requiredBaseAmountInteger : Nat) (sizeDecimals priceDecimals maxSlippageBps : Int) :
    Except JsString (Nat × BookEvidence) := do
  let read ← readLevels sizeDecimals priceDecimals orders
  let levels := read.filter (0 < ·.remainingBaseAmountInteger)
  refuseIf (levels.length = 0)
    ("The live Lighter order book has no executable close liquidity." : JsString)
  let best := bestPriceInteger side levels
  let worst := worstAcceptablePriceInteger side best maxSlippageBps
  refuseIf (worst < 1 ∨ 2 ^ 32 - 1 < worst)
    ("The slippage-bounded close price is outside Lighter's official price range." : JsString)
  let eligible := levels.filter (AtOrBetter side ·.priceInteger worst)
  refuseIf (held eligible < requiredBaseAmountInteger)
    ("The live order book cannot close the full position within the explicitly approved slippage ceiling."
      : JsString)
  return (worst.toNat,
    { bestPriceInteger := ofNat best
      worstAcceptablePriceInteger := ofNat worst.toNat
      availableBaseAmountInteger := ofNat (held eligible)
      requiredBaseAmountInteger := ofNat requiredBaseAmountInteger
      eligibleOrderCount := eligible.length
      fetchedOrderCount := orders.length
      maxSlippageBps })

/-! ## The terms -/

structure Terms where
  integratorFees : Option IntegratorFees
  environment : Environment
  accountIndex : Int
  apiKeyIndex : Int
  marketIndex : Int
  position : PositionSnapshot
  closingSide : Side
  baseAmountInteger : JsString
  priceInteger : JsString
  maxSlippageBps : Int
  sizeDecimals : Int
  priceDecimals : Int
  bookEvidence : BookEvidence
  deriving DecidableEq

/-- `LighterClosePositionPreparation`. -/
structure Preparation extends Terms where
  baseAmount : JsString
  worstAcceptablePrice : JsString
  matchHash : JsString
  deriving DecidableEq

def Account.isIndexed (account : Account) (accountIndex : Int) : Bool :=
  account.index.or account.accountIndex = some accountIndex

def prepareLighterClosePosition (lifecycleMatchHash : Terms → JsString)
    (integratorFees : Option IntegratorFees) (input : Input) (answers : Answers) :
    Except JsString Preparation := do
  refuseIf (input.maxSlippageBps < 1 ∨ 500 < input.maxSlippageBps)
    ("maxSlippageBps must be an explicit integer from 1 through 500." : JsString)
  match answers.accounts.filter (·.isIndexed input.accountIndex) with
  | [account] =>
    match answers.markets.find? (·.marketId = input.marketIndex) with
    | none => .error ("The exact active Lighter perpetual market could not be resolved." : JsString)
    | some market => do
      refuseIf (market.marketType ≠ .perp ∨ market.status ≠ .active)
        ("The exact active Lighter perpetual market could not be resolved." : JsString)
      let position ← exactOpenPosition (account.positions.getD []) input.marketIndex
      let baseAmountInteger ← decimalToLighterInteger position.position
        market.supportedSizeDecimals "provider position" false
      refuseIf (2 ^ 48 - 1 < baseAmountInteger)
        ("The live position exceeds Lighter's official create-order amount range." : JsString)
      let closingSide : Side := if position.sign = 1 then .sell else .buy
      let (worst, evidence) ← computeCloseBookEvidence closingSide
        (answers.book.against closingSide) baseAmountInteger market.supportedSizeDecimals
        market.supportedPriceDecimals input.maxSlippageBps
      let terms : Terms :=
        { integratorFees
          environment := input.environment
          accountIndex := input.accountIndex
          apiKeyIndex := input.apiKeyIndex
          marketIndex := input.marketIndex
          position := positionSnapshotOf position
          closingSide
          baseAmountInteger := ofNat baseAmountInteger
          priceInteger := ofNat worst
          maxSlippageBps := input.maxSlippageBps
          sizeDecimals := market.supportedSizeDecimals
          priceDecimals := market.supportedPriceDecimals
          bookEvidence := evidence }
      return { toTerms := terms
               baseAmount := formatInteger baseAmountInteger market.supportedSizeDecimals.toNat
               worstAcceptablePrice := formatInteger worst market.supportedPriceDecimals.toNat
               matchHash := lifecycleMatchHash terms }
  | _ => .error ("The exact Lighter account could not be resolved uniquely." : JsString)

/-! ## The check of the execution -/

/-- The loop of `assertCloseDepthAtApprovedPrice`. -/
def availableAt (side : Side) (approvedPriceInteger : Nat) (sizeDecimals priceDecimals : Int) :
    List SimpleOrder → Nat → Except JsString Nat
  | [], available => .ok available
  | order :: orders, available => do
    let price ← decimalToLighterInteger order.price priceDecimals "order book price" false
    let amount ← decimalToLighterInteger order.remainingBaseAmount sizeDecimals
      "order book remaining amount" true
    availableAt side approvedPriceInteger sizeDecimals priceDecimals orders
      (if AtOrBetter side price approvedPriceInteger then available + amount else available)

def assertCloseDepthAtApprovedPrice (side : Side) (orders : List SimpleOrder)
    (requiredBaseAmountInteger approvedPriceInteger : Nat) (sizeDecimals priceDecimals : Int) :
    Except JsString Unit := do
  let available ← availableAt side approvedPriceInteger sizeDecimals priceDecimals orders 0
  refuseIf (available < requiredBaseAmountInteger)
    ("The refreshed order book cannot close the full position at the approved worst price."
      : JsString)

/-- The check with the approved terms: the integers are read back from their texts by `BigInt`. -/
def Terms.assertDepth (terms : Terms) (book : OrderBook) : Except JsString Unit :=
  assertCloseDepthAtApprovedPrice terms.closingSide (book.against terms.closingSide)
    (decimalValue terms.baseAmountInteger) (decimalValue terms.priceInteger) terms.sizeDecimals
    terms.priceDecimals

end Vex.Lighter.ClosePosition
