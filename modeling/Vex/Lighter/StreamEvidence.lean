import Vex.Library.LetterCase
import Vex.Lighter.OrderPreview

/-!
# Evidence of the account stream

Frames of the account stream carry orders, trades or positions of one account.
`lifecycleOutcome` reads a frame for one approved lifecycle intent: what it
matches by exact identity is merged into the evidence stored with the intent, and
the evidence says whether the intent is done. The next frame finds the evidence
where this one left it.

The evidence is a record of fields that may be missing, as the frames write them.
The rows kept in it are bounded; the ids and the counts beside them are not. The
identities of orders and trades are strings of digits, which the validation of a
frame has checked.
-/

namespace Vex.Lighter.StreamEvidence

open Vex.Library Vex.Library.JsString
open Vex.Lighter.CapitalShare (Side)
open Vex.Lighter.OrderPreview (decimalToLighterInteger)
open Vex.Lighter.LifecycleIntents (Action ExecutionState OutcomeState)

/-- A string of digits: `integerString`. -/
abbrev IntegerString := {text : JsString // text.isDecimal = true}

/-! ## Frames -/

/-- What is read of a `LighterAccountOrder`. -/
structure AccountOrder where
  orderId : IntegerString
  clientOrderId : IntegerString
  marketIndex : Int
  ownerAccountIndex : Int
  status : Option JsString
  initialBaseAmount : JsString
  remainingBaseAmount : Option JsString
  filledBaseAmount : Option JsString
  filledQuoteAmount : Option JsString
  price : JsString
  deriving DecidableEq

/-- What is read of a `LighterTrade`. -/
structure Trade where
  tradeIdStr : IntegerString
  txHash : JsString
  marketId : Int
  size : JsString
  price : JsString
  askIdStr : IntegerString
  bidIdStr : IntegerString
  askAccountId : Int
  bidAccountId : Int
  askClientIdStr : Option IntegerString
  bidClientIdStr : Option IntegerString
  deriving DecidableEq

/-- What is read of a `LighterAccountPosition`. -/
structure AccountPosition where
  marketId : Int
  symbol : JsString
  sign : Int
  position : JsString
  avgEntryPrice : JsString
  positionValue : JsString
  unrealizedPnl : JsString
  realizedPnl : JsString
  liquidationPrice : JsString
  deriving DecidableEq

inductive Trades where
  | list (trades : List Trade)
  | byMarket (trades : List (JsString × List Trade))
  deriving DecidableEq

/-- `LighterAccountStreamMessage`; `subscribed` where the type of the frame says so. -/
inductive Message where
  | orders (orders : List (JsString × List AccountOrder))
  | trades (subscribed : Bool) (trades : Trades)
  | positions (subscribed : Bool) (positions : List (JsString × AccountPosition))
  deriving DecidableEq

def Message.type : Message → JsString
  | .orders _ => "update/account_all_orders"
  | .trades true _ => "subscribed/account_all_trades"
  | .trades false _ => "update/account_all_trades"
  | .positions true _ => "subscribed/account_all_positions"
  | .positions false _ => "update/account_all_positions"

def flattenOrders (orders : List (JsString × List AccountOrder)) : List AccountOrder :=
  orders.flatMap (·.2)

def flattenTrades : Trades → List Trade
  | .list trades => trades
  | .byMarket trades => trades.flatMap (·.2)

/-! ## The intent -/

structure Target where
  orderId : JsString
  marketIndex : Int
  deriving DecidableEq

/-- What is read of the row of a lifecycle intent besides its state and its evidence. The parts of
`providerSnapshotJson` are there where the snapshot has them as the type read. -/
structure Intent where
  actionType : Action
  accountIndex : Int
  marketIndex : Option Int
  providerOrderId : Option JsString
  matchHash : JsString
  requestedSide : Option Side
  requestedBaseAmountInteger : Option JsString
  requestedPriceInteger : Option JsString
  /-- `approvedCancelAllTargets`. -/
  approvedCancelAllTargets : List Target
  initialPosition : Option JsString
  initialSign : Option Int
  marketSizeDecimals : Option Int
  marketPriceDecimals : Option Int

/-! ## Evidence -/

structure OrderEvidence where
  orderId : IntegerString
  clientOrderId : IntegerString
  marketIndex : Int
  status : JsString
  initialBaseAmount : JsString
  remainingBaseAmount : JsString
  filledBaseAmount : JsString
  filledQuoteAmount : JsString
  price : JsString
  deriving DecidableEq

def orderEvidence (order : AccountOrder) : OrderEvidence where
  orderId := order.orderId
  clientOrderId := order.clientOrderId
  marketIndex := order.marketIndex
  status := order.status.getD ""
  initialBaseAmount := order.initialBaseAmount
  remainingBaseAmount := order.remainingBaseAmount.getD "0"
  filledBaseAmount := order.filledBaseAmount.getD "0"
  filledQuoteAmount := order.filledQuoteAmount.getD "0"
  price := order.price

structure TradeEvidence where
  tradeId : IntegerString
  orderId : IntegerString
  size : JsString
  price : JsString
  txHash : JsString
  deriving DecidableEq

/-- The results a terminal order is named by. -/
inductive Disposition where
  | canceled
  | targetAlreadyTerminal
  | modified
  | closed
  | partiallyClosed
  | notClosed
  | awaitingCorrelatedOrderAndPosition
  deriving DecidableEq

/-- The evidence stored with an intent: a field is missing until a frame writes it. -/
structure Evidence where
  terminalOrders : Option (List OrderEvidence) := none
  terminalOrderIds : Option (List IntegerString) := none
  terminalOrdersRetained : Option Nat := none
  terminalOrdersTotal : Option Nat := none
  terminalOrdersDropped : Option Nat := none
  terminalOrdersTruncated : Option Bool := none
  targetCount : Option Nat := none
  trades : Option (List TradeEvidence) := none
  tradesRetained : Option Nat := none
  tradesTotal : Option Nat := none
  tradesDropped : Option Nat := none
  tradesTruncated : Option Bool := none
  terminalOrder : Option OrderEvidence := none
  modifiedOrder : Option OrderEvidence := none
  closeOrder : Option OrderEvidence := none
  /-- `positionEvidence`: the position as the frame has it. -/
  resultingPosition : Option AccountPosition := none
  disposition : Option Disposition := none
  lastFrameType : Option JsString := none
  deriving DecidableEq

/-- What stands in the outcome column: evidence of the stream, or another writer's record. -/
inductive StoredOutcome where
  | stream (evidence : Evidence)
  | other (record : JsString)
  deriving DecidableEq

def previousLifecycleEvidence : Option StoredOutcome → Evidence
  | some (.stream evidence) => evidence
  | _ => {}

/-- `LIGHTER_LIFECYCLE_EVIDENCE_MAX_ROWS`. -/
def evidenceMaxRows : Nat := 100

/-- `readEvidenceArray`: the rows within the bound and how many it left out. The ids of the rows
are digits, so none is passed over. -/
def readEvidenceArray {ρ : Type} (value : Option (List ρ)) : List ρ × Nat :=
  ((value.getD []).take evidenceMaxRows, (value.getD []).length - evidenceMaxRows)

def readCount (value : Option Nat) : Nat := value.getD 0

/-! ## What a frame is read with -/

/-- The functions around the reading: letter case, the client id derived from the match hash, and
whether evidence is small enough for its column. -/
structure Reader where
  letters : LowerCase
  deriveVexAssignedClientOrderIndex : JsString → JsString
  stores : Evidence → Bool

variable (reader : Reader)

def isCanceledStatus (status : Option JsString) : Bool :=
  match status.map reader.letters.normalize with
  | none => false
  | some normalized => startsWith normalized "canceled" || includes normalized "expire"

def isTerminalStatus (status : Option JsString) : Bool :=
  status.map reader.letters.normalize = some ("filled" : JsString)
    || isCanceledStatus reader (status.map reader.letters.normalize)

/-! ## Cancel all -/

/-- `new Map().set`: an entry takes the place of the one of its key. -/
def setEntry (entries : List OrderEvidence) (entry : OrderEvidence) : List OrderEvidence :=
  if entries.any (·.orderId = entry.orderId) then
    entries.map fun other => if other.orderId = entry.orderId then entry else other
  else entries ++ [entry]

/-- `new Set().add`. -/
def addId (ids : List IntegerString) (id : IntegerString) : List IntegerString :=
  if id ∈ ids then ids else ids ++ [id]

def compareUnits (left right : IntegerString) : Int :=
  if left.1 < right.1 then -1 else if right.1 < left.1 then 1 else 0

def names (intent : Intent) (target : Target) (order : AccountOrder) : Bool :=
  order.ownerAccountIndex = intent.accountIndex && order.marketIndex = target.marketIndex
    && order.orderId.1 = target.orderId

/-- The variables of the loop over the targets. -/
structure Confirming where
  matched : Bool
  terminal : List OrderEvidence
  confirmedIds : List IntegerString
  deriving DecidableEq

def confirmTarget (intent : Intent) (orders : List AccountOrder) (c : Confirming)
    (target : Target) : Confirming :=
  match orders.find? (names intent target) with
  | none => c
  | some order =>
    if isTerminalStatus reader order.status then
      ⟨true, setEntry c.terminal (orderEvidence order), addId c.confirmedIds order.orderId⟩
    else c

/-- What the loop starts from: the ids stored and those of the rows stored. -/
def confirmingOf (previous : Evidence) : Confirming :=
  let terminal := (readEvidenceArray previous.terminalOrders).1.foldl setEntry []
  ⟨false, terminal,
    (terminal.map (·.orderId)).foldl addId ((previous.terminalOrderIds.getD []).foldl addId [])⟩

/-- The arm of `lifecycleOrderOutcome` for `cancel_all`. -/
def cancelAllOutcome (intent : Intent) (message : Message) (orders : List AccountOrder)
    (previous : Evidence) : Option (OutcomeState × Evidence) :=
  let targets := intent.approvedCancelAllTargets
  let confirmed := targets.foldl (confirmTarget reader intent orders) (confirmingOf previous)
  if confirmed.matched = false then none
  else
    let ordered := sortBy (fun left right => compareUnits left.orderId right.orderId)
      confirmed.terminal
    let terminalOrders := ordered.drop (ordered.length - evidenceMaxRows)
    let total := confirmed.confirmedIds.length
    some (if targets.length ≤ total then .completed else .sequencerPending, { previous with
        terminalOrders := some terminalOrders
        terminalOrderIds := some (sortBy compareUnits confirmed.confirmedIds)
        terminalOrdersRetained := some terminalOrders.length
        terminalOrdersTotal := some total
        terminalOrdersDropped := some ((readEvidenceArray previous.terminalOrders).2
          + (ordered.length - terminalOrders.length))
        terminalOrdersTruncated := some (decide (terminalOrders.length < total))
        targetCount := some targets.length
        lastFrameType := some message.type })

/-! ## One order -/

def confirmedLighterCloseDisposition (initialPosition : Option JsString) (initialSign : Option Int)
    (filledAmount resultingPosition : Option JsString) (resultingSign sizeDecimals : Option Int) :
    Option Disposition := do
  let initialPosition ← initialPosition
  let filledAmount ← filledAmount
  let resultingPosition ← resultingPosition
  let sizeDecimals ← sizeDecimals
  let sign ← initialSign
  if sign ≠ 1 ∧ sign ≠ -1 then none
  else
    let initial ← (decimalToLighterInteger initialPosition sizeDecimals "initial position"
      false).toOption
    let filled ← (decimalToLighterInteger filledAmount sizeDecimals "filled amount" true).toOption
    let remaining ← (decimalToLighterInteger resultingPosition sizeDecimals "resulting position"
      true).toOption
    if initial < filled ∨ remaining ≠ initial - filled then none
    else if 0 < remaining ∧ resultingSign ≠ initialSign then none
    else if remaining = 0 then some .closed
    else if filled = 0 then some .notClosed
    else some .partiallyClosed

def finishCloseOutcome (intent : Intent) (detail : Evidence) : OutcomeState × Evidence :=
  let disposition := confirmedLighterCloseDisposition intent.initialPosition intent.initialSign
    (detail.closeOrder.map (·.filledBaseAmount)) (detail.resultingPosition.map (·.position))
    (detail.resultingPosition.map (·.sign)) intent.marketSizeDecimals
  (if disposition = none then .sequencerPending else .completed, { detail with
      disposition := some (disposition.getD .awaitingCorrelatedOrderAndPosition) })

def matchesRequestedModification (intent : Intent) (order : AccountOrder) : Bool :=
  match intent.marketSizeDecimals, intent.marketPriceDecimals with
  | some sizeDecimals, some priceDecimals =>
    (decimalToLighterInteger order.initialBaseAmount sizeDecimals "stream order amount"
        false).toOption.map ofNat = intent.requestedBaseAmountInteger
      && (decimalToLighterInteger order.price priceDecimals "stream order price"
        false).toOption.map ofNat = intent.requestedPriceInteger
      && intent.requestedBaseAmountInteger.isSome && intent.requestedPriceInteger.isSome
  | _, _ => false

def lifecycleOrderOutcome (intent : Intent) (message : Message)
    (byMarket : List (JsString × List AccountOrder)) (previous : Evidence) :
    Option (OutcomeState × Evidence) :=
  let orders := flattenOrders byMarket
  if intent.actionType = .cancelAll then cancelAllOutcome reader intent message orders previous
  else
    intent.marketIndex.bind fun marketIndex =>
      let order := orders.find? fun candidate =>
        candidate.ownerAccountIndex = intent.accountIndex && candidate.marketIndex = marketIndex
          && if intent.actionType = .closePosition then
              candidate.clientOrderId.1 = reader.deriveVexAssignedClientOrderIndex intent.matchHash
            else some candidate.orderId.1 = intent.providerOrderId
      order.bind fun order =>
        match intent.actionType with
        | .cancelOne =>
          if isTerminalStatus reader order.status then
            some (.completed, { previous with
                terminalOrder := some (orderEvidence order)
                disposition := some (if isCanceledStatus reader order.status then .canceled
                  else .targetAlreadyTerminal)
                lastFrameType := some message.type })
          else none
        | .modify =>
          if matchesRequestedModification intent order then
            some (.completed, { previous with
                modifiedOrder := some (orderEvidence order)
                disposition := some .modified
                lastFrameType := some message.type })
          else none
        | .closePosition =>
          if isTerminalStatus reader order.status then
            some (finishCloseOutcome intent { previous with
                closeOrder := some (orderEvidence order)
                lastFrameType := some message.type })
          else none
        | .cancelAll => none

/-! ## The trades of a close -/

def isCloseTrade (intent : Intent) (trade : Trade) : Bool :=
  match intent.marketIndex, intent.requestedSide with
  | some marketIndex, some side =>
    let clientOrderId := reader.deriveVexAssignedClientOrderIndex intent.matchHash
    trade.marketId = marketIndex &&
      match side with
      | .buy => trade.bidAccountId = intent.accountIndex
          && trade.bidClientIdStr.map (·.1) = some clientOrderId
      | .sell => trade.askAccountId = intent.accountIndex
          && trade.askClientIdStr.map (·.1) = some clientOrderId
  | _, _ => false

def matchingCloseTrade (intent : Intent) (trades : List Trade) : Option Trade :=
  trades.find? (isCloseTrade reader intent)

def compareIntegerStrings (left right : IntegerString) : Int :=
  if decimalValue left.1 < decimalValue right.1 then -1
  else if decimalValue right.1 < decimalValue left.1 then 1 else 0

def tradeEvidence (intent : Intent) (trade : Trade) : TradeEvidence where
  tradeId := trade.tradeIdStr
  orderId := if intent.requestedSide = some .buy then trade.bidIdStr else trade.askIdStr
  size := trade.size
  price := trade.price
  txHash := trade.txHash

/-- The arm of `lifecycleOutcome` at a frame of trades. -/
def closeTradeOutcome (intent : Intent) (message : Message) (trades : List Trade)
    (previous : Evidence) : Option (OutcomeState × Evidence) :=
  (matchingCloseTrade reader intent trades).map fun trade =>
    let (retained, left) := readEvidenceArray previous.trades
    let dropped := readCount previous.tradesDropped + left
    let total := max (readCount previous.tradesTotal) (retained.length + dropped)
    if retained.any (·.tradeId = trade.tradeIdStr) then
      finishCloseOutcome intent { previous with
          trades := some retained
          tradesRetained := some retained.length
          tradesTotal := some total
          tradesDropped := some dropped
          tradesTruncated := some (decide (0 < dropped))
          lastFrameType := some message.type }
    else
      let sorted := sortBy (fun left right => compareIntegerStrings left.tradeId right.tradeId)
        (retained ++ [tradeEvidence intent trade])
      -- the loop that shifts the oldest rows out and counts them
      let out := sorted.length - evidenceMaxRows
      let kept := sorted.drop out
      finishCloseOutcome intent { previous with
          trades := some kept
          tradesRetained := some kept.length
          tradesTotal := some (total + 1)
          tradesDropped := some (dropped + out)
          tradesTruncated := some (decide (0 < dropped + out))
          lastFrameType := some message.type }

/-! ## Any frame -/

def lifecycleOutcome (intent : Intent) (previous : Evidence) (message : Message) :
    Option (OutcomeState × Evidence) :=
  match message with
  | .orders orders => lifecycleOrderOutcome reader intent message orders previous
  | .trades _ trades =>
    if intent.actionType ≠ .closePosition then none
    else closeTradeOutcome reader intent message (flattenTrades trades) previous
  | .positions _ positions =>
    if intent.actionType ≠ .closePosition then none
    else
      intent.marketIndex.bind fun marketIndex =>
        (positions.find? (·.1 = ofInt marketIndex)).map fun position =>
          finishCloseOutcome intent { previous with
              resultingPosition := some position.2
              lastFrameType := some message.type }

/-- The state and the outcome column of an approved intent. -/
structure Watched where
  state : ExecutionState
  outcome : Option StoredOutcome
  deriving DecidableEq

/-- The states of `listStreamWatchable` and of `markStreamEvidence`. -/
def isWatchable (state : ExecutionState) : Bool :=
  state ∈ [.signed, .submissionStaged, .apiAccepted, .sequencerPending, .ambiguous]

/-- A frame reaches an intent: `reconcileLifecycleFrame` for it. Nothing where its evidence is too
large to be stored, which stops the frame. -/
def Watched.receive (intent : Intent) (watched : Watched) (message : Message) : Option Watched :=
  if isWatchable watched.state = false then some watched
  else
    match lifecycleOutcome reader intent (previousLifecycleEvidence watched.outcome) message with
    | none => some watched
    | some (state, evidence) =>
      if watched.outcome = some (.stream evidence) ∧ watched.state = state.executionState then
        some watched
      else if reader.stores evidence then some ⟨state.executionState, some (.stream evidence)⟩
      else none

/-- The frames an intent has taken in, and what they made of it. -/
structure Followed where
  watched : Watched
  taken : List Message
  deriving DecidableEq

/-- The next frame: one that is stopped leaves everything as it is. -/
def Followed.step (intent : Intent) (followed : Followed) (message : Message) : Followed :=
  match followed.watched.receive reader intent message with
  | none => followed
  | some watched => ⟨watched, followed.taken ++ [message]⟩

end Vex.Lighter.StreamEvidence
