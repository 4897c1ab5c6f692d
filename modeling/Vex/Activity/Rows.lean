import Vex.Wallet.Basic

/-!
# Rows of the activity table

A row of `agent_activity` records one event that a tool broadcast, or is about
to. It is inserted pending and ends confirmed, definitively failed or superseded
without proof.

Columns that no statement modelled here reads or writes are left out: the quoted
amounts, the token descriptions, the estimates in dollars, the route and the
provider's columns.
-/

namespace Vex.Activity

open Vex.Library
open Vex.Wallet (Instant)

inductive BridgeChainFamily where
  | eip155
  | solana
  deriving DecidableEq

inductive AgentActivityKind where
  | swap
  | bridge
  | lend
  | prediction
  | wrap
  | yield
  | launch
  | claim
  | transfer
  | transaction
  | exchange
  deriving DecidableEq

inductive AgentActivityEventRole where
  | allowanceReset
  | allowance
  | swap
  | bridgeDeposit
  | bridgeFee
  | bridgeFillExpected
  | bridgeFillObserved
  | bridgeRefund
  | lendDeposit
  | lendWithdraw
  | lendBorrowOperate
  | predictBuy
  | predictSell
  | predictClaim
  | predictClose
  | wrap
  | unwrap
  | yieldPt
  | yieldYt
  | yieldPy
  | yieldLp
  | yieldSy
  | yieldClaim
  | tokenLaunch
  | trenchFee
  | swapFee
  | poolsFee
  | poolsClaim
  | walletTransfer
  | txApprove
  | txContractCall
  | txNativeTransfer
  | txSplInstructionSet
  | txVexFee
  | creatorFeeClaim
  | holderRewardClaim
  | rewardDistribution
  | launchCancel
  | vexFee
  | exchangeDeposit
  | exchangeWithdrawal
  deriving DecidableEq

inductive AgentActivityStatus where
  | pending
  | confirmed
  | definitivelyFailed
  | supersededUnproven
  deriving DecidableEq

def isTerminalActivityStatus (status : AgentActivityStatus) : Bool := status ≠ .pending

inductive AgentActivityFailureCode where
  | feeBoundRefused
  | archiveGated
  | rangeCapped
  | rateLimited
  | computeBudget
  | methodUnsupported
  | transport
  | routeNotFound
  | slippage
  | deadlineExpired
  | insufficientLiquidity
  | allowanceOrBalance
  | chainUnsupported
  | simulationReverted
  | minedRevert
  | broadcastError
  | confirmationTimeout
  | unknown
  | bridgeFailed
  | bridgeRefunded
  | solanaSignatureExpired
  | venueUnavailable
  deriving DecidableEq

/-- The members of `CONFIRMATION_SOURCES` that the writers below record. -/
inductive ConfirmationSource where
  | toolResponse
  | receiptStatusOnlyEvm
  | receiptStatusOnlySolana
  deriving DecidableEq

/-- `settlement_source`: what the handler's own receipt proves, or what another writer recorded. -/
inductive SettlementSource where
  | toolResponse
  | other (name : JsString)
  deriving DecidableEq

structure ExecutedAmounts where
  inHuman : Option JsString
  inRaw : Option JsString
  outHuman : Option JsString
  outRaw : Option JsString
  in2Human : Option JsString
  in2Raw : Option JsString
  out2Human : Option JsString
  out2Raw : Option JsString

/-- The claim of the row: the number of the `gen_random_uuid()` that minted it. -/
abbrev ClaimToken := Nat

structure AgentActivityEvent where
  id : Nat
  protocolExecutionId : Nat
  eventRole : AgentActivityEventRole
  kind : AgentActivityKind
  chainFamily : BridgeChainFamily
  chainId : Nat
  sessionId : Option JsString
  status : AgentActivityStatus
  failureCode : Option AgentActivityFailureCode
  failureReason : Option JsString
  tokenIn2Address : Option JsString
  tokenOut2Address : Option JsString
  executed : ExecutedAmounts
  txHash : Option JsString
  nonceReservationUntil : Option Instant
  submitAttemptedAt : Option Instant
  lastCheckedAt : Option Instant
  confirmedAt : Option Instant
  updatedAt : Instant
  confirmationSource : Option ConfirmationSource
  settlementSource : Option SettlementSource
  pendingReason : Option JsString
  evmClaimLeaseUntil : Option Instant
  evmClaimToken : Option ClaimToken
  firstNoninclusionObservedAt : Option Instant

namespace AgentActivityEvent

/-- The checks `agent_activity_confirmed_has_hash`, `agent_activity_failed_has_code` and
`agent_activity_pending_has_no_terminal_fields`. -/
def checks (row : AgentActivityEvent) : Bool :=
  (row.status ≠ .confirmed ∨ (row.txHash ≠ none ∧ row.confirmedAt ≠ none))
    ∧ (row.status ≠ .definitivelyFailed ∨ row.failureCode ≠ none)
    ∧ (row.status ≠ .pending ∨ (row.confirmedAt = none ∧ row.failureCode = none))

/-- Nobody holds the row: neither a token nor a lease. -/
def Unclaimed (row : AgentActivityEvent) : Prop :=
  row.evmClaimToken = none ∧ row.evmClaimLeaseUntil = none

instance (row : AgentActivityEvent) : Decidable row.Unclaimed :=
  inferInstanceAs (Decidable (_ ∧ _))

end AgentActivityEvent

/-- Why a write that was expected to match a row matched none. -/
inductive CasMiss where
  | claimLost
  | notPending
  | windowNotElapsed
  deriving DecidableEq

/-- `CasResult`: whether the write matched, and the row as it is now. -/
structure CasResult where
  applied : Bool
  row : AgentActivityEvent
  reason : Option CasMiss

/-- A writer threw, and its transaction was rolled back. -/
inductive ActivityError where
  | rowDoesNotExist
  | requiresExecutedLegs
  | requiresCreditedIncome
  | claimSpendsNothing
  | requiresSecondInput
  | requiresSecondOutput
  | checkViolated
  deriving DecidableEq

/-- The text the error is thrown with, given what it names: the writer with the dash after it and
the row, or the role in its quotes. The database words the violation of a check itself. -/
def ActivityError.message (caller id role : String) : ActivityError → Option String
  | .rowDoesNotExist =>
    some ("agent_activity: " ++ caller ++ " row " ++ id ++ " does not exist")
  | .requiresExecutedLegs =>
    some ("agent_activity: confirmActivityEvent - event_role " ++ role
      ++ " requires executedAmountInRaw + executedAmountOutRaw")
  | .requiresCreditedIncome =>
    some ("agent_activity: confirmActivityEvent - event_role " ++ role
      ++ " requires executedAmountOutRaw (the credited income)")
  | .claimSpendsNothing =>
    some ("agent_activity: confirmActivityEvent - event_role " ++ role
      ++ " must not carry an executed input leg - a claim spends nothing")
  | .requiresSecondInput =>
    some ("agent_activity: confirmActivityEvent - event_role " ++ role
      ++ " populated a second INPUT leg, so confirming it requires executedAmountIn2Raw")
  | .requiresSecondOutput =>
    some ("agent_activity: confirmActivityEvent - event_role " ++ role
      ++ " populated a second OUTPUT leg, so confirming it requires executedAmountOut2Raw")
  | .checkViolated => none

end Vex.Activity
