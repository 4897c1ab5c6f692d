import Vex.Lighter.AtMostOnce
import Vex.Lighter.NonceReuse
import Vex.Lighter.OrderEvidence
import Vex.Lighter.CapitalAdvisory
import Vex.Lighter.PositionEffects
import Vex.Lighter.FillOrder
import Vex.Studio.LockCycle
import Vex.Studio.OutboundOutcomes
import Vex.Studio.TransportFailure
import Vex.Studio.FrontDeaths
import Vex.Studio.ConnectionRuns
import Vex.Mcp.PipeFrontCodecs
import Vex.Bridge.NormalPaths
import Vex.Studio.EndpointAgreement
import Vex.Activity.SettledOnce
import Vex.Activity.SettledTogether
import Vex.Runtime.LeaseExclusion
import Vex.Approvals.QueueAndIntent
import Vex.Approvals.DispatchedOnce
import Vex.Money.ClearSessions
import Vex.Activity.HashlessRecovery
import Vex.Lighter.CloseTradeEvidence
import Vex.Lighter.ClosePositionBounds
import Vex.Relay.BridgePlan
import Vex.Evm.BroadcastRuns
import Vex.Lighter.DepositNeverAbandoned
import Vex.Runtime.WakeAlarms
import Vex.Approvals.DigestAgreement
import Vex.Evm.NonceRepair
import Vex.Bridge.PlaneSixTurns
import Vex.Bridge.FailureTotality
import Vex.Bridge.HandleAccount
import Vex.Approvals.ReconciledOnce
import Vex.Virtuals.CurveQuotes
import Vex.Dexscreener.DsAvroInverse
import Vex.Lighter.OrderRepairSlice
import Vex.Lighter.DecimalConversion
import Vex.Bridge.Diagnostic
import Vex.Evm.NativeValueLegs
import Vex.Money.FeeRevalidation
import Vex.Compaction.WatermarkPrefix
import Vex.Lighter.SharedReads
import Vex.Virtuals.CurveCandles
