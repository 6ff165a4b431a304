import NsoAdapter.Core.CohortSettlement
import NsoAdapter.Execution.ClaimExclusion
import NsoAdapter.Execution.AttemptView
import NsoAdapter.Execution.CollateralRoutes
import NsoAdapter.Execution.TombstoneConsumption
import NsoAdapter.Refresh.MirrorPublication
import NsoAdapter.Preflight.AttemptReplay
import NsoAdapter.Core.RoutePush
import NsoAdapter.StaticRoute.DeletedRoutes
import NsoAdapter.Execution.ApplyPlanUpdates
import NsoAdapter.Execution.RemovalPlan
import NsoAdapter.Intent.Delivery
import NsoAdapter.Core.MergeContent
import NsoAdapter.Execution.Residue
import NsoAdapter.Execution.OriginAttribution
import NsoAdapter.Nso.BoundarySafe
import NsoAdapter.Core.Failover
import NsoAdapter.Core.FailoverProperties
