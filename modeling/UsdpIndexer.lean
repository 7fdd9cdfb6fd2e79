import UsdpIndexer.Library.KeyedTable
import UsdpIndexer.Library.FailingFold
import UsdpIndexer.Library.StableOrder
import UsdpIndexer.Library.Transaction
import UsdpIndexer.Library.Machine
import UsdpIndexer.Library.IntegerCover
import UsdpIndexer.Indexer.Planner
import UsdpIndexer.Indexer.Decoder
import UsdpIndexer.Indexer.Resume
import UsdpIndexer.Indexer.CoverageSoundness
import UsdpIndexer.Indexer.Interleaving
import UsdpIndexer.Analytics.YieldIntervals
import UsdpIndexer.Analytics.HolderLedger
import UsdpIndexer.Analytics.RateWindows
import UsdpIndexer.Library.Accounting
import UsdpIndexer.Analytics.ChainCoverage
import UsdpIndexer.Library.SerialTable
import UsdpIndexer.Library.SelectFirst
import UsdpIndexer.Analytics.AnalyticsStore
import UsdpIndexer.Analytics.SavingsSnapshots
import UsdpIndexer.Analytics.UsdpSupply
import UsdpIndexer.Analytics.SavingsYield
import UsdpIndexer.Analytics.AnalyticsSystem
import UsdpIndexer.Analytics.YieldIdentity
import UsdpIndexer.Integration.Stablewatch
import UsdpIndexer.Integration.PartialCoverage
import UsdpIndexer.Integration.Headline
import UsdpIndexer.Analytics.SupplyTrace
import UsdpIndexer.Analytics.LogAnchors
import UsdpIndexer.Analytics.HistoryComponents
import UsdpIndexer.Library.Grouping
import UsdpIndexer.Analytics.EconomicEvents
import UsdpIndexer.Analytics.FlowAnalytics
import UsdpIndexer.Analytics.DashboardReadiness
import UsdpIndexer.Analytics.Publication
import UsdpIndexer.Library.DerivedTable
import UsdpIndexer.Indexer.EventBlocks
import UsdpIndexer.Analytics.FlowTotals
import UsdpIndexer.Analytics.FlowBuckets
import UsdpIndexer.Analytics.FlowHistory
import UsdpIndexer.Analytics.HolderHistory
import UsdpIndexer.Analytics.IntervalTiling
import UsdpIndexer.Library.Compounding
import UsdpIndexer.Protocol.AccrualFormula
import UsdpIndexer.Analytics.RateDiscipline
import UsdpIndexer.Analytics.CoverageReuse
import UsdpIndexer.Library.BinarySearch
import UsdpIndexer.Analytics.HistoryRanges
import UsdpIndexer.Indexer.FetchBudget
import UsdpIndexer.Library.WorkerPool
import UsdpIndexer.Indexer.BlockBatches
import UsdpIndexer.Indexer.DriftAlarm
import UsdpIndexer.Indexer.ChunkOutcome
import UsdpIndexer.Indexer.RunCounters
import UsdpIndexer.Analytics.AlignedReconciliation
import UsdpIndexer.Verification.Evaluators
import UsdpIndexer.Verification.Service
import UsdpIndexer.Verification.IntervalChecks
import UsdpIndexer.Verification.VaultAccounting
import UsdpIndexer.Integration.Staleness
import UsdpIndexer.Indexer.CanonicalCoverage
import UsdpIndexer.Analytics.HeadlineApy
import UsdpIndexer.Indexer.RequestEstimate
import UsdpIndexer.Analytics.SupplyAlignment
import UsdpIndexer.Rpc.ProviderFailover
import UsdpIndexer.Integration.InvalidEvidence
import UsdpIndexer.Analytics.RangeAnalytics
import UsdpIndexer.Analytics.AllTimeYpo
import UsdpIndexer.Library.JsonText
import UsdpIndexer.Library.Replacement
import UsdpIndexer.Rpc.Redaction
import UsdpIndexer.Indexer.ChainEvents
import UsdpIndexer.Analytics.ChainIndex
import UsdpIndexer.Analytics.ChainYield
import UsdpIndexer.Analytics.ChainFlows
import UsdpIndexer.Analytics.ChainHolders
import UsdpIndexer.Analytics.WholeDatabase
import UsdpIndexer.Analytics.ChainDashboard
import UsdpIndexer.Analytics.ChainDetail
import UsdpIndexer.Analytics.IndexedReuse
import UsdpIndexer.Library.AdvisoryLocks
import UsdpIndexer.Workers.Jobs
import UsdpIndexer.Workers.Machine
import UsdpIndexer.Workers.Exclusion
import UsdpIndexer.Workers.GuardedLanes
import UsdpIndexer.Workers.FilledLanes
import UsdpIndexer.Workers.OnChain
import UsdpIndexer.Library.Pacing
import UsdpIndexer.Rpc.RateLimit
import UsdpIndexer.Library.Overlap
import UsdpIndexer.Analytics.RangeOverlap
import UsdpIndexer.Analytics.VaultSnapshots
import UsdpIndexer.Analytics.VaultHistory
import UsdpIndexer.Analytics.SupplyReaders
