import UsdpIndexer.Analytics.AnalyticsStore
import UsdpIndexer.Analytics.FlowAnalytics

/-!
# The lifetime dashboard

`analytics/dashboard-readiness.ts`.  The dashboard has a row for each of five fixed ranges
and reads checkpoints, activity aggregates, flow buckets and verified yields for them.

The aggregates are selected twice: the query keeps one per chain and asset, the one that
reaches furthest, and what is left is compared with the range of the row.  So an aggregate
of exactly the range is not enough.  `published_iff` says which aggregates are.

Times are milliseconds since the epoch.
-/

namespace UsdpIndexer

open KeyedTable StableOrder SelectFirst EconomicEvents

/-! ## The ranges -/

/-- Whether a chain is indexed since its deployment or for a window only. -/
inductive CoverageKind
  | lifetime
  | window
deriving DecidableEq, Repr

/-- The blocks of a chain that the dashboard is about, and the scope that covers them. -/
structure LifetimeDashboardRange where
  chainId : ℕ
  chainSlug : String
  chainName : String
  scope : String
  coverageKind : CoverageKind
  fromBlock : ℤ
  goalBlock : ℤ
deriving DecidableEq, Repr

/-- The ranges, a chain each. -/
def lifetimeDashboardRanges : List LifetimeDashboardRange :=
  [ ⟨1, "ethereum", "Ethereum", "parallel-assets-ethereum-lifetime-v1", .lifetime,
      22639007, 25542442⟩,
    ⟨8453, "base", "Base", "parallel-assets-base-lifetime-v1", .lifetime, 31200853, 48691161⟩,
    ⟨146, "sonic", "Sonic", "parallel-assets-sonic-lifetime-v1", .lifetime, 32199398, 76014565⟩,
    ⟨43114, "avalanche", "Avalanche", "parallel-assets-avalanche-lifetime-v1", .lifetime,
      63383232, 90424055⟩,
    ⟨999, "hyperevm", "HyperEVM", "parallel-savings-hyperevm-1783558757-1784163557-v1", .window,
      39958147, 40572940⟩ ]

/-- `savingsDeploymentBlocks.get(chainId)` -/
def savingsDeploymentBlocks (chainId : ℕ) : Option ℤ :=
  [(1, (22816779 : ℤ)), (8453, 32247463), (146, 36579532), (43114, 68411905)].lookup chainId

/-! ## The database -/

/-- A row of `asset_activity_aggregates` with the time it was created. -/
structure ActivityAggregate where
  row : AssetActivityRow
  createdAt : ℤ
deriving DecidableEq, Repr

/-- The tables that the dashboard reads. -/
structure DashboardDatabase where
  index : Database
  activity : List ActivityAggregate
  flows : List FlowAggregateRow
  yields : List SavingsYieldInterval

/-! ## What a row shows -/

/-- What the dashboard shows of the activity of an asset. -/
structure LifetimeActivityMetric where
  assetId : ParallelAssetId
  windowStart : ℤ
  windowEnd : ℤ
  transferVolume : ℤ
  mintedVolume : ℤ
  burnedVolume : ℤ
  transferCount : ℕ
  uniqueParticipants : ℕ
  newHolders : ℕ
  activeHolders : ℕ
  sourceFromBlock : ℤ
  sourceToBlock : ℤ
  calculationVersion : String
deriving DecidableEq, Repr

/-- The columns of an aggregate that are shown. -/
def ActivityAggregate.metric (aggregate : ActivityAggregate) : LifetimeActivityMetric where
  assetId := aggregate.row.activity.assetId
  windowStart := aggregate.row.activity.windowStart
  windowEnd := aggregate.row.activity.windowEnd
  transferVolume := aggregate.row.activity.transferVolume
  mintedVolume := aggregate.row.activity.mintedVolume
  burnedVolume := aggregate.row.activity.burnedVolume
  transferCount := aggregate.row.activity.transferCount
  uniqueParticipants := aggregate.row.activity.uniqueParticipants
  newHolders := aggregate.row.activity.newHolders
  activeHolders := aggregate.row.activity.activeHolders
  sourceFromBlock := aggregate.row.sourceFromBlock
  sourceToBlock := aggregate.row.sourceToBlock
  calculationVersion := aggregate.row.calculationVersion

/-- What the dashboard shows of the deposits and withdrawals. -/
structure LifetimeFlowMetric where
  depositedAssets : ℕ
  withdrawnAssets : ℕ
  depositCount : ℕ
  withdrawCount : ℕ
deriving DecidableEq, Repr

/-- The reconciliation status that is shown is always `verified`. -/
structure LifetimeYieldMetric where
  fromBlock : ℤ
  toBlock : ℤ
  windowStart : ℤ
  windowEnd : ℤ
  nativeYpo : ℤ
  accruedInterest : ℤ
  pendingYieldAtStart : ℕ
  pendingYieldAtEnd : ℕ
deriving DecidableEq, Repr

/-- How far a chain has come. -/
inductive PublicationStatus
  | not_started
  | indexing
  /-- `deriving` -/
  | deriving_metrics
  | published
  | window_only
deriving DecidableEq, Repr

/-- What the dashboard shows of a chain. -/
structure LifetimeDashboardRow where
  range : LifetimeDashboardRange
  nextBlock : Option ℤ
  /-- In hundredths. -/
  progressPercent : ℤ
  publicationStatus : PublicationStatus
  publishedAssets : ℕ
  assets : List (ParallelAssetId × LifetimeActivityMetric)
  flows : Option LifetimeFlowMetric
  lifetimeYield : Option LifetimeYieldMetric
deriving DecidableEq, Repr

/-- `assets[assetId]`; of entries under one id the last is the one that counts. -/
def LifetimeDashboardRow.asset (row : LifetimeDashboardRow) (assetId : ParallelAssetId) :
    Option LifetimeActivityMetric :=
  ((row.assets.filter (·.1 = assetId)).getLast?).map Prod.snd

/-- How much of the range is behind the checkpoint, in hundredths of a per cent. -/
def lifetimeProgressPercent (fromBlock goalBlock : ℤ) (nextBlock : Option ℤ) : ℤ :=
  match nextBlock with
  | none => 0
  | some nextBlock =>
      if nextBlock ≤ fromBlock then 0
      else
        let total := goalBlock - fromBlock + 1
        let covered := if nextBlock > goalBlock then total else nextBlock - fromBlock
        (covered * 10000).tdiv total

/-- The checkpoint is past the goal. -/
def pastGoal (nextBlock : Option ℤ) (goalBlock : ℤ) : Prop := nextBlock.any (· > goalBlock)

instance (nextBlock : Option ℤ) (goalBlock : ℤ) : Decidable (pastGoal nextBlock goalBlock) :=
  inferInstanceAs (Decidable (_ = true))

/-- How far a chain has come, by its checkpoint and the number of assets that have an aggregate. -/
def lifetimePublicationStatus (nextBlock : Option ℤ) (goalBlock : ℤ) (publishedAssets : ℕ)
    (coverageKind : CoverageKind) : PublicationStatus :=
  if coverageKind = .window ∧ pastGoal nextBlock goalBlock then .window_only
  else if publishedAssets ≥ 2 then .published
  else if pastGoal nextBlock goalBlock then .deriving_metrics
  else if nextBlock ≠ none then .indexing
  else .not_started

/-! ## The queries -/

/-- The scopes that the queries ask for. -/
def dashboardScopes : List String := lifetimeDashboardRanges.map (·.scope)

/-- The chains of the dashboard. -/
def dashboardChainIds : List ℕ := lifetimeDashboardRanges.map (·.chainId)

/-- The order of the asset ids as texts. -/
def ParallelAssetId.rank : ParallelAssetId → ℕ
  | .susdp => 0
  | .usdp => 1

/-- `(chain_id, asset_id)` -/
def ActivityAggregate.asset (aggregate : ActivityAggregate) : ℕ ×ₗ ℕ :=
  toLex (aggregate.row.chainId, aggregate.row.activity.assetId.rank)

/-- `source_to_block desc, created_at desc` -/
def furthestFirst (a b : ActivityAggregate) : ℤ :=
  lexCompare (·.row.sourceToBlock) (·.createdAt) b a

namespace DashboardDatabase

variable (db : DashboardDatabase) (range : LifetimeDashboardRange)

/-- The complete aggregates of the dashboard's scopes. -/
def candidates : List ActivityAggregate :=
  db.activity.filter fun aggregate =>
    aggregate.row.sourceScope ∈ dashboardScopes ∧ aggregate.row.historyComplete

/-- Of every chain and asset the aggregate that reaches furthest. -/
def activityRows : List ActivityAggregate :=
  distinctOn ActivityAggregate.asset furthestFirst db.candidates

/-- What is left for the range. -/
def assetRows : List ActivityAggregate :=
  db.activityRows.filter fun aggregate =>
    aggregate.row.chainId = range.chainId ∧ aggregate.row.sourceFromBlock = range.fromBlock ∧
      aggregate.row.sourceToBlock = range.goalBlock

/-- The daily buckets of the range: the rows of one group of the query. -/
def flowGroup : List FlowAggregateRow :=
  db.flows.filter fun row =>
    row.provenance.chainId ∈ dashboardChainIds ∧ row.aggregate.granularity = .day ∧
      row.provenance.chainId = range.chainId ∧ row.provenance.fromBlock = range.fromBlock ∧
      row.provenance.toBlock = range.goalBlock

/-- `sum(…) filter (where metric = …)` over a group; a group has a row at least. -/
def flow : Option LifetimeFlowMetric :=
  let group := db.flowGroup range
  let deposits := group.filter (·.aggregate.metric = .susdp_deposited)
  let withdrawals := group.filter (·.aggregate.metric = .susdp_withdrawn)
  if group = [] then none
  else some
    { depositedAssets := (deposits.map (·.aggregate.amountBaseUnits)).sum
      withdrawnAssets := (withdrawals.map (·.aggregate.amountBaseUnits)).sum
      depositCount := (deposits.map (·.aggregate.eventCount)).sum
      withdrawCount := (withdrawals.map (·.aggregate.eventCount)).sum }

/-- The newest verified yield from the deployment of the vault to the goal. -/
def lifetimeYieldRow : Option SavingsYieldInterval :=
  let rows := db.yields.filter fun row =>
    row.chainId ∈ dashboardChainIds ∧ row.reconciliationStatus = .verified
  let ordered := sortBy (lexCompare (fun row => (row.chainId : ℤ)) fun row => -row.createdAt) rows
  ordered.find? fun row =>
    row.chainId = range.chainId ∧ some row.fromBlock = savingsDeploymentBlocks range.chainId ∧
      row.toBlock = range.goalBlock

/-- The next block of the range's checkpoint. -/
def nextBlock : Option ℤ :=
  let checkpoints := db.index.checkpoints.filter fun row => row.scope ∈ dashboardScopes
  (checkpoints.find? fun row => row.chainId = range.chainId ∧ row.scope = range.scope).map
    (·.nextBlock)

/-- The row of a chain. -/
def dashboardRow : LifetimeDashboardRow where
  range := range
  nextBlock := db.nextBlock range
  progressPercent := lifetimeProgressPercent range.fromBlock range.goalBlock (db.nextBlock range)
  publicationStatus := lifetimePublicationStatus (db.nextBlock range) range.goalBlock
    (db.assetRows range).length range.coverageKind
  publishedAssets := (db.assetRows range).length
  assets := (db.assetRows range).map fun aggregate =>
    (aggregate.row.activity.assetId, aggregate.metric)
  flows := db.flow range
  lifetimeYield := (db.lifetimeYieldRow range).map fun row =>
    ⟨row.fromBlock, row.toBlock, row.windowStart, row.windowEnd, row.nativeYpo,
      row.accruedInterest, row.pendingYieldAtStart, row.pendingYieldAtEnd⟩

end DashboardDatabase

/-- A row for each chain. -/
def readLifetimeDashboard (db : DashboardDatabase) : List LifetimeDashboardRow :=
  lifetimeDashboardRanges.map db.dashboardRow

/-- A range of the dashboard has one row. -/
theorem mem_readLifetimeDashboard {db : DashboardDatabase} {range : LifetimeDashboardRange}
    (known : range ∈ lifetimeDashboardRanges) {row : LifetimeDashboardRow} :
    row ∈ readLifetimeDashboard db ∧ row.range = range ↔ row = db.dashboardRow range := by
  rw [readLifetimeDashboard, List.mem_map]
  constructor
  · rintro ⟨⟨other, -, rfl⟩, rfl⟩
    rfl
  · rintro rfl
    exact ⟨⟨range, known, rfl⟩, rfl⟩

end UsdpIndexer
